import MediaShelves.Proofs.StandardPlans

/-!
# Topics

Where the detailed plans lead, axis by axis.  An image is under a topic exactly if it has a headline; a
video is under a topic if it has either of the two, and the title of a box stands for the other one.

Main statement: `topics_need_headlines`, with `topic_without_headline` for a video that has a topic only.
-/

namespace MediaShelves

open Catalog

/-! ## The axes -/

/-- The month of a time as YYYY-MM; a year for which four digits do not do has a sign. -/
def Timestamp.monthTitle (t : Timestamp) : String :=
  let sign := if t.year < 0 then "-" else if 9999 < t.year then "+" else ""
  sign ++ String.ofList ((Nat.toDigits 10 t.year.natAbs).leftpad 4 '0') ++ "-" ++
    DateFacets.numberTitle t.month

theorem Timestamp.monthTitle_eq (t : Timestamp) : t.monthTitle = String.ofList t.writeMonth := by
  have hpadded : (Nat.toDigits 10 t.year.natAbs).leftpad 4 '0' = Text.padded 4 t.year.natAbs := rfl
  have hyear : String.ofList (writeYear t.year) =
      (if t.year < 0 then "-" else if 9999 < t.year then "+" else "") ++
        String.ofList (Text.padded 4 t.year.natAbs) := by
    by_cases hplain : 0 ≤ t.year ∧ t.year ≤ 9999
    · have hnat : t.year.toNat = t.year.natAbs := by omega
      rw [writeYear, if_pos hplain, if_neg (by omega), if_neg (by omega), hnat]
      simp
    · -- Any other year has a sign.
      rw [writeYear, if_neg hplain]
      by_cases hnegative : t.year < 0
      · simp [hnegative, String.ofList_cons]
      · have hgreat : 9999 < t.year := by omega
        simp [hnegative, hgreat, String.ofList_cons]
  rw [monthTitle, hpadded, ← hyear, DateFacets.numberTitle_eq, writeMonth, ← String.toList_inj]
  simp

/-- The titles below those of a medium and of all topics: a topic, a headline and a month. -/
def VisualFacets.topicTitles (f : VisualFacets) (t : BoxTable) (unknown headline : String) :
    List String :=
  [f.topic.getD (t.title BoxKey.topic), headline,
    (f.taken.map Timestamp.monthTitle).getD (t.title unknown)]

theorem VisualFacets.month?_eq (f : VisualFacets) : f.month? = f.taken.map Timestamp.monthTitle := by
  rw [VisualFacets.month?]
  exact congrArg (f.taken.map ·) (funext fun t => t.monthTitle_eq.symm)

/-- The titles of the folders that the detailed plan puts an image with some facets into. -/
inductive DetailedImageLeaf (t : BoxTable) (f : VisualFacets) : List String → Prop
  | all : DetailedImageLeaf t f [t.title BoxKey.imageRoot, t.title BoxKey.imageAll]
  | directories (hdirectories : t.isEnabled BoxKey.imageDirectories) (hbelow : f.directories ≠ []) :
      DetailedImageLeaf t f
        ([t.title BoxKey.imageRoot, t.title BoxKey.imageDirectories] ++ f.directories)
  | yearMonth (hmonths : t.isEnabled BoxKey.imageYearMonth) :
      DetailedImageLeaf t f
        ([t.title BoxKey.imageRoot, t.title BoxKey.imageYearMonth, f.dates.year] ++
          f.dates.month.toList)
  | topic (hroot : t.isEnabled BoxKey.topicRoot) (htopic : t.isEnabled BoxKey.topic)
      {headline : String} (hheadline : f.headline = some headline) :
      DetailedImageLeaf t f
        ([t.title BoxKey.imageRoot, t.title BoxKey.topicRoot] ++
          f.topicTitles t BoxKey.imageUnknown headline)
  | yearDate (hdates : t.isEnabled BoxKey.imageYearDate) :
      DetailedImageLeaf t f
        [t.title BoxKey.imageRoot, t.title BoxKey.imageYearDate, f.dates.year, f.dates.date]
  | model (hmodels : t.isEnabled BoxKey.imageModels) {model : String} (hmodel : f.model = some model) :
      DetailedImageLeaf t f [t.title BoxKey.imageRoot, t.title BoxKey.imageModels, model]

/-- The titles of the folders that the detailed plan puts a video with some facets into. -/
inductive DetailedVideoLeaf (t : BoxTable) (f : VisualFacets) : List String → Prop
  | all : DetailedVideoLeaf t f [t.title BoxKey.videoRoot, t.title BoxKey.videoAll]
  | directories (hdirectories : t.isEnabled BoxKey.videoDirectories) (hbelow : f.directories ≠ []) :
      DetailedVideoLeaf t f
        ([t.title BoxKey.videoRoot, t.title BoxKey.videoDirectories] ++ f.directories)
  | topic (hroot : t.isEnabled BoxKey.topicRoot) (htopic : t.isEnabled BoxKey.topic)
      (htold : f.topic.isSome ∨ f.headline.isSome) :
      DetailedVideoLeaf t f
        ([t.title BoxKey.videoRoot, t.title BoxKey.topicRoot] ++
          f.topicTitles t BoxKey.videoUnknown (f.headline.getD (t.title BoxKey.topicExtra)))

/-! ## Where the plans lead -/

@[simp] theorem Box.title_folder (b : Box) : b.folder.title = b.title := rfl

@[simp] theorem title_plain (title upnpClass : String) :
    (Folder.plain title upnpClass).title = title := rfl

@[simp] theorem title_titled (f : Folder) (title : String) : (f.titled title).title = title := rfl

theorem titles_map_plain (titles : List String) :
    Trail.titles (titles.map fun title => Folder.plain title UpnpClass.container) = titles := by
  rw [Trail.titles, List.map_map]
  exact List.map_id titles

@[simp] theorem BoxSelection.title_box {keys : List String} (s : BoxSelection keys) (key : String)
    (hkey : key ∈ keys) : (s.box key hkey).title = s.table.title key :=
  s.title_folder key hkey

@[simp] theorem BoxSelection.enabled_box {keys : List String} (s : BoxSelection keys) (key : String)
    (hkey : key ∈ keys) : (s.box key hkey).enabled = s.table.isEnabled key :=
  s.enabled_eq_isEnabled key hkey

/-- The facets of an image, with the title of a box for a date that is unknown. -/
def Configuration.detailedImageFacets (conf : Configuration) (o : Origin) (x : MediaItem) :
    VisualFacets :=
  conf.imageFacets o x (conf.boxes.title BoxKey.imageUnknown)

/-- The facets of a video, with the title of a box for a date that is unknown. -/
def Configuration.detailedVideoFacets (conf : Configuration) (o : Origin) (x : MediaItem) :
    VisualFacets :=
  conf.videoFacets o x (conf.boxes.title BoxKey.videoUnknown)

section

variable {conf : Configuration} {o : Origin} {x : MediaItem} {ts : List String}

/-- The detailed image plan leads to the leaves of an image, and nowhere else. -/
theorem leadsTo_detailedImage_iff
    (hboxes : ∀ key ∈ Plan.detailedImageKeys, (conf.boxes.find? key).isSome) :
    (Plan.detailedImage conf ⟨conf.boxes, hboxes⟩ o x).LeadsTo ts ↔
      DetailedImageLeaf conf.boxes (conf.detailedImageFacets o x) ts := by
  rw [Configuration.detailedImageFacets]
  simp only [Plan.detailedImage, Plan.TopicBoxes.trail, Plan.TopicBoxes.enabled,
    BoxSelection.title_box, BoxSelection.enabled_box, BoxSelection.title_folder,
    BoxSelection.enabled_eq_isEnabled, Box.title_folder, Plan.leadsTo_append, Plan.leadsTo_cons,
    Plan.leadsTo_map, Plan.leadsTo_when, Plan.not_leadsTo_nil, Trail.titles_throughDirectories,
    titles_map_plain, Trail.titles_cons, Trail.titles_nil, List.cons_append, List.nil_append,
    title_plain, title_titled, Bool.and_eq_true, Bool.not_eq_true', List.isEmpty_eq_false_iff,
    Option.mem_toList, or_false, or_assoc, VisualFacets.month?_eq]
  generalize conf.imageFacets o x (conf.boxes.title BoxKey.imageUnknown) = f
  -- Each way down the plan is one leaf, with its gate, and the other way round.
  constructor
  · rintro (rfl | ⟨⟨hdirectories, hbelow⟩, rfl⟩ | ⟨hmonths, rfl⟩ | ⟨⟨hheadline, hroot, htopic⟩, rfl⟩ |
      ⟨hdates, rfl⟩ | ⟨hmodels, model, hmodel, rfl⟩)
    · exact .all
    · exact .directories hdirectories hbelow
    · exact .yearMonth hmonths
    · -- The gate asks for a headline, so the title of the box is never needed here.
      obtain ⟨headline, hheadline⟩ := Option.isSome_iff_exists.1 hheadline
      rw [hheadline]
      exact .topic hroot htopic hheadline
    · exact .yearDate hdates
    · exact .model hmodels hmodel
  · intro h
    cases h with
    | all => simp
    | directories hdirectories hbelow => simp [hdirectories, hbelow]
    | yearMonth hmonths => simp [hmonths]
    | topic hroot htopic hheadline =>
      simp [hroot, htopic, hheadline, VisualFacets.topicTitles]
    | yearDate hdates => simp [hdates]
    | model hmodels hmodel => simp [hmodels, hmodel]

/-- The detailed video plan leads to the leaves of a video, and nowhere else. -/
theorem leadsTo_detailedVideo_iff
    (hboxes : ∀ key ∈ Plan.detailedVideoKeys, (conf.boxes.find? key).isSome) :
    (Plan.detailedVideo conf ⟨conf.boxes, hboxes⟩ o x).LeadsTo ts ↔
      DetailedVideoLeaf conf.boxes (conf.detailedVideoFacets o x) ts := by
  rw [Configuration.detailedVideoFacets]
  simp only [Plan.detailedVideo, Plan.TopicBoxes.trail, Plan.TopicBoxes.enabled,
    BoxSelection.title_box, BoxSelection.enabled_box, BoxSelection.title_folder,
    BoxSelection.enabled_eq_isEnabled, Box.title_folder, Plan.leadsTo_append, Plan.leadsTo_cons,
    Plan.leadsTo_when, Plan.not_leadsTo_nil, Trail.titles_throughDirectories, Trail.titles_cons,
    Trail.titles_nil, List.cons_append, List.nil_append, title_plain, title_titled,
    Bool.and_eq_true, Bool.or_eq_true, Bool.not_eq_true', List.isEmpty_eq_false_iff, or_false,
    VisualFacets.month?_eq]
  generalize conf.videoFacets o x (conf.boxes.title BoxKey.videoUnknown) = f
  -- Each way down the plan is one leaf, with its gate, and the other way round.
  constructor
  · rintro (rfl | ⟨⟨hdirectories, hbelow⟩, rfl⟩ | ⟨⟨htold, hroot, htopic⟩, rfl⟩)
    · exact .all
    · exact .directories hdirectories hbelow
    · exact .topic hroot htopic htold
  · intro h
    cases h with
    | all => simp
    | directories hdirectories hbelow => simp [hdirectories, hbelow]
    | topic hroot htopic htold =>
      simp [hroot, htopic, htold, VisualFacets.topicTitles]

/-- With its boxes the detailed image plan leads to the leaves of an image. -/
theorem Configuration.exists_detailedImagePlan (hraw : conf.isRawImage x.mimetype = false)
    (hboxes : ∀ key ∈ Plan.detailedImageKeys, (conf.boxes.find? key).isSome) :
    ∃ plan, conf.detailedImagePlan o x = .ok plan ∧
      ∀ ts, plan.LeadsTo ts ↔ DetailedImageLeaf conf.boxes (conf.detailedImageFacets o x) ts := by
  refine ⟨Plan.detailedImage conf ⟨conf.boxes, hboxes⟩ o x, ?_,
    fun _ => leadsTo_detailedImage_iff hboxes⟩
  rw [Configuration.detailedImagePlan, hraw, BoxTable.select_eq hboxes]
  rfl

/-- With its boxes the detailed video plan leads to the leaves of a video. -/
theorem Configuration.exists_detailedVideoPlan
    (hboxes : ∀ key ∈ Plan.detailedVideoKeys, (conf.boxes.find? key).isSome) :
    ∃ plan, conf.detailedVideoPlan o x = .ok plan ∧
      ∀ ts, plan.LeadsTo ts ↔ DetailedVideoLeaf conf.boxes (conf.detailedVideoFacets o x) ts := by
  refine ⟨Plan.detailedVideo conf ⟨conf.boxes, hboxes⟩ o x, ?_,
    fun _ => leadsTo_detailedVideo_iff hboxes⟩
  rw [Configuration.detailedVideoPlan, BoxTable.select_eq hboxes]
  rfl

end

/-! ## Below the topics -/

/-- No box of some keys has the title of the box that all topics are below. -/
def BoxTable.TopicsApart (t : BoxTable) (keys : List String) : Prop :=
  ∀ key ∈ keys, t.title key ≠ t.title BoxKey.topicRoot

/-- The boxes of the other axes of images. -/
def BoxKey.imageAxes : List String :=
  [imageAll, imageDirectories, imageYearMonth, imageYearDate, imageModels]

/-- The boxes of the other axes of videos. -/
def BoxKey.videoAxes : List String :=
  [videoAll, videoDirectories]

section

variable {t : BoxTable} {f : VisualFacets} (hroot : t.isEnabled BoxKey.topicRoot)
  (htopic : t.isEnabled BoxKey.topic)

include hroot htopic

/-- An image is below the topics exactly if it has a headline, and in one place then. -/
theorem DetailedImageLeaf.below_topics_iff (hapart : t.TopicsApart BoxKey.imageAxes)
    (below : List String) :
    DetailedImageLeaf t f ([t.title BoxKey.imageRoot, t.title BoxKey.topicRoot] ++ below) ↔
      ∃ headline, f.headline = some headline ∧
        below = f.topicTitles t BoxKey.imageUnknown headline := by
  simp only [BoxTable.TopicsApart, BoxKey.imageAxes, List.forall_mem_cons] at hapart
  obtain ⟨hall, hdirectories, hmonths, hdates, hmodels, -⟩ := hapart
  constructor
  · intro h
    generalize hts : [t.title BoxKey.imageRoot, t.title BoxKey.topicRoot] ++ below = ts at h
    -- The title of an axis is the second one.
    cases h with
    | topic _ _ hheadline => exact ⟨_, hheadline, by simpa using hts⟩
    | all => simp_all
    | directories => simp_all
    | yearMonth => simp_all
    | yearDate => simp_all
    | model => simp_all
  · rintro ⟨headline, hheadline, rfl⟩
    exact .topic hroot htopic hheadline

/-- A video is below the topics exactly if it has a topic or a headline, and in one place then. -/
theorem DetailedVideoLeaf.below_topics_iff (hapart : t.TopicsApart BoxKey.videoAxes)
    (below : List String) :
    DetailedVideoLeaf t f ([t.title BoxKey.videoRoot, t.title BoxKey.topicRoot] ++ below) ↔
      (f.topic.isSome ∨ f.headline.isSome) ∧
        below = f.topicTitles t BoxKey.videoUnknown
          (f.headline.getD (t.title BoxKey.topicExtra)) := by
  simp only [BoxTable.TopicsApart, BoxKey.videoAxes, List.forall_mem_cons] at hapart
  obtain ⟨hall, hdirectories, -⟩ := hapart
  constructor
  · intro h
    -- Only the folders of topics lie below this one, as all others have another second title.
    generalize hts : [t.title BoxKey.videoRoot, t.title BoxKey.topicRoot] ++ below = ts at h
    cases h with
    | topic _ _ htold => exact ⟨htold, by simpa using hts⟩
    | all => simp_all
    | directories => simp_all
  · rintro ⟨htold, rfl⟩
    exact .topic hroot htopic htold

end

/--
**Which items are under a topic.**  With the boxes of topics enabled, the detailed plan puts an image that
is not raw below them exactly if it has a headline, and a video exactly if it has a topic or a headline,
whatever else is known.  The folder is that of the topic, or of the box for topics, below it that of the
headline, for a video without one that of the box for selections, and below it that of the month in which
the item was taken, or of the box for unknown dates.  If a box is missing, the item is put nowhere.
-/
theorem topics_need_headlines {conf : Configuration} (hroot : conf.boxes.isEnabled BoxKey.topicRoot)
    (htopic : conf.boxes.isEnabled BoxKey.topic) (o : Origin) (x : MediaItem)
    (before : List Request) :
    (conf.isRawImage x.mimetype = false →
      Builder.detailedImage.Reaches conf o x (run before empty)
        (DetailedImageLeaf conf.boxes (conf.detailedImageFacets o x))) ∧
    (conf.boxes.TopicsApart BoxKey.imageAxes → ∀ below,
      DetailedImageLeaf conf.boxes (conf.detailedImageFacets o x)
          ([conf.boxes.title BoxKey.imageRoot, conf.boxes.title BoxKey.topicRoot] ++ below) ↔
        ∃ headline, (conf.detailedImageFacets o x).headline = some headline ∧
          below = (conf.detailedImageFacets o x).topicTitles conf.boxes BoxKey.imageUnknown
            headline) ∧
    Builder.detailedVideo.Reaches conf o x (run before empty)
      (DetailedVideoLeaf conf.boxes (conf.detailedVideoFacets o x)) ∧
    (conf.boxes.TopicsApart BoxKey.videoAxes → ∀ below,
      DetailedVideoLeaf conf.boxes (conf.detailedVideoFacets o x)
          ([conf.boxes.title BoxKey.videoRoot, conf.boxes.title BoxKey.topicRoot] ++ below) ↔
        ((conf.detailedVideoFacets o x).topic.isSome ∨
            (conf.detailedVideoFacets o x).headline.isSome) ∧
          below = (conf.detailedVideoFacets o x).topicTitles conf.boxes BoxKey.videoUnknown
            ((conf.detailedVideoFacets o x).headline.getD
              (conf.boxes.title BoxKey.topicExtra))) := by
  have h : (run before empty).Consistent := consistent_empty.run before
  refine ⟨?_, ?_, ?_, ?_⟩
  · intro hraw
    have hdeclines : Builder.detailedImage.declines conf x = false := by
      simpa [Builder.declines] using hraw
    exact Builder.reaches h hdeclines (Configuration.exists_detailedImagePlan hraw)
  · exact DetailedImageLeaf.below_topics_iff hroot htopic
  · exact Builder.reaches h rfl Configuration.exists_detailedVideoPlan
  · exact DetailedVideoLeaf.below_topics_iff hroot htopic

/-! ## A video with and without a headline -/

/-- A configuration without rules, in which no directory is a topic. -/
structure Configuration.IsPlain (conf : Configuration) : Prop where
  boxes : conf.boxes = BoxTable.builtin
  headlineMap : conf.headlineMap = NameMap.empty
  topicDirectories : conf.topicDirectories = none

theorem Configuration.exists_isPlain : ∃ conf : Configuration, conf.IsPlain := by
  obtain ⟨conf, hboxes, -, hheadlines, htopics⟩ := exists_standard BoxTable.builtin
  exact ⟨conf, hboxes, hheadlines, htopics⟩

section

variable {conf : Configuration} (h : conf.IsPlain) (o : Origin) {x : MediaItem}

include h

/-- Without rules no text gets another name. -/
theorem Configuration.IsPlain.renamed_eq (purpose : RulePurpose) : conf.renamed purpose = id := by
  funext text
  rw [Configuration.renamed, h.headlineMap]
  rfl

theorem Configuration.IsPlain.topics_enabled :
    conf.boxes.isEnabled BoxKey.topicRoot ∧ conf.boxes.isEnabled BoxKey.topic := by
  simp only [h.boxes, BoxTable.isEnabled, BoxTable.find?_builtin]
  decide

/-- Where the built-in boxes put a video that has a topic or a headline. -/
theorem Configuration.IsPlain.detailedVideoLeaf
    (htold : (x.auxiliary? FactKey.sidecarTopic).isSome ∨
      (x.auxiliary? FactKey.sidecarSubtopic).isSome) :
    DetailedVideoLeaf conf.boxes (conf.detailedVideoFacets o x)
      ["Video", "Topics", (x.auxiliary? FactKey.sidecarTopic).getD "Topic",
        (x.auxiliary? FactKey.sidecarSubtopic).getD "Selection",
        ((conf.detailedVideoFacets o x).taken.map Timestamp.monthTitle).getD "Unknown"] := by
  -- Without rules and directories the facets are what the sidecar tells.
  have htopic : (conf.detailedVideoFacets o x).topic = x.auxiliary? FactKey.sidecarTopic := by
    simp [Configuration.detailedVideoFacets, Configuration.videoFacets,
      Configuration.topicDirectory?, h.topicDirectories, h.renamed_eq]
  have hheadline :
      (conf.detailedVideoFacets o x).headline = x.auxiliary? FactKey.sidecarSubtopic := by
    simp [Configuration.detailedVideoFacets, Configuration.videoFacets, h.renamed_eq]
  have htitles : [conf.boxes.title BoxKey.videoRoot, conf.boxes.title BoxKey.topicRoot,
      conf.boxes.title BoxKey.topic, conf.boxes.title BoxKey.topicExtra,
      conf.boxes.title BoxKey.videoUnknown] =
        ["Video", "Topics", "Topic", "Selection", "Unknown"] := by
    simp only [h.boxes, BoxTable.title, BoxTable.find?_builtin]
    decide
  simp only [List.cons.injEq, and_true] at htitles
  obtain ⟨hvideo, htopics, htopicTitle, hextra, hunknown⟩ := htitles
  -- The topic needs its two boxes and a topic or a headline.
  have hleaf := DetailedVideoLeaf.topic (f := conf.detailedVideoFacets o x)
    h.topics_enabled.1 h.topics_enabled.2 (by rwa [htopic, hheadline])
  rw [VisualFacets.topicTitles, htopic, hheadline, hvideo, htopics, htopicTitle, hextra,
    hunknown] at hleaf
  exact hleaf

end

/-- When a video was taken is told by its sidecar, or else by its date. -/
theorem Configuration.taken_detailedVideoFacets (conf : Configuration) (o : Origin)
    (x : MediaItem) :
    (conf.detailedVideoFacets o x).taken =
      ((x.auxiliary? FactKey.sidecarCreationTime).bind
        (recordedTime? Timestamp.compactFormat)).or
          ((x.metadata.filled? MetaKey.date).bind dayTime?) := rfl

/-- A video with a topic, a headline and a time is found below all three. -/
theorem topics_need_headlines_film :
    ∃ (conf : Configuration) (x : MediaItem) (ids : List NodeId) (c' : Catalog) (f : StoredFolder),
      conf.boxes = BoxTable.builtin ∧ conf.boxes.isEnabled BoxKey.topicRoot ∧
      conf.boxes.isEnabled BoxKey.topic ∧
      x.auxiliary = Keyed.ofList
        [(FactKey.sidecarTopic, "News"), (FactKey.sidecarSubtopic, "Rocks"),
          (FactKey.sidecarCreationTime, "20180501101500")] ∧
      Builder.detailedVideo.shelve conf (Origin.ofRoot "/films") x (run [] empty) =
        (.ok ids, c') ∧
      c'.findFolder? ["Video", "Topics", "News", "Rocks", "2018-05"] = some f ∧
      (c'.placed? x.reference f.id).isSome := by
  obtain ⟨conf, hconf⟩ := Configuration.exists_isPlain
  let x : MediaItem := { MediaItem.ofLocation "/films/a.mkv" "video/x-matroska" with
    auxiliary := Keyed.ofList
      [(FactKey.sidecarTopic, "News"), (FactKey.sidecarSubtopic, "Rocks"),
        (FactKey.sidecarCreationTime, "20180501101500")] }
  obtain ⟨hroot, htopic⟩ := hconf.topics_enabled
  have hboxes : ∀ key ∈ Plan.detailedVideoKeys, (conf.boxes.find? key).isSome :=
    hconf.boxes ▸ BoxTable.complete_builtin.1 .detailedVideo
  obtain ⟨-, -, hreaches, -⟩ :=
    topics_need_headlines hroot htopic (Origin.ofRoot "/films") x []
  obtain ⟨ids, c', hshelve, hreceives⟩ := hreaches.received hboxes
  -- Both texts are told, so the leaf of topics is there and its folders are named after them.
  have hleaf := hconf.detailedVideoLeaf (Origin.ofRoot "/films") (x := x) (.inl (by decide))
  have hmonth : ((conf.detailedVideoFacets (Origin.ofRoot "/films") x).taken.map
      Timestamp.monthTitle).getD "Unknown" = "2018-05" := by
    rw [Configuration.taken_detailedVideoFacets]
    decide +kernel
  rw [hmonth] at hleaf
  obtain ⟨f, hf, hthere⟩ := hreceives.there _ hleaf
  exact ⟨conf, x, ids, c', f, hconf.boxes, hroot, htopic, rfl, hshelve, hf, hthere⟩

/-- A video with a topic and no headline is below the topics too. -/
theorem topic_without_headline :
    ∃ (conf : Configuration) (x : MediaItem) (ids : List NodeId) (c' : Catalog) (f : StoredFolder),
      conf.boxes = BoxTable.builtin ∧
      x.auxiliary = Keyed.ofList [(FactKey.sidecarTopic, "News")] ∧
      (conf.detailedVideoFacets (Origin.ofRoot "/films") x).headline = none ∧
      Builder.detailedVideo.shelve conf (Origin.ofRoot "/films") x empty = (.ok ids, c') ∧
      c'.findFolder? ["Video", "Topics", "News", "Selection", "Unknown"] = some f ∧
      (c'.placed? x.reference f.id).isSome := by
  obtain ⟨conf, hconf⟩ := Configuration.exists_isPlain
  let x : MediaItem := { MediaItem.ofLocation "/films/a.mkv" "video/x-matroska" with
    auxiliary := Keyed.ofList [(FactKey.sidecarTopic, "News")] }
  have hboxes : ∀ key ∈ Plan.detailedVideoKeys, (conf.boxes.find? key).isSome :=
    hconf.boxes ▸ BoxTable.complete_builtin.1 .detailedVideo
  have hreaches : Builder.detailedVideo.Reaches conf (Origin.ofRoot "/films") x empty
      (DetailedVideoLeaf conf.boxes (conf.detailedVideoFacets (Origin.ofRoot "/films") x)) :=
    Builder.reaches consistent_empty rfl Configuration.exists_detailedVideoPlan
  obtain ⟨ids, c', hshelve, hreceives⟩ := hreaches.received hboxes
  have hleaf := hconf.detailedVideoLeaf (Origin.ofRoot "/films") (x := x) (.inl (by decide))
  -- Nothing tells a date, so no month is known.
  have hmonth : ((conf.detailedVideoFacets (Origin.ofRoot "/films") x).taken.map
      Timestamp.monthTitle).getD "Unknown" = "Unknown" := by
    rw [Configuration.taken_detailedVideoFacets]
    decide +kernel
  rw [hmonth] at hleaf
  obtain ⟨f, hf, hthere⟩ := hreceives.there _ hleaf
  refine ⟨conf, x, ids, c', f, hconf.boxes, rfl, ?_, hshelve, hf, hthere⟩
  -- Nobody tells a headline, and none is made up for the facets.
  have hnone : x.auxiliary? FactKey.sidecarSubtopic = none := by
    decide
  simp [Configuration.detailedVideoFacets, Configuration.videoFacets, hnone]

end MediaShelves
