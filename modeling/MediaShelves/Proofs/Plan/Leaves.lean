import Mathlib.Logic.Basic
import MediaShelves.Proofs.Facets.Told
import MediaShelves.Proofs.Plan.Builders

/-!
# Where the standard plans lead

The titles of the folders that the standard plans put an item into, axis by axis: each is there if
its boxes are enabled, and a facet that the item does not tell has a placeholder.

Main statements: `leadsTo_audio_iff` and `leadsTo_visual_iff`.
-/

namespace MediaShelves

/-! ## Titles of a plan -/

/-- A placement of a plan has a trail with some titles. -/
def Plan.LeadsTo (plan : Plan) (ts : List String) : Prop :=
  ∃ p ∈ plan, p.trail.titles = ts

section

variable {plan rest : Plan} {ts : List String}

@[simp] theorem Plan.not_leadsTo_nil : ¬ Plan.LeadsTo [] ts := by
  simp [LeadsTo]

@[simp] theorem Plan.leadsTo_cons {p : Placement} :
    Plan.LeadsTo (p :: plan) ts ↔ p.trail.titles = ts ∨ plan.LeadsTo ts := by
  simp [LeadsTo]

@[simp] theorem Plan.leadsTo_append :
    Plan.LeadsTo (plan ++ rest) ts ↔ plan.LeadsTo ts ∨ rest.LeadsTo ts := by
  simp [LeadsTo, or_and_right, exists_or]

@[simp] theorem Plan.leadsTo_map {α : Type} {f : α → Placement} {as : List α} :
    Plan.LeadsTo (as.map f) ts ↔ ∃ a ∈ as, (f a).trail.titles = ts := by
  simp [LeadsTo]

@[simp] theorem Plan.leadsTo_when {condition : Bool} :
    (Plan.when condition plan).LeadsTo ts ↔ condition = true ∧ plan.LeadsTo ts := by
  cases condition <;> simp [Plan.when]

end

/-! ## Titles of boxes -/

/-- The title of the box under a key. -/
def BoxTable.title (t : BoxTable) (key : String) : String :=
  ((t.find? key).map (·.title)).getD ""

namespace BoxTable

variable {t : BoxTable} {key : String} {b : Box}

/-- A box that is found has the title that the table gives its key. -/
theorem title_of_find? (h : t.find? key = some b) : b.title = t.title key := by
  rw [title, h]
  rfl

/-- A box that is found is enabled if the table says so of its key. -/
theorem enabled_of_find? (h : t.find? key = some b) : b.enabled = t.isEnabled key := by
  rw [isEnabled, h]
  rfl

end BoxTable

namespace BoxSelection

variable {keys : List String} (s : BoxSelection keys) (key : String) (hkey : key ∈ keys)

/-- A selection has the boxes of its table. -/
theorem find?_eq : s.table.find? key = some (s.box key hkey) :=
  (Option.some_get _).symm

@[simp] theorem title_folder : (s.folder key hkey).title = s.table.title key :=
  BoxTable.title_of_find? (s.find?_eq key hkey)

@[simp] theorem enabled_eq_isEnabled : s.enabled key hkey = s.table.isEnabled key :=
  BoxTable.enabled_of_find? (s.find?_eq key hkey)

end BoxSelection

/-! ## Audio -/

/-- The titles of the folders that an audio item belongs into. -/
inductive AudioLeaf (conf : Configuration) (o : Origin) (x : MediaItem) : List String → Prop
  | all : AudioLeaf conf o x
      [conf.boxes.title BoxKey.audioRoot, conf.boxes.title BoxKey.audioAll]
  | artistSongs (hartists : conf.boxes.isEnabled BoxKey.audioArtists)
      (hsongs : conf.boxes.isEnabled BoxKey.audioSongs) :
      AudioLeaf conf o x
        [conf.boxes.title BoxKey.audioRoot, conf.boxes.title BoxKey.audioArtists,
          x.told MetaKey.artist "Unknown", conf.boxes.title BoxKey.audioSongs]
  | tracks (htracks : conf.boxes.isEnabled BoxKey.audioTracks) :
      AudioLeaf conf o x
        [conf.boxes.title BoxKey.audioRoot, conf.boxes.title BoxKey.audioTracks]
  | artistTracks (hartists : conf.boxes.isEnabled BoxKey.audioArtists)
      (htracks : conf.boxes.isEnabled BoxKey.audioTracks) :
      AudioLeaf conf o x
        [conf.boxes.title BoxKey.audioRoot, conf.boxes.title BoxKey.audioArtists,
          x.told MetaKey.artist "Unknown", conf.boxes.title BoxKey.audioTracks]
  | artistAlbum (hartists : conf.boxes.isEnabled BoxKey.audioArtists) :
      AudioLeaf conf o x
        [conf.boxes.title BoxKey.audioRoot, conf.boxes.title BoxKey.audioArtists,
          x.told MetaKey.artist "Unknown", x.told MetaKey.album "Unknown"]
  | album (halbums : conf.boxes.isEnabled BoxKey.audioAlbums) :
      AudioLeaf conf o x
        [conf.boxes.title BoxKey.audioRoot, conf.boxes.title BoxKey.audioAlbums,
          x.told MetaKey.album "Unknown"]
  | genre (hgenres : conf.boxes.isEnabled BoxKey.audioGenres) {genre : String}
      (hgenre : conf.NamesGenre x genre) :
      AudioLeaf conf o x
        [conf.boxes.title BoxKey.audioRoot, conf.boxes.title BoxKey.audioGenres, genre]
  | noGenre (hgenres : conf.boxes.isEnabled BoxKey.audioGenres)
      (hnone : ∀ genre, ¬ conf.NamesGenre x genre) :
      AudioLeaf conf o x
        [conf.boxes.title BoxKey.audioRoot, conf.boxes.title BoxKey.audioGenres, "Unknown"]
  | composer (hcomposers : conf.boxes.isEnabled BoxKey.audioComposers) :
      AudioLeaf conf o x
        [conf.boxes.title BoxKey.audioRoot, conf.boxes.title BoxKey.audioComposers,
          x.told MetaKey.composer "None"]
  | year (hyears : conf.boxes.isEnabled BoxKey.audioYears) :
      AudioLeaf conf o x
        [conf.boxes.title BoxKey.audioRoot, conf.boxes.title BoxKey.audioYears, x.toldYear]
  | directories (hdirectories : conf.boxes.isEnabled BoxKey.audioDirectories)
      {names : List String} (hbelow : conf.PutsBelow o x names) (hne : names ≠ []) :
      AudioLeaf conf o x
        ([conf.boxes.title BoxKey.audioRoot, conf.boxes.title BoxKey.audioDirectories] ++ names)
  | chronology (hartists : conf.boxes.isEnabled BoxKey.audioArtists)
      (hchronology : conf.boxes.isEnabled BoxKey.audioChronology) :
      AudioLeaf conf o x
        [conf.boxes.title BoxKey.audioRoot, conf.boxes.title BoxKey.audioArtists,
          x.told MetaKey.artist "Unknown", conf.boxes.title BoxKey.audioChronology,
          x.toldYear ++ " - " ++ x.told MetaKey.album "Unknown"]

/-! ## Images and videos -/

/-- The keys of the boxes that the standard plan of a visual medium needs. -/
structure VisualKeys where
  root : String
  all : String
  years : String
  dates : String
  directories : String
  unknown : String

/-- The keys of images. -/
def VisualKeys.image : VisualKeys where
  root := BoxKey.imageRoot
  all := BoxKey.imageAll
  years := BoxKey.imageYears
  dates := BoxKey.imageDates
  directories := BoxKey.imageDirectories
  unknown := BoxKey.imageUnknown

/-- The keys of videos. -/
def VisualKeys.video : VisualKeys where
  root := BoxKey.videoRoot
  all := BoxKey.videoAll
  years := BoxKey.videoYears
  dates := BoxKey.videoDates
  directories := BoxKey.videoDirectories
  unknown := BoxKey.videoUnknown

/-- The titles of the folders that an image or a video belongs into. -/
inductive VisualLeaf (conf : Configuration) (k : VisualKeys) (o : Origin) (x : MediaItem) :
    List String → Prop
  | all : VisualLeaf conf k o x [conf.boxes.title k.root, conf.boxes.title k.all]
  | year (hyears : conf.boxes.isEnabled k.years) {year : List Char} {ns : List Nat}
      (hday : x.TellsDay year ns) :
      VisualLeaf conf k o x
        ([conf.boxes.title k.root, conf.boxes.title k.years, String.ofList year] ++
          (ns.take 1).map DateFacets.numberTitle)
  | unknownYear (hyears : conf.boxes.isEnabled k.years) (hundated : x.Undated) :
      VisualLeaf conf k o x
        [conf.boxes.title k.root, conf.boxes.title k.years, conf.boxes.title k.unknown]
  | date (hdates : conf.boxes.isEnabled k.dates) {year : List Char} {ns : List Nat}
      (hday : x.TellsDay year ns) :
      VisualLeaf conf k o x
        [conf.boxes.title k.root, conf.boxes.title k.dates,
          "-".intercalate (String.ofList year :: ns.map DateFacets.numberTitle)]
  | unknownDate (hdates : conf.boxes.isEnabled k.dates) (hundated : x.Undated) :
      VisualLeaf conf k o x
        [conf.boxes.title k.root, conf.boxes.title k.dates, conf.boxes.title k.unknown]
  | directories (hdirectories : conf.boxes.isEnabled k.directories) {names : List String}
      (hbelow : conf.PutsBelow o x names) (hne : names ≠ []) :
      VisualLeaf conf k o x
        ([conf.boxes.title k.root, conf.boxes.title k.directories] ++ names)

/-! ## The audio plan -/

section

variable (o : Origin) (x : MediaItem) (names : List String)

@[simp] theorem title_artistFolder :
    (Plan.artistFolder (AudioFacets.ofItem x names)).title = x.told MetaKey.artist "Unknown" :=
  (x.told_eq MetaKey.artist "Unknown").symm

@[simp] theorem title_albumFolder :
    (Plan.albumFolder o x (AudioFacets.ofItem x names)).title = x.told MetaKey.album "Unknown" :=
  (x.told_eq MetaKey.album "Unknown").symm

@[simp] theorem title_composerFolder :
    (Plan.composerFolder (AudioFacets.ofItem x names)).title = x.told MetaKey.composer "None" :=
  (x.told_eq MetaKey.composer "None").symm

@[simp] theorem title_yearFolder :
    (Plan.yearFolder (AudioFacets.ofItem x names).year).title = x.toldYear :=
  x.toldYear_eq.symm

@[simp] theorem title_periodFolder :
    (Plan.periodFolder o (AudioFacets.ofItem x names)).title =
      x.toldYear ++ " - " ++ x.told MetaKey.album "Unknown" := by
  rw [x.toldYear_eq, x.told_eq]
  rfl

@[simp] theorem title_genreFolder (genre : String) : (Plan.genreFolder genre).title = genre := rfl

/-- Without any genre the placeholder is the only one. -/
theorem mem_genres_ofItem {genre : String} :
    genre ∈ (AudioFacets.ofItem x names).genres ↔
      genre ∈ names ∨ names = [] ∧ genre = "Unknown" := by
  cases names <;> simp [AudioFacets.genres, AudioFacets.ofItem, AudioFacets.unknown]

end

section

variable {conf : Configuration} {o : Origin} {x : MediaItem} {ts : List String}

/-- The standard audio plan leads to the leaves of an audio item, and nowhere else. -/
theorem leadsTo_audio_iff (hboxes : ∀ key ∈ Plan.audioKeys, (conf.boxes.find? key).isSome) :
    (Plan.audio conf ⟨conf.boxes, hboxes⟩ o x).LeadsTo ts ↔ AudioLeaf conf o x ts := by
  simp only [Plan.audio, Plan.leadsTo_append, Plan.leadsTo_cons, Plan.leadsTo_map,
    Plan.leadsTo_when, Plan.not_leadsTo_nil, Trail.titles_throughDirectories, Trail.titles_cons,
    Trail.titles_nil, List.cons_append, List.nil_append, BoxSelection.title_folder,
    BoxSelection.enabled_eq_isEnabled, Bool.and_eq_true, Bool.not_eq_true', List.isEmpty_eq_false_iff,
    or_false, or_assoc, title_artistFolder, title_albumFolder, title_composerFolder,
    title_yearFolder, title_periodFolder, title_genreFolder, mem_genres_ofItem,
    Configuration.genres_eq_nil_iff, ← Configuration.namesGenre_iff]
  -- Each way down the plan is one leaf, with its gate, and the other way round.
  constructor
  · rintro (rfl | ⟨⟨hartists, hsongs⟩, rfl⟩ | ⟨htracks, rfl⟩ | ⟨⟨htracks, hartists⟩, rfl⟩ |
      ⟨hartists, rfl⟩ | ⟨halbums, rfl⟩ | ⟨hgenres, genre, hgenre | ⟨hnone, rfl⟩, rfl⟩ |
      ⟨hcomposers, rfl⟩ | ⟨hyears, rfl⟩ | ⟨⟨hdirectories, hbelow⟩, rfl⟩ |
      ⟨⟨hartists, hchronology⟩, rfl⟩)
    · exact .all
    · exact .artistSongs hartists hsongs
    · exact .tracks htracks
    · exact .artistTracks hartists htracks
    · exact .artistAlbum hartists
    · exact .album halbums
    · exact .genre hgenres hgenre
    · exact .noGenre hgenres hnone
    · exact .composer hcomposers
    · exact .year hyears
    · exact .directories hdirectories (Configuration.putsBelow_iff.2 rfl) hbelow
    · exact .chronology hartists hchronology
  · intro h
    cases h with
    | all => simp
    | artistSongs hartists hsongs => simp [hartists, hsongs]
    | tracks htracks => simp [htracks]
    | artistTracks hartists htracks => simp [hartists, htracks]
    | artistAlbum hartists => simp [hartists]
    | album halbums => simp [halbums]
    | genre hgenres hgenre => simp [hgenres, hgenre]
    | noGenre hgenres hnone =>
      simp only [hnone, false_or]
      simp [hgenres]
    | composer hcomposers => simp [hcomposers]
    | year hyears => simp [hyears]
    | directories hdirectories hbelow hne =>
      obtain rfl := Configuration.putsBelow_iff.1 hbelow
      simp [hdirectories, hne]
    | chronology hartists hchronology => simp [hartists, hchronology]

/-! ## The visual plans -/

/-- Boxes are those of a table under some keys. -/
structure VisualKeys.Select (k : VisualKeys) (t : BoxTable) (b : Plan.VisualBoxes) : Prop where
  root : t.find? k.root = some b.root
  all : t.find? k.all = some b.all
  years : t.find? k.years = some b.years
  dates : t.find? k.dates = some b.dates
  directories : t.find? k.directories = some b.directories

/-- The boxes of the image plan are found under the keys of images. -/
theorem select_imageBoxes (s : BoxSelection Plan.imageKeys) :
    VisualKeys.image.Select s.table (Plan.imageBoxes s) where
  root := s.find?_eq BoxKey.imageRoot (by decide)
  all := s.find?_eq BoxKey.imageAll (by decide)
  years := s.find?_eq BoxKey.imageYears (by decide)
  dates := s.find?_eq BoxKey.imageDates (by decide)
  directories := s.find?_eq BoxKey.imageDirectories (by decide)

/-- The boxes of the video plan are found under the keys of videos. -/
theorem select_videoBoxes (s : BoxSelection Plan.videoKeys) :
    VisualKeys.video.Select s.table (Plan.videoBoxes s) where
  root := s.find?_eq BoxKey.videoRoot (by decide)
  all := s.find?_eq BoxKey.videoAll (by decide)
  years := s.find?_eq BoxKey.videoYears (by decide)
  dates := s.find?_eq BoxKey.videoDates (by decide)
  directories := s.find?_eq BoxKey.videoDirectories (by decide)

/-- The first number behind a year is its month. -/
theorem toList_month (ns : List Nat) :
    (ns.head?.map DateFacets.numberTitle).toList = (ns.take 1).map DateFacets.numberTitle := by
  cases ns <;> rfl

/-- Among the years an item lies under that of its date, or under the title for unknown ones. -/
theorem visualLeaf_year {k : VisualKeys} (hyears : conf.boxes.isEnabled k.years) :
    VisualLeaf conf k o x
      ([conf.boxes.title k.root, conf.boxes.title k.years,
        (x.toldDate (conf.boxes.title k.unknown)).year] ++
        (x.toldDate (conf.boxes.title k.unknown)).month.toList) := by
  obtain ⟨year, ns, hday⟩ | hundated := x.tellsDay_or_undated
  · rw [hday.toldDate_eq, toList_month]
    exact .year hyears hday
  · rw [hundated.toldDate_eq]
    exact .unknownYear hyears hundated

/-- Among the dates an item lies under its date, or under the title for unknown ones. -/
theorem visualLeaf_date {k : VisualKeys} (hdates : conf.boxes.isEnabled k.dates) :
    VisualLeaf conf k o x
      [conf.boxes.title k.root, conf.boxes.title k.dates,
        (x.toldDate (conf.boxes.title k.unknown)).date] := by
  obtain ⟨year, ns, hday⟩ | hundated := x.tellsDay_or_undated
  · rw [hday.toldDate_eq]
    exact .date hdates hday
  · rw [hundated.toldDate_eq]
    exact .unknownDate hdates hundated

/-- The standard plan of a visual medium leads to the leaves of its items, and nowhere else. -/
theorem leadsTo_visual_iff {k : VisualKeys} {b : Plan.VisualBoxes} {f : VisualFacets}
    (hb : k.Select conf.boxes b) (hdate : f.dates = x.toldDate (conf.boxes.title k.unknown))
    (hdirectories : f.directories = conf.directories o x) :
    (Plan.visual conf b o x f).LeadsTo ts ↔ VisualLeaf conf k o x ts := by
  have hroot : b.root.folder.title = conf.boxes.title k.root := BoxTable.title_of_find? hb.root
  have hall : b.all.folder.title = conf.boxes.title k.all := BoxTable.title_of_find? hb.all
  have hyears : b.years.folder.title = conf.boxes.title k.years :=
    BoxTable.title_of_find? hb.years
  have hdates : b.dates.folder.title = conf.boxes.title k.dates :=
    BoxTable.title_of_find? hb.dates
  have hbelow : b.directories.folder.title = conf.boxes.title k.directories :=
    BoxTable.title_of_find? hb.directories
  -- An unknown month leaves out the folder of months.
  have hmonth (month : Option String) :
      Trail.titles (month.toList.map fun title => Folder.plain title UpnpClass.container) =
        month.toList := by
    cases month <;> rfl
  have hfacet (title : String) (facts : List (String × String)) :
      (Folder.facet title UpnpClass.container facts).title = title := rfl
  simp only [Plan.visual, Plan.leadsTo_append, Plan.leadsTo_cons, Plan.leadsTo_when,
    Plan.not_leadsTo_nil, Trail.titles_throughDirectories, Trail.titles_cons, Trail.titles_nil,
    List.cons_append, List.nil_append, Bool.and_eq_true, Bool.not_eq_true',
    List.isEmpty_eq_false_iff, or_false, or_assoc, hroot, hall, hyears, hdates, hbelow, hmonth,
    hfacet, BoxTable.enabled_of_find? hb.years, BoxTable.enabled_of_find? hb.dates,
    BoxTable.enabled_of_find? hb.directories, hdate, hdirectories]
  constructor
  · rintro (rfl | ⟨hyears, rfl⟩ | ⟨hdates, rfl⟩ | ⟨⟨hdirectories, hbelow⟩, rfl⟩)
    · exact .all
    · exact visualLeaf_year hyears
    · exact visualLeaf_date hdates
    · exact .directories hdirectories (Configuration.putsBelow_iff.2 rfl) hbelow
  · intro h
    cases h with
    | all => simp
    | year hyears hday => simp [hyears, hday.toldDate_eq, toList_month]
    | unknownYear hyears hundated => simp [hyears, hundated.toldDate_eq, DateFacets.unknown]
    | date hdates hday => simp [hdates, hday.toldDate_eq]
    | unknownDate hdates hundated => simp [hdates, hundated.toldDate_eq, DateFacets.unknown]
    | directories hdirectories hbelow hne =>
      obtain rfl := Configuration.putsBelow_iff.1 hbelow
      simp [hdirectories, hne]

/-! ## Plans by their builders -/

/-- With its boxes the audio plan is made, and leads to the leaves of the item. -/
theorem Configuration.exists_audioPlan
    (hboxes : ∀ key ∈ Plan.audioKeys, (conf.boxes.find? key).isSome) :
    ∃ plan, conf.audioPlan o x = .ok plan ∧ ∀ ts, plan.LeadsTo ts ↔ AudioLeaf conf o x ts := by
  refine ⟨Plan.audio conf ⟨conf.boxes, hboxes⟩ o x, ?_, fun _ => leadsTo_audio_iff hboxes⟩
  rw [Configuration.audioPlan, BoxTable.select_eq hboxes]
  rfl

/-- With its boxes the image plan is made, and leads to the leaves of the item. -/
theorem Configuration.exists_imagePlan
    (hboxes : ∀ key ∈ Plan.imageKeys, (conf.boxes.find? key).isSome) :
    ∃ plan, conf.imagePlan o x = .ok plan ∧
      ∀ ts, plan.LeadsTo ts ↔ VisualLeaf conf .image o x ts := by
  rw [Configuration.imagePlan, BoxTable.select_eq hboxes]
  refine ⟨_, rfl, fun ts => leadsTo_visual_iff (select_imageBoxes ⟨_, hboxes⟩) ?_ rfl⟩
  rw [BoxSelection.title_folder]
  rfl

/-- With its boxes the video plan is made, and leads to the leaves of the item. -/
theorem Configuration.exists_videoPlan
    (hboxes : ∀ key ∈ Plan.videoKeys, (conf.boxes.find? key).isSome) :
    ∃ plan, conf.videoPlan o x = .ok plan ∧
      ∀ ts, plan.LeadsTo ts ↔ VisualLeaf conf .video o x ts := by
  rw [Configuration.videoPlan, BoxTable.select_eq hboxes]
  refine ⟨_, rfl, fun ts => leadsTo_visual_iff (select_videoBoxes ⟨_, hboxes⟩) ?_ rfl⟩
  rw [BoxSelection.title_folder]
  rfl

end

end MediaShelves
