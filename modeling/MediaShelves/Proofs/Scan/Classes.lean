import MediaShelves.Proofs.Catalog.Classes
import MediaShelves.Proofs.Scan.Order

/-!
# Classes of scanned media

A mimetype is read twice: for the medium, by which the builder is chosen, and for the class.  Both
readings go by the major type, but `application/ogg` is audio by an exception that the class does
not make.  What is scanned keeps its class on all shelves, so the songs of such files lie among the
others as plain items.

Main statement: `classes_tell_media_unless_ogg`.
-/

namespace MediaShelves

/-! ## The two readings -/

/-- The class of the items of a medium. -/
def Medium.itemClass : Medium → String
  | .audio => UpnpClass.musicTrack
  | .video => UpnpClass.videoItem
  | .image => UpnpClass.imageItem
  | .other => UpnpClass.item

theorem Medium.itemClass_inj {m n : Medium} : m.itemClass = n.itemClass ↔ m = n := by
  constructor
  · intro h
    cases m <;> cases n <;> first | rfl | exact absurd h (by decide)
  · exact congrArg Medium.itemClass

namespace MediaItem

theorem majorType_ogg : majorType "application/ogg" = "application" := by
  decide

/-- The class is that of the medium, unless the medium is told by the exception. -/
theorem defaultClass_eq (x : MediaItem) :
    defaultClass x.mimetype =
      if x.mimetype = "application/ogg" then UpnpClass.item else x.medium.itemClass := by
  unfold defaultClass medium
  -- The one type that is audio by its name only has no class of its own.
  by_cases hogg : x.mimetype = "application/ogg"
  · rw [hogg, majorType_ogg]
    rfl
  · simp only [hogg, if_false]
    split
    · rfl
    · split
      · rfl
      · split <;> rfl

theorem medium_of_ogg {x : MediaItem} (hx : x.mimetype = "application/ogg") :
    x.medium = .audio := by
  unfold medium
  rw [hx, majorType_ogg]
  rfl

theorem upnpClass_ofLocation (location mimetype : String) :
    (ofLocation location mimetype).upnpClass =
      if mimetype = "application/ogg" then UpnpClass.item
      else (ofLocation location mimetype).medium.itemClass :=
  defaultClass_eq (ofLocation location mimetype)

/-- The class of a new item tells its medium, unless this is told by the exception. -/
theorem upnpClass_iff_medium_iff (location mimetype : String) :
    (∀ m, (ofLocation location mimetype).upnpClass = m.itemClass ↔
      (ofLocation location mimetype).medium = m) ↔ mimetype ≠ "application/ogg" := by
  constructor
  · rintro h rfl
    -- By the exception it is audio, and so it would have to be a track.
    have htrack : UpnpClass.item = UpnpClass.musicTrack := (h .audio).2 (medium_of_ogg rfl)
    exact absurd htrack (by decide)
  · intro hogg m
    rw [upnpClass_ofLocation, if_neg hogg, Medium.itemClass_inj]

end MediaItem

/-- The medium that a builder is for; directories take whatever there is. -/
def Builder.medium? : Builder → Option Medium
  | .audio | .structuredAudio => some .audio
  | .image | .detailedImage => some .image
  | .video | .detailedVideo | .online => some .video
  | .directories => none

/-- An item is sent to a builder for its medium. -/
theorem Configuration.medium?_of_builder? {c : Configuration} {x : MediaItem} {b : Builder}
    (hb : c.builder? x = some b) : b.medium? = some x.medium := by
  unfold builder? at hb
  -- Each medium has builders of its own.
  cases hmedium : x.medium with
  | other =>
    rw [hmedium] at hb
    cases hb
  | audio | video | image =>
    simp only [hmedium] at hb
    repeat' split at hb
    all_goals
      cases hb
      rfl

namespace Scan

open Catalog

/-- The exception is made for two extensions. -/
theorem mimetype?_eq_ogg_iff {path : String} :
    mimetype? path = some "application/ogg" ↔
      lowerExtension? path = some "ogg" ∨ lowerExtension? path = some "oga" := by
  have htable : ∀ row ∈ mimetypes, row.2 = "application/ogg" → row.1 = "ogg" ∨ row.1 = "oga" := by
    decide
  unfold mimetype?
  cases lowerExtension? path with
  | none => simp
  | some extension =>
    rw [Option.bind_some, Option.some.injEq, Option.some.injEq]
    constructor
    · -- What is found under an extension is a row of the table.
      intro hlookup
      obtain ⟨before, after, hrows, -⟩ := List.lookup_eq_some_iff.1 hlookup
      exact htable (extension, "application/ogg") (by simp [hrows]) rfl
    · rintro (rfl | rfl)
      · decide
      · decide

/-! ## What is stored for a file -/

/-- What the sidecar of a file tells, if there is one that can be read. -/
def Job.told? (j : Job) (f : ScannedFile) : Option Sidecar :=
  (f.sidecar.bind j.text?).bind fun content => (Sidecar.ofText content).toOption

/-- The item of a file under an id, with what its sidecar tells. -/
def Job.itemOf (j : Job) (f : ScannedFile) (id : NodeId) : MediaItem :=
  let x := { f.item with id := some id }
  match j.told? f with
  | some told => told.apply x
  | none => x

section

variable (j : Job) (f : ScannedFile) (id : NodeId)

@[simp] theorem id_itemOf : (j.itemOf f id).id = some id := by
  unfold Job.itemOf
  split <;> rfl

@[simp] theorem refersTo_itemOf : (j.itemOf f id).refersTo = f.item.refersTo := by
  unfold Job.itemOf
  split <;> rfl

@[simp] theorem form_itemOf : (j.itemOf f id).form = f.item.form := by
  unfold Job.itemOf
  split <;> rfl

@[simp] theorem mimetype_itemOf : (j.itemOf f id).mimetype = f.item.mimetype := by
  unfold Job.itemOf
  split <;> rfl

@[simp] theorem location_itemOf : (j.itemOf f id).location = f.item.location := by
  unfold Job.itemOf
  split <;> rfl

/-- The builder of a file is chosen by what its sidecar cannot change. -/
@[simp] theorem builder?_itemOf (conf : Configuration) :
    conf.builder? (j.itemOf f id) = conf.builder? f.item := by
  simp [Configuration.builder?, MediaItem.medium]

/-- A sidecar changes the class only by telling of a movie. -/
theorem upnpClass_itemOf (hmovie : ∀ told ∈ j.told? f, told.subject ≠ .movie) :
    (j.itemOf f id).upnpClass = f.item.upnpClass := by
  unfold Job.itemOf
  split
  · rename_i told htold
    exact if_neg (hmovie told htold)
  · rfl

end

/-- What comes to the catalog for a new file is its item with what its sidecar tells. -/
theorem Job.enters_entered {c : Catalog} (h : c.Consistent) {f : ScannedFile}
    (hnew : c.file? f.item.location = none) (j : Job) :
    c.Enters (j.entered f c) ⟨c.freshId none, none, j.itemOf f (c.freshId none)⟩ := by
  have hadd := h.enters_addFile f.item
  have hconsistent := (h.registers_addFile (h.file?_eq_none_iff.1 hnew)).consistent
  rw [Job.entered, register_eq h hnew]
  unfold Job.itemOf Job.told?
  -- Without a sidecar that can be read, the item is the one that was registered.
  cases f.sidecar.bind j.text? with
  | none => exact hadd
  | some content =>
    rw [Option.bind_some]
    cases htold : Sidecar.ofText content with
    | error e =>
      simp only [Sidecar.revise, htold]
      exact hadd
    | ok told =>
      have hitem := (hadd.item (c.freshId none)).trans (if_pos rfl)
      obtain ⟨d, hrevise, hreplaces⟩ := Sidecar.revise_known hitem rfl htold
      simp only [hrevise]
      exact hadd.replaces hconsistent hreplaces rfl

/-! ## One file -/

/-- What is planned for an item, unless it is a playlist, has been carried out. -/
def Job.HasPlaced (j : Job) (c : Catalog) (x : MediaItem) : Prop :=
  isPlaylist x = false →
    ∃ plan, j.configuration.plan j.origin x = .ok plan ∧ ∀ p ∈ plan, c.Fulfils p

theorem Job.HasPlaced.mono {j : Job} {c d : Catalog} {x : MediaItem} (h : j.HasPlaced c x)
    (hc : c.Consistent) (hd : d.Consistent) (hgrows : c.Grows d) : j.HasPlaced d x := by
  intro hmedia
  obtain ⟨plan, hplan, hfulfils⟩ := h hmedia
  exact ⟨plan, hplan, fun p hp => (hfulfils p hp).mono hc hd hgrows⟩

/-- From `c` to `d` one file was shelved: it is stored as its reader and its sidecar tell. -/
structure Job.ShelvesFile (j : Job) (f : ScannedFile) (c d : Catalog) : Prop where
  copies : d.CopiesAgree
  grows : c.Grows d
  others : ∀ l, l ≠ f.item.location → d.file? l = c.file? l
  stored : ∃ id, d.file? f.item.location = some ⟨id, none, j.itemOf f id⟩ ∧
    j.HasPlaced d (j.itemOf f id)

/-- A file that is imported for the first time is shelved. -/
theorem Job.shelves_importFile {j : Job} {f : ScannedFile} {c d : Catalog} {sum sum' : Summary}
    (h : c.CopiesAgree) (hnew : c.file? f.item.location = none) (hrefers : f.item.refersTo = none)
    (hok : j.importFile f c sum = .ok (d, sum')) : j.ShelvesFile f c d := by
  have hregisters := Job.registers_entered h.consistent hnew j
  have henters := Job.enters_entered h.consistent hnew j
  have hentered : (j.entered f c).CopiesAgree :=
    h.enters hregisters.consistent henters (id_itemOf j f _) (by simp [hrefers])
  have hfile : (j.entered f c).file? f.item.location =
      some ⟨c.freshId none, none, j.itemOf f (c.freshId none)⟩ := by
    rw [← henters.file, location_itemOf]
  -- What is shelved is the item that has just come, by a plan that touches no item.
  obtain ⟨ids, -, himport, -⟩ := Job.exists_importItem_of_importFile hok
  rw [Job.enteredItem_eq hfile] at himport
  have hcopies := hentered.importItem ((henters.item _).trans (if_pos rfl)) himport
  obtain ⟨plan, hplan, hcarry⟩ := hregisters.consistent.exists_importPlan_ok himport
  have hgrows := hregisters.consistent.grows_plan plan
  have hsame := hregisters.consistent.file?_plan plan
  have hfulfils := hregisters.consistent.fulfils_plan plan
  rw [hcarry] at hgrows hsame hfulfils
  refine ⟨hcopies, hregisters.grows.trans hgrows, ?_, _, (hsame _).trans hfile, ?_⟩
  · intro l hl
    rw [hsame, hregisters.others l hl]
  · intro hmedia
    unfold isPlaylist at hmedia
    rw [Configuration.importPlan, hmedia, if_neg Bool.false_ne_true] at hplan
    exact ⟨plan, hplan, hfulfils⟩

/-! ## Many files -/

/-- From `c` to `d` some files were shelved, and no other ones became known. -/
structure Job.ShelvesFiles (j : Job) (done : List ScannedFile) (c d : Catalog) : Prop where
  copies : d.CopiesAgree
  others : ∀ l, l ∉ locations done → d.file? l = c.file? l
  stored : ∀ f ∈ done, ∃ id, d.file? f.item.location = some ⟨id, none, j.itemOf f id⟩ ∧
    j.HasPlaced d (j.itemOf f id)

theorem Job.shelvesFiles_nil (j : Job) {c : Catalog} (h : c.CopiesAgree) :
    j.ShelvesFiles [] c c where
  copies := h
  others l hl := rfl
  stored f hf := by cases hf

section

variable {j : Job} {done : List ScannedFile} {c d e : Catalog} (h : j.ShelvesFiles done c d)

include h

/-- One more file is shelved, and the files before it stay what they are. -/
theorem Job.ShelvesFiles.snoc {f : ScannedFile} (hf : f.item.location ∉ locations done)
    (hstep : j.ShelvesFile f d e) : j.ShelvesFiles (done ++ [f]) c e where
  copies := hstep.copies
  others l hl := by
    rw [locations_append, List.mem_append, not_or] at hl
    rw [hstep.others l (by simpa using hl.2), h.others l hl.1]
  stored g hg := by
    rcases List.mem_append.1 hg with hg | hg
    · -- The new file lies elsewhere than those before it.
      obtain ⟨id, hid, hplaced⟩ := h.stored g hg
      refine ⟨id, ?_, hplaced.mono h.copies.consistent hstep.copies.consistent hstep.grows⟩
      rw [hstep.others _ (location_ne_of_not_mem hf hg), hid]
    · rw [List.mem_singleton.1 hg]
      exact hstep.stored

/-- **Files that are imported one after another are all shelved.** -/
theorem Job.ShelvesFiles.importFiles {files : List ScannedFile} {sum sum' : Summary}
    (hnodup : (locations (done ++ files)).Nodup)
    (hnew : ∀ f ∈ files, c.file? f.item.location = none)
    (hrefers : ∀ f ∈ files, f.item.refersTo = none)
    (hok : files.foldlM (fun (c, sum) f => j.importFile f c sum) (d, sum) = .ok (e, sum')) :
    j.ShelvesFiles (done ++ files) c e := by
  refine Job.importFiles_induction (P := fun shelved e _ => j.ShelvesFiles shelved c e) done hok h ?_
  rintro before f after d' e' s s' rfl hbefore hstep
  rw [← List.append_assoc] at hnodup
  have hf := location_not_mem_locations hnodup
  have hmem : f ∈ before ++ f :: after := by simp
  -- A location that comes later in the list is still unknown.
  have hunknown : d'.file? f.item.location = none := (hbefore.others _ hf).trans (hnew f hmem)
  exact hbefore.snoc hf (Job.shelves_importFile hbefore.copies hunknown (hrefers f hmem) hstep)

end

/-! ## Classes on the shelves -/

/--
A file lies on the shelves with a class: it is stored with it, whatever refers to it has it, and at
the end of each trail that a builder plans for it lies one copy of it.
-/
structure Job.ShelvesAs (j : Job) (b : Builder) (c : Catalog) (r : StoredItem)
    (upnpClass : String) : Prop where
  stored : r.item.upnpClass = upnpClass
  copies : ∀ i s, c.item? i = some s → s.item.refersTo = some r.id → s.item.upnpClass = upnpClass
  placed : ∃ plan, b.plan j.configuration j.origin r.item = .ok plan ∧
    ∀ p ∈ plan, ∃ g s, c.findFolder? p.trail.titles = some g ∧
      c.copiesIn g.id r.id p.item.playlistOrder = [s] ∧ s.item.upnpClass = upnpClass

section

variable {j : Job} {done : List ScannedFile} {c d : Catalog} (h : j.ShelvesFiles done c d)

include h

/-- A file is shelved with the class that its reader gave it, unless it is told to be a movie. -/
theorem Job.ShelvesFiles.exists_shelvesAs {f : ScannedFile} (hf : f ∈ done)
    (hrefers : f.item.refersTo = none) (hmedia : isPlaylist f.item = false) {b : Builder}
    (hb : j.configuration.builder? f.item = some b)
    (hmovie : ∀ told ∈ j.told? f, told.subject ≠ .movie) :
    ∃ r, d.file? f.item.location = some r ∧ j.ShelvesAs b d r f.item.upnpClass := by
  obtain ⟨id, hstored, hplaced⟩ := h.stored f hf
  have hclass := upnpClass_itemOf j f id hmovie
  have hitem := (h.copies.consistent.item?_of_file? hstored).1
  -- Whatever refers to the file agrees with it.
  have hcopies (i : NodeId) (s : StoredItem) (hs : d.item? i = some s)
      (href : s.item.refersTo = some id) : s.item.upnpClass = f.item.upnpClass := by
    obtain ⟨t, ht, heq⟩ := h.copies.agrees i s hs id href
    cases hitem.symm.trans ht
    exact heq.symm.trans hclass
  obtain ⟨plan, hplan, hfulfils⟩ := hplaced (by simpa [isPlaylist] using hmedia)
  rw [Configuration.plan_eq, builder?_itemOf, hb] at hplan
  refine ⟨_, hstored, hclass, hcopies, plan, hplan, ?_⟩
  -- Each folder that the plan leads to has one copy, and this refers to the file.
  intro p hp
  have hcopy : p.item.refersTo = some id := by
    rw [(Builder.ofItem_plan hplan p hp).1, refersTo_itemOf, hrefers, id_itemOf]
    rfl
  obtain ⟨g, hg, hone⟩ := h.copies.consistent.exists_copy_of_fulfils
    (Builder.trailed_plan hplan p hp) hcopy (hfulfils p hp)
  obtain ⟨s, hs⟩ := List.length_eq_one_iff.1 hone
  have hmem : s ∈ d.copiesIn g.id id p.item.playlistOrder := by
    rw [hs]
    exact List.mem_singleton_self s
  obtain ⟨hin, hsame⟩ := List.mem_filter.1 hmem
  obtain ⟨i, hi, -⟩ := h.copies.consistent.mem_itemsIn.1 hin
  exact ⟨g, s, hg, hs, hcopies i s hi (of_decide_eq_true hsame).1⟩

end

/--
**The classes of items tell their media, unless the mimetype is `application/ogg`.**  Such an item
is audio, but its class is the plain one; files with two extensions have this mimetype.

Files are scanned and imported for the first time, into a catalog where what refers to an item has
its class.  This stays so, and each file that is sent to a builder is stored with one class and lies
with it at the end of each trail that the builder plans: the class of the medium that the builder is
for, or the plain one by the exception.  Only a reader that sets another class, or a sidecar that
tells of a movie, changes this.
-/
theorem classes_tell_media_unless_ogg (location mimetype : String) :
    ((∀ m, (MediaItem.ofLocation location mimetype).upnpClass = m.itemClass ↔
        (MediaItem.ofLocation location mimetype).medium = m) ↔ mimetype ≠ "application/ogg") ∧
      (mimetype = "application/ogg" →
        (MediaItem.ofLocation location mimetype).medium = .audio ∧
          (MediaItem.ofLocation location mimetype).upnpClass = UpnpClass.item) ∧
      (∀ path, mimetype? path = some "application/ogg" ↔
        lowerExtension? path = some "ogg" ∨ lowerExtension? path = some "oga") ∧
      ∀ (read : ItemReader) (files : List FoundFile) (j : Job) (c d : Catalog) (sum : Summary),
        read.InPlace → (files.map (·.path)).Nodup →
        c.CopiesAgree → (∀ f ∈ files, c.file? f.path = none) →
        j.importFiles (scan read files) c = .ok (d, sum) →
          d.CopiesAgree ∧ ∀ f ∈ scan read files, isPlaylist f.item = false →
            f.item.upnpClass = MediaItem.defaultClass f.item.mimetype →
            (∀ told ∈ j.told? f, told.subject ≠ .movie) →
            ∀ b, j.configuration.builder? f.item = some b →
              ∃ m r, b.medium? = some m ∧ d.file? f.item.location = some r ∧
                j.ShelvesAs b d r (if f.item.mimetype = "application/ogg" then UpnpClass.item
                  else m.itemClass) := by
  refine ⟨MediaItem.upnpClass_iff_medium_iff location mimetype, ?_, ?_, ?_⟩
  · rintro rfl
    exact ⟨MediaItem.medium_of_ogg rfl, MediaItem.upnpClass_ofLocation location "application/ogg"⟩
  · intro path
    exact mimetype?_eq_ogg_iff
  · intro read files j c d sum hread hpaths hc hunknown hok
    -- The files of a scan are at the paths that were found, and these are unknown.
    have hnew (f : ScannedFile) (hf : f ∈ scan read files) : c.file? f.item.location = none := by
      obtain ⟨found, hfound, hlocation, -⟩ := hread.exists_of_mem_scan hf
      rw [hlocation]
      exact hunknown found hfound
    have hrefers (f : ScannedFile) (hf : f ∈ scan read files) : f.item.refersTo = none := by
      obtain ⟨-, -, -, hself⟩ := hread.exists_of_mem_scan hf
      exact hself
    have hall : j.ShelvesFiles (scan read files) c d :=
      (j.shelvesFiles_nil hc).importFiles (hread.nodup_locations hpaths) hnew hrefers hok
    refine ⟨hall.copies, ?_⟩
    intro f hf hmedia hclass hmovie b hb
    obtain ⟨r, hr, hshelves⟩ := hall.exists_shelvesAs hf (hrefers f hf) hmedia hb hmovie
    rw [hclass, MediaItem.defaultClass_eq] at hshelves
    exact ⟨f.item.medium, r, Configuration.medium?_of_builder? hb, hr, hshelves⟩

/-- Two songs in one directory: one has the class of tracks, the other one is a plain item. -/
theorem classes_tell_media_unless_ogg_songs :
    (MediaItem.ofLocation "media/b.ogg" "application/ogg").medium = .audio ∧
      ∃ (j : Job) (c : Catalog) (sum : Summary) (r s : StoredItem),
        j.importFiles (scan readName [⟨"media/a.mp3", .empty⟩, ⟨"media/b.ogg", .empty⟩])
          Catalog.empty = .ok (c, sum) ∧
        c.file? "media/a.mp3" = some r ∧ j.ShelvesAs .audio c r UpnpClass.musicTrack ∧
        c.file? "media/b.ogg" = some s ∧ j.ShelvesAs .audio c s UpnpClass.item := by
  obtain ⟨conf, hconf⟩ := Configuration.exists_ofBoxes BoxTable.builtin
  let files : List FoundFile := [⟨"media/a.mp3", .empty⟩, ⟨"media/b.ogg", .empty⟩]
  let j : Job :=
    ⟨{ conf with options := { conf.options with audio := .standard } }, Origin.ofRoot "media",
      fun _ => none⟩
  have hboxes : j.configuration.boxes.Complete := hconf ▸ BoxTable.complete_builtin
  obtain ⟨c, sum, hok⟩ := Job.exists_importFiles_ok hboxes (scan readName files) Catalog.empty
  have hpaths : (files.map (·.path)).Nodup := by
    decide
  obtain ⟨-, hogg, -, hscan⟩ := classes_tell_media_unless_ogg "media/b.ogg" "application/ogg"
  obtain ⟨-, hfiles⟩ := hscan readName files j Catalog.empty c sum inPlace_readName hpaths
    copiesAgree_empty (by simp [file?]) hok
  -- Both files are sent to the same builder, as their names tell.
  have hsong {f : FoundFile} (hf : f ∈ files) {x : MediaItem} (hx : itemByName? f = some x)
      (hmedia : isPlaylist x = false) (hmedium : x.medium = .audio) :
      ∃ r, c.file? x.location = some r ∧ j.ShelvesAs .audio c r
        (if x.mimetype = "application/ogg" then UpnpClass.item else UpnpClass.musicTrack) := by
    obtain ⟨s, hs, rfl⟩ := List.mem_map.1
      ((items_scan_readName_perm files).mem_iff.2 (List.mem_filterMap.2 ⟨f, hf, hx⟩))
    have hclass : s.item.upnpClass = MediaItem.defaultClass s.item.mimetype := by
      obtain ⟨mimetype, -, heq⟩ := Option.map_eq_some_iff.1 hx
      rw [← heq]
      rfl
    have htold : j.told? s = none := by
      unfold Job.told?
      cases s.sidecar <;> rfl
    have hbuilder : j.configuration.builder? s.item = some .audio := by
      unfold Configuration.builder?
      rw [hmedium]
    obtain ⟨m, r, hm, hr, hshelves⟩ :=
      hfiles s hs hmedia hclass (by simp [htold]) .audio hbuilder
    cases hm
    exact ⟨r, hr, hshelves⟩
  obtain ⟨r, hr, htrack⟩ := hsong (f := ⟨"media/a.mp3", .empty⟩) (List.mem_cons_self ..)
    (x := MediaItem.ofLocation "media/a.mp3" "audio/mpeg") (by decide +kernel) (by decide)
    (by decide)
  obtain ⟨s, hs, hitem⟩ := hsong (f := ⟨"media/b.ogg", .empty⟩)
    (List.mem_cons_of_mem _ (List.mem_cons_self ..))
    (x := MediaItem.ofLocation "media/b.ogg" "application/ogg") (by decide +kernel) (by decide)
    (by decide)
  exact ⟨(hogg rfl).1, j, c, sum, r, s, hok, hr, htrack, hs, hitem⟩

/-- The exception: such an item is audio, but its class is not the one of tracks. -/
theorem ogg_is_no_track :
    ¬ ∀ location mimetype m, (MediaItem.ofLocation location mimetype).upnpClass = m.itemClass ↔
      (MediaItem.ofLocation location mimetype).medium = m := by
  intro h
  have htrack : UpnpClass.item = UpnpClass.musicTrack :=
    (h "/a.ogg" "application/ogg" .audio).2 (by decide)
  exact absurd htrack (by decide)

end Scan

end MediaShelves
