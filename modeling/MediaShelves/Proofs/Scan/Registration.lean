import MediaShelves.Proofs.ReturnedIds

/-!
# What a scan registers

A scan registers its files one after another.  Whatever is shelved in between, each of them is known
from then on under its location, and stands for itself; only its own sidecar tells about it.

Main statement: which files are known when one of them is shelved (`Job.exists_shelving`).
-/

namespace MediaShelves

namespace Catalog

/-! ## Canonical items -/

/-- A stored item is that of a file: it stands for itself. -/
structure IsFileOf (r : StoredItem) (x : MediaItem) : Prop where
  id : r.item.id = some r.id
  refersTo : r.item.refersTo = x.refersTo
  location : r.item.location = x.location
  mimetype : r.item.mimetype = x.mimetype

/-- What is told anew about a file leaves it that file. -/
theorem IsFileOf.reviseItem {r : StoredItem} {x : MediaItem} (h : IsFileOf r x) (new : MediaItem) :
    IsFileOf { r with item := Catalog.reviseItem r.item new } x :=
  ⟨h.id, h.refersTo, h.location, h.mimetype⟩

section

variable {c : Catalog} (h : c.Consistent)

include h

theorem Consistent.file?_eq_none_iff {l : String} : c.file? l = none ↔ c.fileIndex[l]? = none := by
  rw [file?, Option.bind_eq_none_iff]
  constructor
  · intro hnone
    rw [Option.eq_none_iff_forall_ne_some]
    intro i hi
    obtain ⟨r, hr, -⟩ := h.fileIndex_iff.1 hi
    rw [hnone i hi] at hr
    cases hr
  · intro hnone i hi
    rw [hnone] at hi
    cases hi

/-- A new file is known under its location; all others are what they were. -/
theorem Consistent.file?_addFile (x : MediaItem) (l : String) :
    (c.addFile x).2.file? l =
      if l = x.location then
        some ⟨c.freshId none, none, { x with id := some (c.freshId none) }⟩
      else c.file? l := by
  rw [file?, fileIndex_addFile]
  split
  · rw [Option.bind_some, item?_addFile, if_pos rfl]
  · cases hi : c.fileIndex[l]? with
    | none => rw [file?, hi]; rfl
    | some i =>
      obtain ⟨r, hr, -⟩ := h.fileIndex_iff.1 hi
      -- A file that was known has another id than the new one.
      have hne : i ≠ c.freshId none := h.ne_freshId_of_item none hr
      rw [Option.bind_some, item?_addFile, if_neg hne, file?, hi, Option.bind_some]

/-- A known file has its id and its location. -/
theorem Consistent.item?_of_file? {l : String} {r : StoredItem} (hr : c.file? l = some r) :
    c.item? r.id = some r ∧ r.item.location = l := by
  obtain ⟨i, hi, hitem⟩ := Option.bind_eq_some_iff.1 hr
  obtain ⟨s, hs, -, hl⟩ := h.fileIndex_iff.1 hi
  obtain rfl : s = r := Option.some.inj (hs.symm.trans hitem)
  rw [h.item_id hs]
  exact ⟨hs, hl⟩

/-- A file is changed if its id is the one whose item is changed. -/
theorem Consistent.file?_changeItem (i : NodeId) (change : MediaItem → MediaItem) (l : String) :
    (c.changeItem i change).file? l =
      (c.file? l).map fun r => if r.id = i then { r with item := change r.item } else r := by
  rw [file?, file?, fileIndex_changeItem]
  cases hk : c.fileIndex[l]? with
  | none => rfl
  | some k =>
    obtain ⟨r, hr, -⟩ := h.fileIndex_iff.1 hk
    obtain rfl := h.item_id hr
    rw [Option.bind_some, Option.bind_some, item?_changeItem, hr, Option.map_some, Option.map_some]
    split <;> rfl

/-- What is told anew about the item with an id changes no other file. -/
theorem Consistent.file?_revise {x : MediaItem} {i : NodeId} (hx : x.id = some i) (l : String) :
    (Catalog.revise x c).2.file? l =
      (c.file? l).map fun r => if r.id = i then { r with item := reviseItem r.item x } else r := by
  obtain ⟨hnone, heq⟩ | ⟨k, hk, -, heq⟩ := revise_cases x c
  · rw [heq]
    -- What the catalog does not have is no file either.
    cases hr : c.file? l with
    | none => rfl
    | some r =>
      have hne : r.id ≠ i := by
        rintro rfl
        have hnone := hnone r.id (by rw [hx, Option.some_or])
        rw [(h.item?_of_file? hr).1] at hnone
        cases hnone
      rw [Option.map_some, if_neg hne]
  · obtain rfl : i = k := by
      rw [hx, Option.some_or] at hk
      exact Option.some.inj hk
    rw [heq]
    exact h.file?_changeItem i (fun old => reviseItem old x) l

end

/-! ## One more file -/

/-- From `c` to `d` one more file became known; all others are what they were. -/
structure Registers (c d : Catalog) (x : MediaItem) : Prop where
  consistent : d.Consistent
  grows : c.Grows d
  others : ∀ l, l ≠ x.location → d.file? l = c.file? l
  known : ∃ r, d.file? x.location = some r ∧ IsFileOf r x

/-- A file that was not known is registered by adding it. -/
theorem Consistent.registers_addFile {c : Catalog} (h : c.Consistent) {x : MediaItem}
    (hnew : c.fileIndex[x.location]? = none) : c.Registers (c.addFile x).2 x where
  consistent := h.addFile hnew
  grows := h.grows_addFile x
  others l hl := by
    rw [h.file?_addFile, if_neg hl]
  known := by
    refine ⟨_, (h.file?_addFile x x.location).trans (if_pos rfl), ?_⟩
    exact ⟨rfl, rfl, rfl, rfl⟩

/-- A new file is known whatever its sidecar tells about it. -/
theorem Registers.sidecar {c d : Catalog} {x y : MediaItem} {r : StoredItem}
    (h : c.Registers d x) (hr : d.file? x.location = some r) (hy : y.id = some r.id)
    (content : String) : c.Registers (Sidecar.revise content y d).2 x := by
  obtain ⟨s, hs, hfile⟩ := h.known
  obtain rfl : s = r := Option.some.inj (hs.symm.trans hr)
  unfold Sidecar.revise
  split
  · rename_i told _
    have hrevise := h.consistent.file?_revise (x := told.apply y) hy
    refine ⟨h.consistent.revise _, h.grows.trans (grows_revise d _), ?_, ?_⟩
    · intro l hl
      rw [← h.others l hl]
      refine (hrevise l).trans ?_
      cases ht : d.file? l with
      | none => rfl
      | some t =>
        -- The id is that of the new file, which lies elsewhere.
        obtain ⟨hitem, rfl⟩ := h.consistent.item?_of_file? ht
        obtain ⟨hitem', hlocation⟩ := h.consistent.item?_of_file? hs
        have hne : t.id ≠ s.id := by
          intro hid
          rw [hid, hitem'] at hitem
          cases hitem
          exact hl hlocation
        rw [Option.map_some, if_neg hne]
    · refine ⟨{ s with item := reviseItem s.item (told.apply y) }, ?_, hfile.reviseItem _⟩
      refine (hrevise _).trans ?_
      rw [hs, Option.map_some, if_pos rfl]
  · exact h

end Catalog

namespace Scan

open Catalog

section

variable {c c' : Catalog} {f : ScannedFile} (h : c.Consistent)
  (hnew : c.file? f.item.location = none)

include h hnew

/-- What is registered for a file that is not known yet. -/
theorem register_eq : c.register f.item =
    ({ f.item with id := some (c.freshId none) }, (c.addFile f.item).2) :=
  register_of_none (h.file?_eq_none_iff.1 hnew)

/-- A file that is not known yet is known when it has been entered, whatever its sidecar tells. -/
theorem Job.registers_entered (j : Job) : c.Registers (j.entered f c) f.item := by
  have hadd := h.registers_addFile (h.file?_eq_none_iff.1 hnew)
  have hfirst := (h.file?_addFile f.item f.item.location).trans (if_pos rfl)
  rw [Job.entered, register_eq h hnew]
  split
  · exact hadd.sidecar hfirst rfl _
  · exact hadd

/-- Importing a file is registering it and shelving what is known of it then. -/
theorem Job.exists_registers {j : Job} {sum sum' : Summary}
    (hok : j.importFile f c sum = .ok (c', sum')) :
    ∃ d r ids, c.Registers d f.item ∧ d.file? f.item.location = some r ∧ IsFileOf r f.item ∧
      j.configuration.importItem j.text? j.origin r.item d = (.ok ids, c') := by
  obtain ⟨ids, -, himport, -⟩ := Job.exists_importItem_of_importFile hok
  have hentered := Job.registers_entered h hnew j
  obtain ⟨r, hr, hfile⟩ := hentered.known
  rw [Job.enteredItem_eq hr] at himport
  exact ⟨j.entered f c, r, ids, hentered, hr, hfile, himport⟩

end

/-! ## Many files -/

/-- Where files lie. -/
def locations (files : List ScannedFile) : List String :=
  files.map fun f => f.item.location

@[simp] theorem locations_nil : locations [] = [] := rfl

@[simp] theorem locations_cons (f : ScannedFile) (files : List ScannedFile) :
    locations (f :: files) = f.item.location :: locations files := rfl

@[simp] theorem locations_append (files files' : List ScannedFile) :
    locations (files ++ files') = locations files ++ locations files' :=
  List.map_append

section

variable {done rest : List ScannedFile} {f : ScannedFile}

theorem location_mem_locations (hf : f ∈ done) : f.item.location ∈ locations done :=
  List.mem_map_of_mem hf

/-- A file elsewhere than some others is none of them. -/
theorem location_ne_of_not_mem {g : ScannedFile} (hf : f.item.location ∉ locations done)
    (hg : g ∈ done) : g.item.location ≠ f.item.location := by
  intro heq
  exact hf (heq ▸ location_mem_locations hg)

theorem nodup_locations_left (h : (locations (done ++ rest)).Nodup) : (locations done).Nodup := by
  rw [locations_append] at h
  exact (List.nodup_append.1 h).1

/-- Files that lie in different places come one after another. -/
theorem location_not_mem_locations (h : (locations (done ++ f :: rest)).Nodup) :
    f.item.location ∉ locations done := by
  intro hmem
  rw [locations_append, List.nodup_append] at h
  exact h.2.2 _ hmem _ (location_mem_locations (List.mem_cons_self ..)) rfl

end

/-- Some files are known, each of them as itself, and no other ones. -/
structure Known (done : List ScannedFile) (c : Catalog) : Prop where
  consistent : c.Consistent
  isSome_iff : ∀ l, (c.file? l).isSome ↔ l ∈ locations done
  file : ∀ f ∈ done, ∃ r, c.file? f.item.location = some r ∧ IsFileOf r f.item

/-- At the beginning of a scan no file is known. -/
theorem known_empty : Known [] Catalog.empty where
  consistent := consistent_empty
  isSome_iff l := by simp [file?, Catalog.empty]
  file f hf := by cases hf

section

variable {done : List ScannedFile} {c c' : Catalog} {j : Job} {f : ScannedFile}
  (h : Known done c)

include h

/-- A file elsewhere than all others is not known yet. -/
theorem Known.file?_eq_none {l : String} (hl : l ∉ locations done) :
    c.file? l = none := by
  rw [← Option.not_isSome_iff_eq_none, h.isSome_iff]
  exact hl

/-- A file that is registered is one known file more. -/
theorem Known.registers (hf : f.item.location ∉ locations done)
    (hregisters : c.Registers c' f.item) : Known (done ++ [f]) c' where
  consistent := hregisters.consistent
  isSome_iff l := by
    rw [locations_append, List.mem_append, ← h.isSome_iff]
    -- The location that is new is known now; all others are as they were.
    by_cases hl : l = f.item.location
    · obtain ⟨r, hr, -⟩ := hregisters.known
      simp [hl, hr]
    · simp [hl, hregisters.others l hl]
  file g hg := by
    rcases List.mem_append.1 hg with hg | hg
    · rw [hregisters.others _ (location_ne_of_not_mem hf hg)]
      exact h.file g hg
    · rw [List.mem_singleton.1 hg]
      exact hregisters.known

/-- Shelving makes no file known, and leaves those that are as they are. -/
theorem Known.importItem {conf : Configuration} {read : String → Option String} {o : Origin}
    {x : MediaItem} {ids : List NodeId} (hok : conf.importItem read o x c = (.ok ids, c')) :
    Known done c' ∧ c.Grows c' ∧ ∀ l, c'.file? l = c.file? l := by
  obtain ⟨plan, -, hcarry⟩ := h.consistent.exists_importPlan_ok hok
  have hconsistent := h.consistent.plan plan
  have hgrows := h.consistent.grows_plan plan
  have hfiles := h.consistent.file?_plan plan
  -- An import is a plan, which makes no file known and forgets none.
  rw [hcarry] at hconsistent hgrows hfiles
  refine ⟨⟨hconsistent, ?_, ?_⟩, hgrows, hfiles⟩
  · intro l
    rw [hfiles]
    exact h.isSome_iff l
  · intro g hg
    rw [hfiles]
    exact h.file g hg

/-- One more file: when it is shelved it is known, and so is what was known before. -/
theorem Known.importFile {sum sum' : Summary}
    (hf : f.item.location ∉ locations done)
    (hok : j.importFile f c sum = .ok (c', sum')) :
    ∃ d r ids, Known (done ++ [f]) d ∧ c.Grows d ∧
      (∀ l ∈ locations done, d.file? l = c.file? l) ∧
      d.file? f.item.location = some r ∧ IsFileOf r f.item ∧
      j.configuration.importItem j.text? j.origin r.item d = (.ok ids, c') := by
  obtain ⟨d, r, ids, hd, hr, hfile, himport⟩ :=
    Job.exists_registers h.consistent (h.file?_eq_none hf) hok
  refine ⟨d, r, ids, h.registers hf hd, hd.grows, ?_, hr, hfile, himport⟩
  intro l hl
  apply hd.others
  rintro rfl
  exact hf hl

/-- **After some files all of them are known**, and whatever was known is what it was. -/
theorem Known.importFiles {files : List ScannedFile} {sum sum' : Summary}
    (hnodup : (locations (done ++ files)).Nodup)
    (hok : files.foldlM (fun (c, sum) f => j.importFile f c sum) (c, sum) = .ok (c', sum')) :
    Known (done ++ files) c' ∧ c.Grows c' ∧
      ∀ l ∈ locations done, c'.file? l = c.file? l := by
  refine Job.importFiles_induction
    (P := fun known d _ => Known known d ∧ c.Grows d ∧
      ∀ l ∈ locations done, d.file? l = c.file? l)
    done hok ⟨h, Grows.refl c, fun _ _ => rfl⟩ ?_
  rintro before f after d d' s s' rfl ⟨hd, hgrows, hsame⟩ hstep
  rw [← List.append_assoc] at hnodup
  -- The file is registered first, which makes it known, and then shelved.
  obtain ⟨e, r, ids, he, hgrows₁, hsame₁, -, -, himport⟩ :=
    hd.importFile (location_not_mem_locations hnodup) hstep
  obtain ⟨hd', hgrows₂, hsame₂⟩ := he.importItem himport
  refine ⟨hd', hgrows.trans (hgrows₁.trans hgrows₂), ?_⟩
  intro l hl
  have hl' : l ∈ locations (done ++ before) := by
    rw [locations_append]
    exact List.mem_append_left _ hl
  rw [hsame₂, hsame₁ l hl', hsame l hl]

end

/--
When a file of a scan is shelved, exactly the files up to it are known.  Nothing of what it comes to
is taken away later, and the files that are known stay what they are.
-/
theorem Job.exists_shelving {j : Job} {before after : List ScannedFile} {f : ScannedFile}
    {c : Catalog} {sum : Summary} (hnodup : (locations (before ++ f :: after)).Nodup)
    (hok : j.importFiles (before ++ f :: after) Catalog.empty = .ok (c, sum)) :
    ∃ d r ids d', Known (before ++ [f]) d ∧ d.file? f.item.location = some r ∧
      IsFileOf r f.item ∧
      j.configuration.importItem j.text? j.origin r.item d = (.ok ids, d') ∧
      d'.Consistent ∧ d'.Grows c ∧ c.Consistent ∧
      ∀ l ∈ locations (before ++ [f]), c.file? l = d.file? l := by
  rw [Job.importFiles, List.foldlM_append] at hok
  obtain ⟨⟨c₁, sum₁⟩, hbefore, hrest⟩ := bind_eq_ok hok
  rw [List.foldlM_cons] at hrest
  obtain ⟨⟨d', sum'⟩, hf, hafter⟩ := bind_eq_ok hrest
  -- The files before it, the file itself, and the files after it.
  obtain ⟨hc₁, -, -⟩ := known_empty.importFiles (nodup_locations_left hnodup) hbefore
  obtain ⟨d, r, ids, hd, -, -, hr, hfile, himport⟩ :=
    hc₁.importFile (location_not_mem_locations hnodup) hf
  obtain ⟨hd', -, hsame⟩ := hd.importItem himport
  rw [List.append_cons] at hnodup
  obtain ⟨hc, hgrows, hsame'⟩ := hd'.importFiles hnodup hafter
  refine ⟨d, r, ids, d', hd, hr, hfile, himport, hd'.consistent, hgrows, hc.consistent, ?_⟩
  intro l hl
  rw [hsame' l hl, hsame]

end Scan

end MediaShelves
