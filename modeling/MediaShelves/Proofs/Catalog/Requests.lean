import MediaShelves.Proofs.Catalog.Consistency

/-!
# Requests

A catalog is used by requests, one after another.  Each keeps the tables in agreement, and none
takes anything away: a node keeps its id, its place and its title, or its identity and position.
What a request can come to is said once, by `openChild_cases`, `place_cases`, `register_cases` and
`revise_cases`; whatever is proved about requests goes through these.

Main statement: after any requests the tables of a catalog agree (`tables_agree_after_requests`).
-/

namespace MediaShelves.Catalog

/-! ## Requests and runs -/

/-- What a catalog is asked to do. -/
inductive Request where
  | register (x : MediaItem)
  | openTrail (t : Trail)
  | place (x : MediaItem) (folder : NodeId) (hint : Option String)
  | revise (x : MediaItem)

/-- The catalog after a request. -/
def Request.apply : Request → Catalog → Catalog
  | .register x, c => (c.register x).2
  | .openTrail t, c => (Catalog.openTrail t c).2
  | .place x folder hint, c => (Catalog.place x folder hint c).2
  | .revise x, c => (Catalog.revise x c).2

/-- The catalog after a list of requests. -/
def run (rs : List Request) (c : Catalog) : Catalog :=
  rs.foldl (fun c r => r.apply c) c

@[simp] theorem run_nil (c : Catalog) : run [] c = c := rfl

@[simp] theorem run_cons (r : Request) (rs : List Request) (c : Catalog) :
    run (r :: rs) c = run rs (r.apply c) := rfl

/-- Requests after requests are one run. -/
theorem run_append (rs qs : List Request) (c : Catalog) :
    run (rs ++ qs) c = run qs (run rs c) :=
  List.foldl_append

/-! ## Changes that requests make -/

@[simp] theorem title_mergeFolder (old new : Folder) :
    (mergeFolder old new).title = old.title := rfl

@[simp] theorem pinned_mergeFolder (old new : Folder) :
    (mergeFolder old new).pinned = old.pinned := rfl

@[simp] theorem title_hintFolder (hint : Option String) (f : Folder) :
    (hintFolder hint f).title = f.title := by
  cases hint with
  | none => rfl
  | some cls =>
    simp only [hintFolder]
    split <;> rfl

@[simp] theorem pinned_hintFolder (hint : Option String) (f : Folder) :
    (hintFolder hint f).pinned = f.pinned := by
  cases hint with
  | none => rfl
  | some cls =>
    simp only [hintFolder]
    split <;> rfl

/-- A revision leaves alone where an item is found: its location, its identity and its position. -/
theorem keepsPlace_reviseItem (new : MediaItem) : KeepsPlace fun old => reviseItem old new :=
  fun _ => ⟨rfl, rfl, rfl⟩

/-! ## What becomes of a request -/

section Outcomes

variable {c : Catalog} {path : String} {x : MediaItem} {folder id : NodeId}

/-- A folder that is there takes over what is told about it. -/
theorem openChild_of_some (parent : NodeId) (f : Folder) (hid : c.pathIndex[path]? = some id) :
    openChild parent path f c = (id, c.changeFolder id fun old => mergeFolder old f) := by
  rw [openChild, hid]

/-- A folder that is not there is made. -/
theorem openChild_of_none (parent : NodeId) (f : Folder) (hnone : c.pathIndex[path]? = none) :
    openChild parent path f c = c.addFolder parent path f := by
  rw [openChild, hnone]

/-- Opening a folder below another is one of two things: the folder is told more, or it is made. -/
theorem openChild_cases (parent : NodeId) (path : String) (f : Folder) (c : Catalog) :
    (∃ id, c.pathIndex[path]? = some id ∧
        openChild parent path f c = (id, c.changeFolder id fun old => mergeFolder old f)) ∨
      c.pathIndex[path]? = none ∧ openChild parent path f c = c.addFolder parent path f := by
  cases hindex : c.pathIndex[path]? with
  | some id => exact .inl ⟨id, rfl, openChild_of_some parent f hindex⟩
  | none => exact .inr ⟨rfl, openChild_of_none parent f hindex⟩

@[simp] theorem freshId_none_changeFolder (c : Catalog) (id : NodeId) (change : Folder → Folder) :
    (c.changeFolder id change).freshId none = c.freshId none := rfl

/-- Nothing is put into a folder that is not there. -/
theorem place_of_absent (x : MediaItem) (hint : Option String)
    (habsent : ¬ (folder = rootId ∨ (c.folder? folder).isSome)) :
    place x folder hint c = (none, c) :=
  if_neg habsent

/-- An item that something is in the way of leaves a hint only. -/
theorem place_of_some (hint : Option String) (hfolder : folder = rootId ∨ (c.folder? folder).isSome)
    (hid : c.placed? x folder = some id) :
    place x folder hint c = (none, c.changeFolder folder (hintFolder hint)) := by
  have hplaced : (c.changeFolder folder (hintFolder hint)).placed? x folder = some id := hid
  simp only [place, if_pos hfolder, hplaced]

/-- An item that nothing is in the way of is added below a hint. -/
theorem place_of_none (hint : Option String) (hfolder : folder = rootId ∨ (c.folder? folder).isSome)
    (hnone : c.placed? x folder = none) :
    place x folder hint c = (some (c.freshId none),
      ((c.changeFolder folder (hintFolder hint)).addItem folder x).2) := by
  have hplaced : (c.changeFolder folder (hintFolder hint)).placed? x folder = none := hnone
  simp only [place, if_pos hfolder, hplaced]
  rfl

/--
Placing an item is one of three things: nothing, a hint to the folder, or a hint and a new item.
-/
theorem place_cases (x : MediaItem) (folder : NodeId) (hint : Option String) (c : Catalog) :
    ¬ (folder = rootId ∨ (c.folder? folder).isSome) ∧ place x folder hint c = (none, c) ∨
      (folder = rootId ∨ (c.folder? folder).isSome) ∧ (c.placed? x folder).isSome ∧
        place x folder hint c = (none, c.changeFolder folder (hintFolder hint)) ∨
      (folder = rootId ∨ (c.folder? folder).isSome) ∧ c.placed? x folder = none ∧
        place x folder hint c = (some (c.freshId none),
          ((c.changeFolder folder (hintFolder hint)).addItem folder x).2) := by
  by_cases hfolder : folder = rootId ∨ (c.folder? folder).isSome
  · cases hplaced : c.placed? x folder with
    | some id => exact .inr (.inl ⟨hfolder, rfl, place_of_some hint hfolder hplaced⟩)
    | none => exact .inr (.inr ⟨hfolder, rfl, place_of_none hint hfolder hplaced⟩)
  · exact .inl ⟨hfolder, place_of_absent x hint hfolder⟩

/-- A file that is known stays as it is. -/
theorem register_of_some (hid : c.fileIndex[x.location]? = some id) :
    c.register x = ({ x with id := some id }, c) := by
  rw [register, hid]

/-- A file that is not known becomes known. -/
theorem register_of_none (hnone : c.fileIndex[x.location]? = none) :
    c.register x = ({ x with id := some (c.freshId none) }, (c.addFile x).2) := by
  rw [register, hnone]
  rfl

/-- Registering a file tells the id it has, or makes it known under a fresh one. -/
theorem register_cases (c : Catalog) (x : MediaItem) :
    (∃ id, c.fileIndex[x.location]? = some id ∧ c.register x = ({ x with id := some id }, c)) ∨
      c.fileIndex[x.location]? = none ∧
        c.register x = ({ x with id := some (c.freshId none) }, (c.addFile x).2) := by
  cases hindex : c.fileIndex[x.location]? with
  | some id => exact .inl ⟨id, rfl, register_of_some hindex⟩
  | none => exact .inr ⟨rfl, register_of_none hindex⟩

/-- What the catalog does not have cannot be revised. -/
theorem revise_of_none
    (hnone : ∀ id, x.id.or c.fileIndex[x.location]? = some id → c.item? id = none) :
    revise x c = (none, c) := by
  unfold revise
  cases hid : x.id.or c.fileIndex[x.location]? with
  | none => rfl
  | some id => simp only [hnone id hid]

/-- What is told anew about an item of the catalog becomes part of it. -/
theorem revise_of_some (hid : x.id.or c.fileIndex[x.location]? = some id)
    (hitem : (c.item? id).isSome) :
    revise x c = (some id, c.changeItem id fun old => reviseItem old x) := by
  obtain ⟨r, hr⟩ := Option.isSome_iff_exists.1 hitem
  simp only [revise, hid, hr]

/-- Revising an item changes the one item that is meant, or nothing where none is. -/
theorem revise_cases (x : MediaItem) (c : Catalog) :
    (∀ id, x.id.or c.fileIndex[x.location]? = some id → c.item? id = none) ∧
        revise x c = (none, c) ∨
      ∃ id, x.id.or c.fileIndex[x.location]? = some id ∧ (c.item? id).isSome ∧
        revise x c = (some id, c.changeItem id fun old => reviseItem old x) := by
  by_cases hsome : ∃ id, x.id.or c.fileIndex[x.location]? = some id ∧ (c.item? id).isSome
  · obtain ⟨id, hid, hitem⟩ := hsome
    exact .inr ⟨id, hid, hitem, revise_of_some hid hitem⟩
  · have hnone (id : NodeId) (hid : x.id.or c.fileIndex[x.location]? = some id) :
        c.item? id = none :=
      Option.not_isSome_iff_eq_none.1 fun hitem => hsome ⟨id, hid, hitem⟩
    exact .inl ⟨hnone, revise_of_none hnone⟩

end Outcomes

/-! ## Trails -/

section Trails

variable {c : Catalog} (h : c.Consistent)

include h

/-- The path of a folder leads to it. -/
theorem Consistent.pathIndex_of_folder {i : NodeId} {r : StoredFolder}
    (hr : c.folder? i = some r) : c.pathIndex[r.path]? = some i :=
  h.pathIndex_iff.2 ⟨r, hr, rfl⟩

/-- What is found at a path has this path. -/
theorem Consistent.pathOf?_of_pathIndex {p : String} {i : NodeId}
    (hi : c.pathIndex[p]? = some i) : c.pathOf? i = some p := by
  obtain ⟨r, hr, rfl⟩ := h.pathIndex_iff.1 hi
  simp [pathOf?, (h.folder_bounds hr).1, hr]

/--
Opening a folder keeps the tables in agreement, and the folder has the path that was asked for.
-/
theorem Consistent.openChild {parent : NodeId} {p : String} (hp : c.pathOf? parent = some p)
    (f : Folder) :
    (openChild parent (ContainerPath.child p f.title) f c).2.Consistent ∧
      (openChild parent (ContainerPath.child p f.title) f c).2.pathOf?
          (openChild parent (ContainerPath.child p f.title) f c).1 =
        some (ContainerPath.child p f.title) := by
  -- A folder that is told more has the path it was found by; a new one gets the path asked for.
  obtain ⟨id, hid, heq⟩ | ⟨hnone, heq⟩ :=
    openChild_cases parent (ContainerPath.child p f.title) f c
  · rw [heq]
    refine ⟨h.changeFolder id (fun g => title_mergeFolder g f) (fun g => pinned_mergeFolder g f), ?_⟩
    rw [pathOf?_changeFolder]
    exact h.pathOf?_of_pathIndex hid
  · rw [heq]
    refine ⟨h.addFolder hp hnone, ?_⟩
    simp [pathOf?, h.freshId_ne_root]

end Trails

/-- Going down a trail keeps the tables in agreement and ends at the path of the trail. -/
theorem Consistent.openBelow {t : Trail} {c : Catalog} (h : c.Consistent) {parent : NodeId}
    {ts : List String} (hp : c.pathOf? parent = some (ContainerPath.ofTitles ts)) :
    (openBelow parent (ContainerPath.ofTitles ts) t c).2.Consistent ∧
      (openBelow parent (ContainerPath.ofTitles ts) t c).2.pathOf?
          (openBelow parent (ContainerPath.ofTitles ts) t c).1 =
        some (ContainerPath.ofTitles (ts ++ t.titles)) := by
  -- Each folder of the trail is the parent of the next one, at a path that is longer by its title.
  induction t generalizing c parent ts with
  | nil =>
    refine ⟨h, ?_⟩
    simpa [Catalog.openBelow, Trail.titles] using hp
  | cons f t ih =>
    obtain ⟨hc, hpath⟩ := h.openChild hp f
    rw [ContainerPath.child_ofTitles] at hc hpath
    have hrest := ih hc hpath
    simp only [Catalog.openBelow, ContainerPath.child_ofTitles]
    simpa [Trail.titles] using hrest

/-- Opening a trail keeps the tables in agreement. -/
theorem Consistent.openTrail {c : Catalog} (h : c.Consistent) (t : Trail) :
    (openTrail t c).2.Consistent := by
  exact (h.openBelow (pathOf?_root c)).1

/-! ## Requests -/

/-- A hint says nothing about where a folder lies. -/
theorem Consistent.hint {c : Catalog} (h : c.Consistent) (folder : NodeId)
    (hint : Option String) : (c.changeFolder folder (hintFolder hint)).Consistent :=
  h.changeFolder folder (title_hintFolder hint) (pinned_hintFolder hint)

/-- Placing an item keeps the tables in agreement, for it has a folder above it or is not placed. -/
theorem Consistent.place {c : Catalog} (h : c.Consistent) (x : MediaItem) (folder : NodeId)
    (hint : Option String) : (place x folder hint c).2.Consistent := by
  obtain ⟨-, heq⟩ | ⟨-, -, heq⟩ | ⟨hfolder, hnone, heq⟩ := place_cases x folder hint c
  · rw [heq]
    exact h
  · rw [heq]
    exact h.hint folder hint
  · rw [heq]
    refine (h.hint folder hint).addItem ?_ hnone
    rw [pathOf?_changeFolder]
    -- The item lies below the root or below a folder, and either has a path.
    rcases hfolder with hroot | hsome
    · simp [pathOf?, hroot]
    · unfold pathOf?
      split <;> simp [hsome]

/-- Registering a file keeps the tables in agreement. -/
theorem Consistent.register {c : Catalog} (h : c.Consistent) (x : MediaItem) :
    (c.register x).2.Consistent := by
  obtain ⟨id, -, heq⟩ | ⟨hnone, heq⟩ := c.register_cases x
  · rw [heq]
    exact h
  · rw [heq]
    exact h.addFile hnone

/-- Revising an item keeps the tables in agreement, for it leaves alone where the item is found. -/
theorem Consistent.revise {c : Catalog} (h : c.Consistent) (x : MediaItem) :
    (revise x c).2.Consistent := by
  obtain ⟨-, heq⟩ | ⟨id, -, -, heq⟩ := revise_cases x c
  · rw [heq]
    exact h
  · rw [heq]
    exact h.changeItem id (keepsPlace_reviseItem x)

/-- Every request keeps the tables in agreement. -/
theorem Consistent.apply {c : Catalog} (h : c.Consistent) (r : Request) :
    (r.apply c).Consistent := by
  cases r with
  | register x => exact h.register x
  | openTrail t => exact h.openTrail t
  | place x folder hint => exact h.place x folder hint
  | revise x => exact h.revise x

/-- So does every run. -/
theorem Consistent.run {c : Catalog} (h : c.Consistent) (rs : List Request) :
    (run rs c).Consistent := by
  induction rs generalizing c with
  | nil => exact h
  | cons r rs ih => exact ih (h.apply r)

/-- Two folders below the same node have different titles. -/
theorem Consistent.title_unique {c : Catalog} (h : c.Consistent) {i j : NodeId}
    {r s : StoredFolder} (hr : c.folder? i = some r) (hs : c.folder? j = some s)
    (hparent : r.parent = s.parent) (htitle : r.folder.title = s.folder.title) : i = j := by
  obtain ⟨p, hp, hpath⟩ := h.folder_path hr
  obtain ⟨q, hq, hother⟩ := h.folder_path hs
  rw [hparent, hq] at hp
  cases hp
  -- The two folders lie at one path, and a path leads to one folder.
  have hi := h.pathIndex_of_folder hr
  rw [hpath, htitle, ← hother, h.pathIndex_of_folder hs] at hi
  exact (Option.some.inj hi).symm

/--
**The tables agree after any requests.**  Ids of folders and items differ, are not that of the root
and lie below the next one; paths and folders belong to each other one to one, and the path of a
folder is that of its parent and its title; every node is once among the children of its parent and
nowhere else; the index of files holds the canonical items; and no folder holds two folders of one
title, nor an item twice at the same position.
-/
theorem tables_agree_after_requests (rs : List Request) :
    (run rs empty).Consistent ∧
      ∀ i j r s, (run rs empty).folder? i = some r → (run rs empty).folder? j = some s →
        r.parent = s.parent → r.folder.title = s.folder.title → i = j :=
  ⟨consistent_empty.run rs, fun _ _ _ _ hr hs => (consistent_empty.run rs).title_unique hr hs⟩

end MediaShelves.Catalog
