import MediaShelves.Proofs.Catalog.Requests

/-!
# Growth

Requests take nothing away.  A folder keeps its id, its place and its title; an item keeps its id,
its place, its identity and its position.

Main statement: a catalog grows with every run (`Consistent.grows_run`), so a path leads to the same
folder for ever (`Grows.pathIndex`) and an item stays in the way of its copies (`Grows.placed?`).
-/

namespace MediaShelves.Catalog

/-- Everything in `c` is in `c'`, in the same place. -/
structure Grows (c c' : Catalog) : Prop where
  folder : ∀ {i r}, c.folder? i = some r →
    ∃ f, c'.folder? i = some { r with folder := f } ∧ f.title = r.folder.title
  item : ∀ {i r}, c.item? i = some r →
    ∃ x, c'.item? i = some { r with item := x } ∧ x.location = r.item.location ∧
      x.identity = r.item.identity ∧ x.playlistOrder = r.item.playlistOrder

/-- A catalog is all there in itself. -/
theorem Grows.refl (c : Catalog) : c.Grows c :=
  ⟨fun {_ r} hr => ⟨r.folder, hr, rfl⟩, fun {_ r} hr => ⟨r.item, hr, rfl, rfl, rfl⟩⟩

/-- What is there through two changes has kept its place through both. -/
theorem Grows.trans {a b c : Catalog} (hab : a.Grows b) (hbc : b.Grows c) : a.Grows c where
  folder hr := by
    obtain ⟨f, hf, htitle⟩ := hab.folder hr
    obtain ⟨g, hg, htitle'⟩ := hbc.folder hf
    exact ⟨g, hg, htitle'.trans htitle⟩
  item hr := by
    obtain ⟨x, hx, hloc, hident, horder⟩ := hab.item hr
    obtain ⟨y, hy, hloc', hident', horder'⟩ := hbc.item hx
    exact ⟨y, hy, hloc'.trans hloc, hident'.trans hident, horder'.trans horder⟩

/-! ## What stays -/

/-- A path goes on leading to the same folder. -/
theorem Grows.pathIndex {c c' : Catalog} (h : c.Grows c') (hc : c.Consistent)
    (hc' : c'.Consistent) {p : String} {i : NodeId} (hi : c.pathIndex[p]? = some i) :
    c'.pathIndex[p]? = some i := by
  obtain ⟨r, hr, rfl⟩ := hc.pathIndex_iff.1 hi
  obtain ⟨f, hf, -⟩ := h.folder hr
  exact hc'.pathIndex_iff.2 ⟨_, hf, rfl⟩

/-- An item that is in the way of its copies stays in the way. -/
theorem Grows.placed? {c c' : Catalog} (h : c.Grows c') (hc : c.Consistent)
    (hc' : c'.Consistent) {x : MediaItem} {folder : NodeId}
    (hx : (c.placed? x folder).isSome) : (c'.placed? x folder).isSome := by
  apply Option.isSome_iff_ne_none.2
  intro hnone
  refine Option.isSome_iff_ne_none.1 hx (hc.placed?_eq_none_iff.2 ?_)
  intro i r hr hp hident horder
  obtain ⟨y, hy, -, hident', horder'⟩ := h.item hr
  exact hc'.placed?_eq_none_iff.1 hnone i _ hy hp (hident'.trans hident) (horder'.trans horder)

/-! ## Requests -/

section Requests

variable {c : Catalog}

/-- A new folder takes an id that no other folder has. -/
theorem Consistent.grows_addFolder (h : c.Consistent) (parent : NodeId) (path : String)
    (f : Folder) : c.Grows (c.addFolder parent path f).2 where
  folder {i r} hr := by
    refine ⟨r.folder, ?_, rfl⟩
    rw [folder?_addFolder, if_neg (h.ne_freshId_of_folder f.pinned hr), hr]
  item {i r} hr := ⟨r.item, hr, rfl, rfl, rfl⟩

/-- A new item takes an id that no other item has. -/
theorem Consistent.grows_addItem (h : c.Consistent) (parent : NodeId) (x : MediaItem) :
    c.Grows (c.addItem parent x).2 where
  folder {i r} hr := ⟨r.folder, hr, rfl⟩
  item {i r} hr := by
    refine ⟨r.item, ?_, rfl, rfl, rfl⟩
    rw [item?_addItem, if_neg (h.ne_freshId_of_item none hr), hr]

/-- So does a file. -/
theorem Consistent.grows_addFile (h : c.Consistent) (x : MediaItem) :
    c.Grows (c.addFile x).2 where
  folder {i r} hr := ⟨r.folder, hr, rfl⟩
  item {i r} hr := by
    refine ⟨r.item, ?_, rfl, rfl, rfl⟩
    rw [item?_addFile, if_neg (h.ne_freshId_of_item none hr), hr]

/-- A change that keeps titles takes no folder away. -/
theorem grows_changeFolder (c : Catalog) (id : NodeId) {change : Folder → Folder}
    (htitle : ∀ f, (change f).title = f.title) : c.Grows (c.changeFolder id change) where
  folder {i r} hr := by
    rw [folder?_changeFolder]
    split
    · exact ⟨change r.folder, by rw [hr]; rfl, htitle _⟩
    · exact ⟨r.folder, hr, rfl⟩
  item {i r} hr := ⟨r.item, hr, rfl, rfl, rfl⟩

/-- A change that keeps what an item is found by takes no item away. -/
theorem grows_changeItem (c : Catalog) (id : NodeId) {change : MediaItem → MediaItem}
    (hkeeps : KeepsPlace change) : c.Grows (c.changeItem id change) where
  folder {i r} hr := ⟨r.folder, hr, rfl⟩
  item {i r} hr := by
    obtain ⟨x, hx, rfl | rfl⟩ := exists_item?_changeItem id change hr
    · exact ⟨_, hx, rfl, rfl, rfl⟩
    · exact ⟨_, hx, (hkeeps _).1, (hkeeps _).2.1, (hkeeps _).2.2⟩

theorem Consistent.grows_openChild (h : c.Consistent) (parent : NodeId) (path : String)
    (f : Folder) : c.Grows (Catalog.openChild parent path f c).2 := by
  obtain ⟨id, -, heq⟩ | ⟨-, heq⟩ := openChild_cases parent path f c
  · rw [heq]
    exact grows_changeFolder c id fun g => title_mergeFolder g f
  · rw [heq]
    exact h.grows_addFolder parent path f

/-- Going down a trail takes nothing away. -/
theorem Consistent.grows_openBelow {t : Trail} (h : c.Consistent) {parent : NodeId}
    {ts : List String} (hp : c.pathOf? parent = some (ContainerPath.ofTitles ts)) :
    c.Grows (Catalog.openBelow parent (ContainerPath.ofTitles ts) t c).2 := by
  induction t generalizing c parent ts with
  | nil => exact Grows.refl c
  | cons f t ih =>
    -- Down the trail, one folder after the other is opened below the one before it.
    obtain ⟨hc, hpath⟩ := h.openChild hp f
    have hfirst := h.grows_openChild parent
      (ContainerPath.child (ContainerPath.ofTitles ts) f.title) f
    simp only [Catalog.openBelow]
    rw [ContainerPath.child_ofTitles] at hc hpath hfirst ⊢
    exact hfirst.trans (ih hc hpath)

theorem Consistent.grows_openTrail (h : c.Consistent) (t : Trail) :
    c.Grows (Catalog.openTrail t c).2 := by
  exact h.grows_openBelow (pathOf?_root c)

/-- Placing an item takes nothing away. -/
theorem Consistent.grows_place (h : c.Consistent) (x : MediaItem) (folder : NodeId)
    (hint : Option String) : c.Grows (Catalog.place x folder hint c).2 := by
  -- A hint may change the class of the folder, and nothing that an item is found by.
  have hhint : c.Grows (c.changeFolder folder (hintFolder hint)) :=
    grows_changeFolder c folder (title_hintFolder hint)
  obtain ⟨-, heq⟩ | ⟨-, -, heq⟩ | ⟨-, -, heq⟩ := place_cases x folder hint c
  · rw [heq]
    exact Grows.refl c
  · rw [heq]
    exact hhint
  · rw [heq]
    exact hhint.trans ((h.hint folder hint).grows_addItem folder x)

/-- Registering a file takes nothing away. -/
theorem Consistent.grows_register (h : c.Consistent) (x : MediaItem) :
    c.Grows (c.register x).2 := by
  obtain ⟨id, -, heq⟩ | ⟨-, heq⟩ := c.register_cases x
  · rw [heq]
    exact Grows.refl c
  · rw [heq]
    exact h.grows_addFile x

/-- Revising an item takes nothing away. -/
theorem grows_revise (c : Catalog) (x : MediaItem) : c.Grows (revise x c).2 := by
  obtain ⟨-, heq⟩ | ⟨id, -, -, heq⟩ := revise_cases x c
  · rw [heq]
    exact Grows.refl c
  · rw [heq]
    exact grows_changeItem c id (keepsPlace_reviseItem x)

theorem Consistent.grows_apply (h : c.Consistent) (r : Request) : c.Grows (r.apply c) := by
  cases r with
  | register x => exact h.grows_register x
  | openTrail t => exact h.grows_openTrail t
  | place x folder hint => exact h.grows_place x folder hint
  | revise x => exact grows_revise c x

/-- **A run takes nothing away.** -/
theorem Consistent.grows_run (h : c.Consistent) (rs : List Request) : c.Grows (Catalog.run rs c) := by
  induction rs generalizing c with
  | nil => exact Grows.refl c
  | cons r rs ih => exact (h.grows_apply r).trans (ih (h.apply r))

end Requests

end MediaShelves.Catalog
