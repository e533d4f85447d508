import MediaShelves.Proofs.Catalog.Tables

/-!
# The tables agree

A catalog keeps the same facts in several tables: what a node is, where it lies, what lies below it,
and two indices.  `Consistent` says how they agree, and every way of writing the tables keeps it.
-/

namespace MediaShelves.Catalog

/-! ## What the tables have to say -/

/-- The parent of a node: of a folder, or of an item that is placed. -/
def parent? (c : Catalog) (id : NodeId) : Option NodeId :=
  match c.folder? id with
  | some r => some r.parent
  | none => (c.item? id).bind (·.parent)

/-- The path of a node that folders may lie in; that of the root is empty. -/
def pathOf? (c : Catalog) (id : NodeId) : Option String :=
  if id = rootId then some "" else (c.folder? id).map (·.path)

theorem pathOf?_root (c : Catalog) : c.pathOf? rootId = some (ContainerPath.ofTitles []) :=
  if_pos rfl

/-- The tables of a catalog agree with each other. -/
structure Consistent (c : Catalog) : Prop where
  nextId_pos : 0 < c.nextId
  folder_id : ∀ {i r}, c.folder? i = some r → r.id = i ∧ r.folder.pinned = some i
  item_id : ∀ {i r}, c.item? i = some r → r.id = i
  folder_bounds : ∀ {i r}, c.folder? i = some r → i ≠ rootId ∧ i < c.nextId
  item_bounds : ∀ {i r}, c.item? i = some r → i ≠ rootId ∧ i < c.nextId
  disjoint : ∀ {i r}, c.folder? i = some r → c.item? i = none
  pathIndex_iff : ∀ {p i}, c.pathIndex[p]? = some i ↔ ∃ r, c.folder? i = some r ∧ r.path = p
  /-- The path of a folder is that of its parent and its title. -/
  folder_path : ∀ {i r}, c.folder? i = some r →
    ∃ p, c.pathOf? r.parent = some p ∧ r.path = ContainerPath.child p r.folder.title
  /-- Each node is once among the children of its parent, and nowhere else. -/
  children : ∀ p i, (c.childrenOf p).count i = if c.parent? i = some p then 1 else 0
  item_parent : ∀ {i r p}, c.item? i = some r → r.parent = some p → (c.pathOf? p).isSome
  fileIndex_iff : ∀ {l i}, c.fileIndex[l]? = some i ↔
    ∃ r, c.item? i = some r ∧ r.parent = none ∧ r.item.location = l
  /-- An item is not twice at the same position of a folder. -/
  item_unique : ∀ {i j r s}, c.item? i = some r → c.item? j = some s → r.parent.isSome →
    r.parent = s.parent → r.item.identity = s.item.identity →
    r.item.playlistOrder = s.item.playlistOrder → i = j

/-- The tables of an empty catalog agree. -/
theorem consistent_empty : empty.Consistent where
  nextId_pos := by simp [empty]
  folder_id h := by simp at h
  item_id h := by simp at h
  folder_bounds h := by simp at h
  item_bounds h := by simp at h
  disjoint h := by simp at h
  pathIndex_iff := by simp
  folder_path h := by simp at h
  children p i := by simp [parent?]
  item_parent h := by simp at h
  fileIndex_iff := by simp
  item_unique h := by simp at h

/-! ## What lies in a folder -/

section Children

variable {c : Catalog} (h : c.Consistent)

include h

/-- The children of a node are the nodes whose parent it is. -/
theorem Consistent.mem_childrenOf {p i : NodeId} : i ∈ c.childrenOf p ↔ c.parent? i = some p := by
  rw [← List.count_pos_iff, h.children p i]
  split <;> simp [*]

theorem Consistent.nodup_childrenOf (p : NodeId) : (c.childrenOf p).Nodup := by
  apply List.nodup_iff_count.2
  intro i
  rw [h.children p i]
  split <;> simp

/-- No id is that of an item and of a folder. -/
theorem Consistent.folder?_of_item {i : NodeId} {r : StoredItem} (hr : c.item? i = some r) :
    c.folder? i = none := by
  apply Option.eq_none_iff_forall_ne_some.2
  intro s hs
  rw [h.disjoint hs] at hr
  cases hr

theorem Consistent.parent?_of_item {i : NodeId} {r : StoredItem} (hr : c.item? i = some r) :
    c.parent? i = r.parent := by
  simp [parent?, h.folder?_of_item hr, hr]

/-- The items of a folder are those whose parent it is. -/
theorem Consistent.mem_itemsIn {p : NodeId} {r : StoredItem} :
    r ∈ c.itemsIn p ↔ ∃ i, c.item? i = some r ∧ r.parent = some p := by
  rw [itemsIn, List.mem_filterMap]
  constructor
  · rintro ⟨i, hi, hr⟩
    rw [h.mem_childrenOf, h.parent?_of_item hr] at hi
    exact ⟨i, hr, hi⟩
  · rintro ⟨i, hr, hp⟩
    exact ⟨i, by rw [h.mem_childrenOf, h.parent?_of_item hr, hp], hr⟩

/-- Nothing is in the way of an item if no item of the folder has its identity and position. -/
theorem Consistent.placed?_eq_none_iff {x : MediaItem} {p : NodeId} :
    c.placed? x p = none ↔ ∀ i r, c.item? i = some r → r.parent = some p →
      r.item.identity = x.identity → r.item.playlistOrder ≠ x.playlistOrder := by
  rw [placed?, Option.map_eq_none_iff, List.find?_eq_none]
  constructor
  · intro hnone i r hr hp hident horder
    exact hnone r (h.mem_itemsIn.2 ⟨i, hr, hp⟩) (by simp [hident, horder])
  · intro hnone r hr hsame
    obtain ⟨i, hi, hp⟩ := h.mem_itemsIn.1 hr
    obtain ⟨hident, horder⟩ := of_decide_eq_true hsame
    exact hnone i r hi hp hident horder

end Children

/-! ## Fresh ids -/

/-- After a node is added every id that was below the next one is so still. -/
theorem lt_next_of_lt {i next id : NodeId} (h : i < next) : i < max next (id + 1) :=
  Nat.lt_of_lt_of_le h (Nat.le_max_left ..)

/-- After a node is added its id is below the next one. -/
theorem lt_next_self (next id : NodeId) : id < max next (id + 1) :=
  Nat.lt_of_lt_of_le (Nat.lt_succ_self id) (Nat.le_max_right ..)

section Fresh

variable {c : Catalog} (h : c.Consistent) (wanted : Option NodeId)

include h

/-- A fresh id belongs to no node, and not to the root. -/
theorem Consistent.freshId_spec :
    c.freshId wanted ≠ rootId ∧ c.folder? (c.freshId wanted) = none ∧
      c.item? (c.freshId wanted) = none := by
  -- The next id is greater than all that are in use.
  have hnext : max c.nextId 1 ≠ rootId ∧ c.folder? (max c.nextId 1) = none ∧
      c.item? (max c.nextId 1) = none := by
    refine ⟨by simp [rootId], ?_, ?_⟩
    · apply Option.eq_none_iff_forall_ne_some.2
      intro r hr
      exact absurd (Nat.le_max_left c.nextId 1) (Nat.not_le.2 (h.folder_bounds hr).2)
    · apply Option.eq_none_iff_forall_ne_some.2
      intro r hr
      exact absurd (Nat.le_max_left c.nextId 1) (Nat.not_le.2 (h.item_bounds hr).2)
  cases wanted with
  | none => exact hnext
  | some id =>
    simp only [freshId]
    split
    · rename_i hfree
      simp only [isFree, Bool.and_eq_true, bne_iff_ne, Option.isNone_iff_eq_none] at hfree
      exact ⟨hfree.1.1, hfree.1.2, hfree.2⟩
    · exact hnext

theorem Consistent.freshId_ne_root : c.freshId wanted ≠ rootId :=
  (h.freshId_spec wanted).1

theorem Consistent.folder?_freshId : c.folder? (c.freshId wanted) = none :=
  (h.freshId_spec wanted).2.1

theorem Consistent.item?_freshId : c.item? (c.freshId wanted) = none :=
  (h.freshId_spec wanted).2.2

theorem Consistent.parent?_freshId : c.parent? (c.freshId wanted) = none := by
  simp [parent?, h.folder?_freshId, h.item?_freshId]

/-- The id of a folder is never given again. -/
theorem Consistent.ne_freshId_of_folder {i : NodeId} {r : StoredFolder}
    (hr : c.folder? i = some r) : i ≠ c.freshId wanted := by
  rintro rfl
  simp [h.folder?_freshId] at hr

/-- The id of an item is never given again. -/
theorem Consistent.ne_freshId_of_item {i : NodeId} {r : StoredItem}
    (hr : c.item? i = some r) : i ≠ c.freshId wanted := by
  rintro rfl
  simp [h.item?_freshId] at hr

/-- A fresh id that is put at the end of what lies below a node is once below that node. -/
theorem Consistent.count_fresh (parent q i : NodeId) :
    (if q = parent then c.childrenOf q ++ [c.freshId wanted] else c.childrenOf q).count i =
      if (if i = c.freshId wanted then some parent else c.parent? i) = some q then 1 else 0 := by
  have hold := h.children q i
  -- Without a parent the fresh id was below no node; any other id counts as it did.
  by_cases hi : i = c.freshId wanted
  · subst hi
    rw [h.parent?_freshId] at hold
    by_cases hq : q = parent
    · subst hq
      simp at hold
      simp [hold]
    · simp [hq, Ne.symm hq, hold]
  · by_cases hq : q = parent
    · simp [hq, hi, List.count_append, Ne.symm hi] at hold ⊢
      exact hold
    · simp [hq, hi, hold]

/-- Among the items and one more under a fresh id each has its id, and it is in bounds. -/
theorem Consistent.item_fresh {i : NodeId} {parent : Option NodeId} {x : MediaItem}
    {r : StoredItem}
    (hr : (if i = c.freshId wanted then some ⟨i, parent, x⟩ else c.item? i) = some r) :
    r.id = i ∧ i ≠ rootId ∧ i < max c.nextId (c.freshId wanted + 1) := by
  split at hr
  · rename_i hi
    cases hr
    subst hi
    exact ⟨rfl, h.freshId_ne_root wanted, lt_next_self ..⟩
  · exact ⟨h.item_id hr, (h.item_bounds hr).1, lt_next_of_lt (h.item_bounds hr).2⟩

end Fresh

/-! ## A new folder -/

/-- Where folders may lie before a folder is added, they may lie after it. -/
theorem Consistent.pathOf?_addFolder {c : Catalog} (h : c.Consistent) {parent q : NodeId}
    {path p : String} {f : Folder} (hq : c.pathOf? q = some p) :
    (c.addFolder parent path f).2.pathOf? q = some p := by
  simp only [pathOf?] at hq ⊢
  split
  · simpa [*] using hq
  · rename_i hne
    rw [if_neg hne] at hq
    obtain ⟨r, hr, rfl⟩ := Option.map_eq_some_iff.1 hq
    simp [h.ne_freshId_of_folder f.pinned hr, hr]

/-- Only the new folder gets a parent. -/
theorem parent?_addFolder (c : Catalog) (parent : NodeId) (path : String) (f : Folder)
    (i : NodeId) :
    (c.addFolder parent path f).2.parent? i =
      if i = c.freshId f.pinned then some parent else c.parent? i := by
  by_cases hi : i = c.freshId f.pinned
  · simp [parent?, hi]
  · simp [parent?, hi]

/-- A folder below a node that folders may lie in, at a path that is not in use. -/
theorem Consistent.addFolder {c : Catalog} (h : c.Consistent) {parent : NodeId} {p : String}
    {f : Folder} (hp : c.pathOf? parent = some p)
    (hfree : c.pathIndex[ContainerPath.child p f.title]? = none) :
    (c.addFolder parent (ContainerPath.child p f.title) f).2.Consistent where
  nextId_pos := lt_next_of_lt h.nextId_pos
  folder_id {i r} hr := by
    rw [folder?_addFolder] at hr
    split at hr
    · cases hr
      exact ⟨rfl, rfl⟩
    · exact h.folder_id hr
  item_id hr := h.item_id hr
  folder_bounds {i r} hr := by
    rw [folder?_addFolder] at hr
    split at hr
    · rename_i hi
      subst hi
      exact ⟨h.freshId_ne_root _, lt_next_self ..⟩
    · exact ⟨(h.folder_bounds hr).1, lt_next_of_lt (h.folder_bounds hr).2⟩
  item_bounds hr := ⟨(h.item_bounds hr).1, lt_next_of_lt (h.item_bounds hr).2⟩
  disjoint {i r} hr := by
    rw [folder?_addFolder] at hr
    split at hr
    · rename_i hi
      subst hi
      exact h.item?_freshId _
    · exact h.disjoint hr
  pathIndex_iff {q i} := by
    rw [pathIndex_addFolder, folder?_addFolder]
    constructor
    · intro hq
      split at hq
      · rename_i hpath
        cases hq
        exact ⟨_, if_pos rfl, hpath.symm⟩
      · -- Any other path is that of an old folder, whose id is not fresh.
        obtain ⟨r, hr, hpath⟩ := h.pathIndex_iff.1 hq
        exact ⟨r, by rw [if_neg (h.ne_freshId_of_folder _ hr), hr], hpath⟩
    · rintro ⟨r, hr, rfl⟩
      split at hr
      · rename_i hi
        cases hr
        simp [hi]
      · -- An old folder does not lie at the new path, which was not in use.
        have hold := h.pathIndex_iff.2 ⟨r, hr, rfl⟩
        rw [if_neg, hold]
        intro hpath
        rw [hpath, hfree] at hold
        cases hold
  folder_path {i r} hr := by
    rw [folder?_addFolder] at hr
    split at hr
    · cases hr
      exact ⟨p, h.pathOf?_addFolder hp, rfl⟩
    · obtain ⟨q, hq, hpath⟩ := h.folder_path hr
      exact ⟨q, h.pathOf?_addFolder hq, hpath⟩
  children q i := by
    rw [parent?_addFolder, childrenOf_addFolder]
    exact h.count_fresh f.pinned parent q i
  item_parent hr hq := by
    obtain ⟨p', hp'⟩ := Option.isSome_iff_exists.1 (h.item_parent hr hq)
    rw [h.pathOf?_addFolder hp']
    rfl
  fileIndex_iff := h.fileIndex_iff
  item_unique hr hs := h.item_unique hr hs

/-! ## A new item -/

/-- Only the new item gets a parent. -/
theorem Consistent.parent?_addItem {c : Catalog} (h : c.Consistent) (parent : NodeId)
    (x : MediaItem) (i : NodeId) :
    (c.addItem parent x).2.parent? i =
      if i = c.freshId none then some parent else c.parent? i := by
  by_cases hi : i = c.freshId none
  · simp [parent?, hi, h.folder?_freshId]
  · simp [parent?, hi]

/-- An item below a node that items may lie in, unless it is there already. -/
theorem Consistent.addItem {c : Catalog} (h : c.Consistent) {parent : NodeId} {x : MediaItem}
    (hp : (c.pathOf? parent).isSome) (hnew : c.placed? x parent = none) :
    (c.addItem parent x).2.Consistent where
  nextId_pos := lt_next_of_lt h.nextId_pos
  folder_id hr := h.folder_id hr
  item_id {i r} hr := by
    rw [item?_addItem] at hr
    exact (h.item_fresh none hr).1
  folder_bounds hr := ⟨(h.folder_bounds hr).1, lt_next_of_lt (h.folder_bounds hr).2⟩
  item_bounds {i r} hr := by
    rw [item?_addItem] at hr
    exact (h.item_fresh none hr).2
  disjoint {i r} hr := by
    rw [item?_addItem, if_neg (h.ne_freshId_of_folder none hr)]
    exact h.disjoint hr
  pathIndex_iff := h.pathIndex_iff
  folder_path hr := h.folder_path hr
  children q i := by
    rw [h.parent?_addItem, childrenOf_addItem]
    exact h.count_fresh none parent q i
  item_parent {i r p} hr hq := by
    rw [item?_addItem] at hr
    split at hr
    · cases hr
      cases hq
      exact hp
    · exact h.item_parent hr hq
  fileIndex_iff {l i} := by
    rw [fileIndex_addItem, item?_addItem, h.fileIndex_iff]
    constructor
    · rintro ⟨r, hr, hl⟩
      exact ⟨r, by rw [if_neg (h.ne_freshId_of_item none hr), hr], hl⟩
    · rintro ⟨r, hr, hnone, hl⟩
      split at hr
      · cases hr
        cases hnone
      · exact ⟨r, hr, hnone, hl⟩
  item_unique {i j r s} hr hs hsome hparent hident horder := by
    rw [item?_addItem] at hr hs
    rw [h.placed?_eq_none_iff] at hnew
    -- The new item against itself, against an old one on either side, and two old ones.
    split at hr <;> split at hs
    · simp_all
    · cases hr
      exact absurd horder.symm (hnew j s hs hparent.symm hident.symm)
    · cases hs
      exact absurd horder (hnew i r hr hparent hident)
    · exact h.item_unique hr hs hsome hparent hident horder

/-! ## A new canonical item -/

/-- A file that becomes known gets no parent. -/
theorem Consistent.parent?_addFile {c : Catalog} (h : c.Consistent) (x : MediaItem)
    (i : NodeId) : (c.addFile x).2.parent? i = c.parent? i := by
  by_cases hi : i = c.freshId none
  · subst hi
    rw [h.parent?_freshId]
    simp [parent?, h.folder?_freshId]
  · simp [parent?, hi]

/-- A canonical item for a location that has none. -/
theorem Consistent.addFile {c : Catalog} (h : c.Consistent) {x : MediaItem}
    (hnew : c.fileIndex[x.location]? = none) : (c.addFile x).2.Consistent where
  nextId_pos := lt_next_of_lt h.nextId_pos
  folder_id hr := h.folder_id hr
  item_id {i r} hr := by
    rw [item?_addFile] at hr
    exact (h.item_fresh none hr).1
  folder_bounds hr := ⟨(h.folder_bounds hr).1, lt_next_of_lt (h.folder_bounds hr).2⟩
  item_bounds {i r} hr := by
    rw [item?_addFile] at hr
    exact (h.item_fresh none hr).2
  disjoint {i r} hr := by
    rw [item?_addFile, if_neg (h.ne_freshId_of_folder none hr)]
    exact h.disjoint hr
  pathIndex_iff := h.pathIndex_iff
  folder_path hr := h.folder_path hr
  children q i := by
    rw [h.parent?_addFile]
    exact h.children q i
  item_parent {i r p} hr hq := by
    rw [item?_addFile] at hr
    split at hr
    · cases hr
      cases hq
    · exact h.item_parent hr hq
  fileIndex_iff {l i} := by
    rw [fileIndex_addFile, item?_addFile]
    constructor
    · intro hl
      split at hl
      · rename_i hloc
        cases hl
        exact ⟨_, if_pos rfl, rfl, hloc.symm⟩
      · obtain ⟨r, hr, hl⟩ := h.fileIndex_iff.1 hl
        exact ⟨r, by rw [if_neg (h.ne_freshId_of_item none hr), hr], hl⟩
    · rintro ⟨r, hr, hnone, rfl⟩
      split at hr
      · rename_i hi
        cases hr
        simp [hi]
      · -- An old canonical item has another location, since the new one had none.
        have hold := h.fileIndex_iff.2 ⟨r, hr, hnone, rfl⟩
        rw [if_neg, hold]
        intro hloc
        rw [hloc, hnew] at hold
        cases hold
  item_unique {i j r s} hr hs hsome hparent hident horder := by
    rw [item?_addFile] at hr hs
    -- Only items that have a parent are compared, and a canonical item has none.
    split at hr <;> split at hs
    · simp_all
    · cases hr
      cases hsome
    · cases hs
      rw [hparent] at hsome
      cases hsome
    · exact h.item_unique hr hs hsome hparent hident horder

/-! ## A changed folder -/

/-- A folder of a changed catalog was there before, in the same place. -/
theorem of_folder?_changeFolder {c : Catalog} {id i : NodeId} {change : Folder → Folder}
    {r : StoredFolder} (hr : (c.changeFolder id change).folder? i = some r) :
    ∃ f, c.folder? i = some { r with folder := f } ∧ (r.folder = f ∨ r.folder = change f) := by
  rw [folder?_changeFolder] at hr
  split at hr
  · obtain ⟨s, hs, rfl⟩ := Option.map_eq_some_iff.1 hr
    exact ⟨s.folder, hs, .inr rfl⟩
  · exact ⟨r.folder, hr, .inl rfl⟩

/-- A folder keeps its place when it is changed. -/
theorem exists_folder?_changeFolder {c : Catalog} (id : NodeId) {i : NodeId}
    (change : Folder → Folder) {r : StoredFolder} (hr : c.folder? i = some r) :
    ∃ f, (c.changeFolder id change).folder? i = some { r with folder := f } := by
  rw [folder?_changeFolder]
  split
  · exact ⟨change r.folder, by rw [hr]; rfl⟩
  · exact ⟨r.folder, hr⟩

@[simp] theorem pathOf?_changeFolder (c : Catalog) (id : NodeId) (change : Folder → Folder)
    (q : NodeId) : (c.changeFolder id change).pathOf? q = c.pathOf? q := by
  simp only [pathOf?, folder?_changeFolder]
  by_cases hq : q = id
  · cases c.folder? q <;> simp [← hq]
  · simp [hq]

@[simp] theorem parent?_changeFolder (c : Catalog) (id : NodeId) (change : Folder → Folder)
    (i : NodeId) : (c.changeFolder id change).parent? i = c.parent? i := by
  simp only [parent?, folder?_changeFolder, item?_changeFolder]
  by_cases hi : i = id
  · cases c.folder? i <;> simp [← hi]
  · simp [hi]

/-- A change that leaves the title and the id of a folder alone. -/
theorem Consistent.changeFolder {c : Catalog} (h : c.Consistent) (id : NodeId)
    {change : Folder → Folder} (htitle : ∀ f, (change f).title = f.title)
    (hpinned : ∀ f, (change f).pinned = f.pinned) : (c.changeFolder id change).Consistent where
  nextId_pos := h.nextId_pos
  folder_id {i r} hr := by
    obtain ⟨f, hf, hfolder⟩ := of_folder?_changeFolder hr
    obtain ⟨hid, hpin⟩ := h.folder_id hf
    refine ⟨hid, ?_⟩
    -- The folder is as before, or it was changed but keeps its id.
    rcases hfolder with hfolder | hfolder
    · rw [hfolder]
      exact hpin
    · rw [hfolder, hpinned]
      exact hpin
  item_id hr := h.item_id hr
  folder_bounds hr := by
    obtain ⟨f, hf, -⟩ := of_folder?_changeFolder hr
    exact h.folder_bounds hf
  item_bounds hr := h.item_bounds hr
  disjoint hr := by
    obtain ⟨f, hf, -⟩ := of_folder?_changeFolder hr
    exact h.disjoint hf
  pathIndex_iff {p i} := by
    rw [pathIndex_changeFolder, h.pathIndex_iff]
    constructor
    · rintro ⟨r, hr, hp⟩
      obtain ⟨f, hf⟩ := exists_folder?_changeFolder id change hr
      exact ⟨_, hf, hp⟩
    · rintro ⟨r, hr, hp⟩
      obtain ⟨f, hf, -⟩ := of_folder?_changeFolder hr
      exact ⟨_, hf, hp⟩
  folder_path {i r} hr := by
    obtain ⟨f, hf, hfolder⟩ := of_folder?_changeFolder hr
    obtain ⟨p, hp, hpath⟩ := h.folder_path hf
    refine ⟨p, by rw [pathOf?_changeFolder]; exact hp, ?_⟩
    rcases hfolder with hfolder | hfolder
    · rw [hfolder]
      exact hpath
    · rw [hfolder, htitle]
      exact hpath
  children p i := by
    rw [parent?_changeFolder]
    exact h.children p i
  item_parent hr hp := by
    rw [pathOf?_changeFolder]
    exact h.item_parent hr hp
  fileIndex_iff := h.fileIndex_iff
  item_unique hr hs := h.item_unique hr hs

/-! ## A changed item -/

/-- An item of a changed catalog was there before, in the same place. -/
theorem of_item?_changeItem {c : Catalog} {id i : NodeId} {change : MediaItem → MediaItem}
    {r : StoredItem} (hr : (c.changeItem id change).item? i = some r) :
    ∃ x, c.item? i = some { r with item := x } ∧ (r.item = x ∨ r.item = change x) := by
  rw [item?_changeItem] at hr
  split at hr
  · obtain ⟨s, hs, rfl⟩ := Option.map_eq_some_iff.1 hr
    exact ⟨s.item, hs, .inr rfl⟩
  · exact ⟨r.item, hr, .inl rfl⟩

/-- An item keeps its place when it is changed. -/
theorem exists_item?_changeItem {c : Catalog} (id : NodeId) {i : NodeId}
    (change : MediaItem → MediaItem) {r : StoredItem} (hr : c.item? i = some r) :
    ∃ x, (c.changeItem id change).item? i = some { r with item := x } ∧
      (x = r.item ∨ x = change r.item) := by
  rw [item?_changeItem]
  split
  · exact ⟨change r.item, by rw [hr]; rfl, .inr rfl⟩
  · exact ⟨r.item, hr, .inl rfl⟩

@[simp] theorem pathOf?_changeItem (c : Catalog) (id : NodeId) (change : MediaItem → MediaItem)
    (q : NodeId) : (c.changeItem id change).pathOf? q = c.pathOf? q := rfl

@[simp] theorem parent?_changeItem (c : Catalog) (id : NodeId) (change : MediaItem → MediaItem)
    (i : NodeId) : (c.changeItem id change).parent? i = c.parent? i := by
  simp only [parent?, folder?_changeItem, item?_changeItem]
  by_cases hi : i = id
  · cases c.item? i <;> simp [← hi]
  · simp [hi]

/-- What a change of an item must not touch: where it comes from and what it is the same as. -/
def KeepsPlace (change : MediaItem → MediaItem) : Prop :=
  ∀ x, (change x).location = x.location ∧ (change x).identity = x.identity ∧
    (change x).playlistOrder = x.playlistOrder

/-- A change that leaves the identity and the position of an item alone. -/
theorem Consistent.changeItem {c : Catalog} (h : c.Consistent) (id : NodeId)
    {change : MediaItem → MediaItem} (hkeeps : KeepsPlace change) :
    (c.changeItem id change).Consistent where
  nextId_pos := h.nextId_pos
  folder_id hr := h.folder_id hr
  item_id hr := by
    obtain ⟨x, hx, -⟩ := of_item?_changeItem hr
    have hid := h.item_id hx
    exact hid
  folder_bounds hr := h.folder_bounds hr
  item_bounds hr := by
    obtain ⟨x, hx, -⟩ := of_item?_changeItem hr
    exact h.item_bounds hx
  disjoint hr := by
    rw [item?_changeItem, h.disjoint hr]
    split <;> rfl
  pathIndex_iff := h.pathIndex_iff
  folder_path hr := h.folder_path hr
  children p i := by
    rw [parent?_changeItem]
    exact h.children p i
  item_parent hr hp := by
    obtain ⟨x, hx, -⟩ := of_item?_changeItem hr
    exact h.item_parent hx hp
  fileIndex_iff {l i} := by
    rw [fileIndex_changeItem, h.fileIndex_iff]
    constructor
    · rintro ⟨r, hr, hnone, hl⟩
      obtain ⟨x, hx, hitem⟩ := exists_item?_changeItem id change hr
      refine ⟨_, hx, hnone, ?_⟩
      rcases hitem with rfl | rfl
      · exact hl
      · exact (hkeeps _).1.trans hl
    · rintro ⟨r, hr, hnone, hl⟩
      obtain ⟨x, hx, hitem⟩ := of_item?_changeItem hr
      refine ⟨_, hx, hnone, ?_⟩
      rcases hitem with hitem | hitem
      · rw [← hl, hitem]
      · rw [← hl, hitem, (hkeeps _).1]
  item_unique {i j r s} hr hs hsome hparent hident horder := by
    obtain ⟨x, hx, hitem⟩ := of_item?_changeItem hr
    obtain ⟨y, hy, hother⟩ := of_item?_changeItem hs
    -- Each of the two items has the identity and the position that it had.
    refine h.item_unique hx hy hsome hparent ?_ ?_
    · rcases hitem with hitem | hitem <;> rcases hother with hother | hother <;>
        simpa [hitem, hother, (hkeeps _).2.1] using hident
    · rcases hitem with hitem | hitem <;> rcases hother with hother | hother <;>
        simpa [hitem, hother, (hkeeps _).2.2] using horder

end MediaShelves.Catalog
