import MediaShelves.Proofs.Catalog.Repetition

/-!
# Lagging behind

One catalog lags behind another if they have the same nodes and their folders differ in nothing but
the class and the mark for searching, which may be older in the first.  Two such catalogs answer
alike, and every operation that is made on both keeps the one behind the other.  A trail of bare
folders that exist may be opened on the second alone (`Consistent.openTrail_of_isBare`).
-/

namespace MediaShelves

/-! ## Folders -/

namespace Folder

/-- A folder without its class and without its mark for searching. -/
def unclassed (f : Folder) : Folder :=
  { f with upnpClass := UpnpClass.container, searchable := false }

/-- Two folders that differ in class and mark only; what the first has of these the second has too. -/
structure LagsBehind (f g : Folder) : Prop where
  unclassed : f.unclassed = g.unclassed
  searchable : f.searchable = true → g.searchable = true
  upnpClass : g.upnpClass = UpnpClass.container → f.upnpClass = UpnpClass.container

/-- A folder does not lag behind itself. -/
theorem LagsBehind.refl (f : Folder) : f.LagsBehind f :=
  ⟨rfl, id, id⟩

/-- Lagging behind adds up. -/
theorem LagsBehind.trans {f g k : Folder} (hfg : f.LagsBehind g) (hgk : g.LagsBehind k) :
    f.LagsBehind k where
  unclassed := hfg.unclassed.trans hgk.unclassed
  searchable hf := hgk.searchable (hfg.searchable hf)
  upnpClass hk := hfg.upnpClass (hgk.upnpClass hk)

/-- What a merge makes of the rest of a folder does not depend on its class and mark. -/
theorem unclassed_mergeFolder (f d : Folder) :
    (Catalog.mergeFolder f d).unclassed = (Catalog.mergeFolder f.unclassed d).unclassed := rfl

/-- A hint changes the class alone. -/
theorem unclassed_hintFolder (hint : Option String) (f : Folder) :
    (Catalog.hintFolder hint f).unclassed = f.unclassed := by
  cases hint with
  | none => rfl
  | some cls =>
    simp only [Catalog.hintFolder]
    split <;> rfl

/-- A hint makes nothing searchable. -/
theorem searchable_hintFolder (hint : Option String) (f : Folder) :
    (Catalog.hintFolder hint f).searchable = f.searchable := by
  cases hint with
  | none => rfl
  | some cls =>
    simp only [Catalog.hintFolder]
    split <;> rfl

/-- A merge leaves a folder without a specific class only if neither folder had one. -/
theorem upnpClass_mergeFolder_eq_container {f d : Folder} :
    (Catalog.mergeFolder f d).upnpClass = UpnpClass.container ↔
      f.upnpClass = UpnpClass.container ∧ d.upnpClass = UpnpClass.container := by
  simp only [Catalog.mergeFolder]
  split <;> simp [*]

/-- A folder that lags behind still does so when both are described again. -/
theorem LagsBehind.mergeFolder {f g : Folder} (h : f.LagsBehind g) (d : Folder) :
    (Catalog.mergeFolder f d).LagsBehind (Catalog.mergeFolder g d) where
  unclassed := by
    rw [unclassed_mergeFolder, h.unclassed, ← unclassed_mergeFolder]
  searchable := by
    simp only [Catalog.mergeFolder, Bool.or_eq_true]
    exact Or.imp_left h.searchable
  upnpClass := by
    simp only [upnpClass_mergeFolder_eq_container]
    exact And.imp_left h.upnpClass

/-- And when both are given a hint. -/
theorem LagsBehind.hintFolder {f g : Folder} (h : f.LagsBehind g) (hint : Option String) :
    (Catalog.hintFolder hint f).LagsBehind (Catalog.hintFolder hint g) where
  unclassed := by
    rw [unclassed_hintFolder, unclassed_hintFolder, h.unclassed]
  searchable := by
    simp only [searchable_hintFolder]
    exact h.searchable
  upnpClass := by
    cases hint with
    | none => exact h.upnpClass
    | some cls =>
      by_cases hg : g.upnpClass = UpnpClass.container
      · -- Neither folder had a specific class, so both follow the hint.
        simp [Catalog.hintFolder, hg, h.upnpClass hg]
      · -- The second folder keeps its class, and nothing is claimed about the first one.
        simp [Catalog.hintFolder, hg]

/-- Metadata without values adds nothing. -/
theorem overlay_of_isEmpty {m n : Metadata} (hn : n.isEmpty = true) : m.overlay n = m := by
  have hentries : n.table.entries = [] := List.isEmpty_iff.1 hn
  simp [Metadata.overlay, Keyed.overlay, hentries]

/-- A bare folder has no metadata, so that none is overlaid, and nothing to borrow. -/
theorem lagsBehind_mergeFolder {d : Folder} (hd : d.isBare = true) (f : Folder) :
    f.LagsBehind (Catalog.mergeFolder f d) where
  unclassed := by
    obtain ⟨hmetadata, hresources⟩ := Bool.and_eq_true_iff.1 hd
    simp [Folder.unclassed, Catalog.mergeFolder, hresources, overlay_of_isEmpty hmetadata]
  searchable hf := by
    simp [Catalog.mergeFolder, hf]
  upnpClass hclass := (upnpClass_mergeFolder_eq_container.1 hclass).1

/-- Whether a bare folder has no class of its own and no mark for searching. -/
def isPlain (f : Folder) : Bool :=
  f.isBare && decide (f.upnpClass = UpnpClass.container) && !f.searchable

/-- A plain folder has nothing that could be merged into another one. -/
theorem mergeFolder_of_isPlain {d : Folder} (hd : d.isPlain = true) (f : Folder) :
    Catalog.mergeFolder f d = f := by
  simp only [isPlain, Bool.and_eq_true, decide_eq_true_eq, Bool.not_eq_true'] at hd
  obtain ⟨⟨hbare, hclass⟩, hsearchable⟩ := hd
  obtain ⟨hmetadata, hresources⟩ := Bool.and_eq_true_iff.1 hbare
  have hupnpClass :
      (if f.upnpClass = UpnpClass.container then d.upnpClass else f.upnpClass) = f.upnpClass := by
    split <;> simp [*]
  simp only [Catalog.mergeFolder, overlay_of_isEmpty hmetadata, hresources, hsearchable, hupnpClass,
    Bool.not_true, Bool.and_false, Bool.or_false, Bool.false_eq_true, if_false]

end Folder

namespace Catalog

/-! ## The same nodes -/

section SameNodes

variable {c d : Catalog} (h : c.SameNodes d)

include h

/-- With the same nodes the same files are known. -/
theorem SameNodes.file? (location : String) : d.file? location = c.file? location := by
  have hitem : d.item? = c.item? := funext h.item?
  rw [Catalog.file?, h.files, hitem, Catalog.file?]

/-- Having the same nodes goes both ways. -/
theorem SameNodes.symm : d.SameNodes c where
  items := h.items.symm
  paths := h.paths.symm
  files := h.files.symm
  children := h.children.symm
  nextId := h.nextId.symm
  folders i := (h.folders i).symm

/-- The same ids are free. -/
theorem SameNodes.freshId (wanted : Option NodeId) : d.freshId wanted = c.freshId wanted := by
  have hfree (i : NodeId) : d.isFree i = c.isFree i := by
    simp only [isFree, ← Option.not_isSome, h.folders i, h.item? i]
  cases wanted with
  | none => simp only [Catalog.freshId, h.nextId]
  | some i => simp only [Catalog.freshId, hfree, h.nextId]

/-- Catalogs with the same nodes give a new folder the same id, so they stay so. -/
theorem SameNodes.addFolder (parent : NodeId) (path : String) (f : Folder) :
    (c.addFolder parent path f).2.SameNodes (d.addFolder parent path f).2 where
  -- Both catalogs give the same id next, so that the new nodes are the same as well.
  items := h.items
  paths := by simp only [Catalog.addFolder, append, h.freshId, h.paths]
  files := h.files
  children := by simp only [Catalog.addFolder, append, h.freshId, h.children, h.childrenOf]
  nextId := by simp only [nextId_addFolder, h.freshId, h.nextId]
  folders i := by
    rw [folder?_addFolder, folder?_addFolder, h.freshId]
    split
    · rfl
    · exact h.folders i

/-- A new item gets the same id in both. -/
theorem SameNodes.addItem (parent : NodeId) (x : MediaItem) :
    (c.addItem parent x).2.SameNodes (d.addItem parent x).2 where
  items := by simp only [Catalog.addItem, append, h.freshId, h.items]
  paths := h.paths
  files := h.files
  children := by simp only [Catalog.addItem, append, h.freshId, h.children, h.childrenOf]
  nextId := by simp only [nextId_addItem, h.freshId, h.nextId]
  folders := h.folders

/-- So does a new file. -/
theorem SameNodes.addFile (x : MediaItem) :
    (c.addFile x).2.SameNodes (d.addFile x).2 where
  items := by simp only [Catalog.addFile, h.freshId, h.items]
  paths := h.paths
  files := by simp only [Catalog.addFile, h.freshId, h.files]
  children := h.children
  nextId := by simp only [nextId_addFile, h.freshId, h.nextId]
  folders := h.folders

/-- Items are changed in both alike. -/
theorem SameNodes.changeItem (id : NodeId) (change : MediaItem → MediaItem) :
    (c.changeItem id change).SameNodes (d.changeItem id change) where
  items := by simp only [Catalog.changeItem, h.items]
  paths := h.paths
  files := h.files
  children := h.children
  nextId := h.nextId
  folders := h.folders

end SameNodes

/-! ## Lagging behind -/

/-- The same nodes, and each folder of the first catalog lags behind that of the second. -/
structure LagsBehind (c d : Catalog) : Prop where
  nodes : c.SameNodes d
  folders : ∀ {i r s}, c.folder? i = some r → d.folder? i = some s → r.folder.LagsBehind s.folder

theorem LagsBehind.refl (c : Catalog) : c.LagsBehind c where
  nodes := SameNodes.refl c
  folders hr hs := by
    rw [hr] at hs
    cases hs
    exact Folder.LagsBehind.refl _

theorem LagsBehind.trans {c d e : Catalog} (hcd : c.LagsBehind d) (hde : d.LagsBehind e) :
    c.LagsBehind e where
  nodes := hcd.nodes.trans hde.nodes
  folders {i r t} hr ht := by
    have hsome : (d.folder? i).isSome := by
      rw [hcd.nodes.folders i, hr]
      rfl
    obtain ⟨s, hs⟩ := Option.isSome_iff_exists.1 hsome
    exact (hcd.folders hr hs).trans (hde.folders hs ht)

section Operations

variable {c d : Catalog} (h : c.LagsBehind d)

include h

/-- A new folder is the same in both catalogs. -/
theorem LagsBehind.addFolder (parent : NodeId) (path : String) (f : Folder) :
    (c.addFolder parent path f).2.LagsBehind (d.addFolder parent path f).2 where
  nodes := h.nodes.addFolder parent path f
  folders {i r s} hr hs := by
    rw [folder?_addFolder] at hr hs
    rw [h.nodes.freshId] at hs
    -- The new folder is the same in both catalogs, whatever lags behind otherwise.
    by_cases hi : i = c.freshId f.pinned
    · rw [if_pos hi] at hr hs
      cases hr
      cases hs
      exact Folder.LagsBehind.refl _
    · rw [if_neg hi] at hr hs
      exact h.folders hr hs

/-- A change that keeps one folder behind the other keeps the catalogs so. -/
theorem LagsBehind.changeFolder (id : NodeId) {change : Folder → Folder}
    (hchange : ∀ {f g : Folder}, f.LagsBehind g → (change f).LagsBehind (change g)) :
    (c.changeFolder id change).LagsBehind (d.changeFolder id change) where
  nodes := by
    have hc := sameNodes_changeFolder c id change
    have hd := sameNodes_changeFolder d id change
    exact (hc.symm.trans h.nodes).trans hd
  folders {i r s} hr hs := by
    rw [folder?_changeFolder] at hr hs
    -- The same folder is changed in both catalogs, and all others are as they were.
    by_cases hi : i = id
    · rw [if_pos hi, Option.map_eq_some_iff] at hr hs
      obtain ⟨r', hr', rfl⟩ := hr
      obtain ⟨s', hs', rfl⟩ := hs
      exact hchange (h.folders hr' hs')
    · rw [if_neg hi] at hr hs
      exact h.folders hr hs

/-- Opening a folder gives the same id in both, and one still lags behind the other. -/
theorem LagsBehind.openChild (parent : NodeId) (path : String) (f : Folder) :
    (Catalog.openChild parent path f d).1 = (Catalog.openChild parent path f c).1 ∧
      (Catalog.openChild parent path f c).2.LagsBehind (Catalog.openChild parent path f d).2 := by
  obtain ⟨id, hid, heq⟩ | ⟨hnone, heq⟩ := openChild_cases parent path f c
  · rw [heq, openChild_of_some parent f (by rwa [h.nodes.paths])]
    exact ⟨rfl, h.changeFolder id fun hfolder => hfolder.mergeFolder f⟩
  · rw [heq, openChild_of_none parent f (by rwa [h.nodes.paths])]
    exact ⟨h.nodes.freshId f.pinned, h.addFolder parent path f⟩

end Operations

/-- By induction along the trail, so does opening all of its folders. -/
theorem LagsBehind.openBelow {t : Trail} {c d : Catalog} (h : c.LagsBehind d) (parent : NodeId)
    (path : String) :
    (Catalog.openBelow parent path t d).1 = (Catalog.openBelow parent path t c).1 ∧
      (Catalog.openBelow parent path t c).2.LagsBehind (Catalog.openBelow parent path t d).2 := by
  -- Along the trail both catalogs stand at the same folder.
  induction t generalizing c d parent path with
  | nil => exact ⟨rfl, h⟩
  | cons f t ih =>
    obtain ⟨hid, hchild⟩ := h.openChild parent (ContainerPath.child path f.title) f
    simp only [Catalog.openBelow]
    rw [hid]
    exact ih hchild _ _

section Operations

variable {c d : Catalog} (h : c.LagsBehind d)

include h

/-- A trail is opened in both alike. -/
theorem LagsBehind.openTrail (t : Trail) :
    (Catalog.openTrail t d).1 = (Catalog.openTrail t c).1 ∧
      (Catalog.openTrail t c).2.LagsBehind (Catalog.openTrail t d).2 := by
  obtain ⟨hid, hbelow⟩ := h.openBelow (t := t) rootId ""
  refine ⟨?_, hbelow⟩
  simp only [Catalog.openTrail, hid]

/-- An item is placed in both or in neither, as this depends on the nodes alone. -/
theorem LagsBehind.place (x : MediaItem) (folder : NodeId) (hint : Option String) :
    (Catalog.place x folder hint d).1 = (Catalog.place x folder hint c).1 ∧
      (Catalog.place x folder hint c).2.LagsBehind (Catalog.place x folder hint d).2 := by
  have hhint := h.changeFolder folder fun hfolder => hfolder.hintFolder hint
  -- What lies in the folder is the same, so both catalogs add the item or neither does.
  have hfolders := h.nodes.folders folder
  have hplaced := h.nodes.placed? x folder
  obtain ⟨habsent, heq⟩ | ⟨hfolder, hsome, heq⟩ | ⟨hfolder, hnone, heq⟩ :=
    place_cases x folder hint c
  · rw [heq, place_of_absent x hint (by rwa [hfolders])]
    exact ⟨rfl, h⟩
  · obtain ⟨id, hid⟩ := Option.isSome_iff_exists.1 hsome
    rw [heq, place_of_some hint (by rwa [hfolders]) (hplaced.trans hid)]
    exact ⟨rfl, hhint⟩
  · rw [heq, place_of_none hint (by rwa [hfolders]) (hplaced.trans hnone)]
    refine ⟨congrArg some (h.nodes.freshId none), ?_⟩
    exact ⟨hhint.nodes.addItem folder x, hhint.folders⟩

/-- What is told anew changes items, and these are the same in both. -/
theorem LagsBehind.revise (x : MediaItem) :
    (Catalog.revise x d).1 = (Catalog.revise x c).1 ∧
      (Catalog.revise x c).2.LagsBehind (Catalog.revise x d).2 := by
  -- Both catalogs have the same items, so they find the same one or none.
  obtain ⟨hnone, heq⟩ | ⟨id, hid, hitem, heq⟩ := revise_cases x c
  · have hnone' (id : NodeId) (hid : x.id.or d.fileIndex[x.location]? = some id) :
        d.item? id = none := by
      rw [h.nodes.files] at hid
      rw [h.nodes.item?, hnone id hid]
    rw [heq, revise_of_none hnone']
    exact ⟨rfl, h⟩
  · rw [heq, revise_of_some (by rwa [h.nodes.files]) (by rwa [h.nodes.item?])]
    refine ⟨rfl, ?_⟩
    exact ⟨h.nodes.changeItem id fun old => reviseItem old x, h.folders⟩

/-- A file is known in both or in neither. -/
theorem LagsBehind.register (x : MediaItem) :
    (d.register x).1 = (c.register x).1 ∧ (c.register x).2.LagsBehind (d.register x).2 := by
  obtain ⟨id, hid, heq⟩ | ⟨hnone, heq⟩ := c.register_cases x
  · rw [heq, register_of_some (by rwa [h.nodes.files])]
    exact ⟨rfl, h⟩
  · rw [heq, register_of_none (by rwa [h.nodes.files])]
    refine ⟨?_, h.nodes.addFile x, h.folders⟩
    simp only [h.nodes.freshId]

end Operations

/-! ## Bare trails -/

/-- Going down a trail keeps of a folder whatever its merges with those on the way keep. -/
theorem Consistent.folder_openBelow {R : Folder → Folder → Prop} (hrefl : ∀ f, R f f)
    (htrans : ∀ {f g k}, R f g → R g k → R f k) {t : Trail}
    (ht : ∀ d ∈ t, ∀ f, R f (mergeFolder f d)) {c : Catalog} (h : c.Consistent)
    {parent : NodeId} {ts : List String}
    (hp : c.pathOf? parent = some (ContainerPath.ofTitles ts)) {i : NodeId} {r s : StoredFolder}
    (hr : c.folder? i = some r)
    (hs : (Catalog.openBelow parent (ContainerPath.ofTitles ts) t c).2.folder? i = some s) :
    R r.folder s.folder := by
  induction t generalizing c parent ts r with
  | nil =>
    rw [Catalog.openBelow, hr] at hs
    cases hs
    exact hrefl _
  | cons d t ih =>
    obtain ⟨hd, ht⟩ := List.forall_mem_cons.1 ht
    obtain ⟨hc, hpath⟩ := h.openChild hp d
    rw [ContainerPath.child_ofTitles] at hc hpath
    simp only [Catalog.openBelow, ContainerPath.child_ofTitles] at hs
    -- The first folder of the trail is merged or made; any other one stays as it is.
    have hfirst : ∃ q, (Catalog.openChild parent (ContainerPath.ofTitles (ts ++ [d.title])) d c).2.folder?
        i = some q ∧ R r.folder q.folder := by
      obtain ⟨id, -, heq⟩ | ⟨-, heq⟩ :=
        openChild_cases parent (ContainerPath.ofTitles (ts ++ [d.title])) d c
      · rw [heq]
        by_cases hi : i = id
        · refine ⟨{ r with folder := mergeFolder r.folder d }, ?_, hd r.folder⟩
          rw [folder?_changeFolder, if_pos hi, hr]
          rfl
        · refine ⟨r, ?_, hrefl r.folder⟩
          rw [folder?_changeFolder, if_neg hi, hr]
      · refine ⟨r, ?_, hrefl r.folder⟩
        rw [heq, folder?_addFolder, if_neg (h.ne_freshId_of_folder d.pinned hr), hr]
    obtain ⟨q, hq, hR⟩ := hfirst
    exact htrans hR (ih ht hc hpath hq hs)

section

variable {c : Catalog} (h : c.Consistent)

include h

/-- No folder lies at the empty path. -/
theorem Consistent.pathIndex_nil : c.pathIndex[ContainerPath.ofTitles []]? = none := by
  apply Option.eq_none_iff_forall_ne_some.2
  intro i hi
  obtain ⟨r, hr, hpath⟩ := h.pathIndex_iff.1 hi
  obtain ⟨ts, hne, hts, -⟩ := h.exists_pathIndex hr
  rw [hpath, ContainerPath.ofTitles_inj] at hts
  exact hne hts.symm

/-- A trail to a folder that exists leads to that folder and adds no node. -/
theorem Consistent.openTrail_of_pathIndex {t : Trail} {i : NodeId}
    (hi : c.pathIndex[t.path]? = some i) :
    t ≠ [] ∧ (Catalog.openTrail t c).1 = some i ∧ c.SameNodes (Catalog.openTrail t c).2 := by
  have hne : t ≠ [] := by
    -- The path of no titles is that of the root, which no index has.
    rintro rfl
    have hnil : c.pathIndex[Trail.path []]? = none := h.pathIndex_nil
    rw [hi] at hnil
    cases hnil
  have hnodes : c.SameNodes (Catalog.openTrail t c).2 := by
    apply h.sameNodes_openBelow (pathOf?_root c)
    intro _
    rw [Trail.path] at hi
    simp [hi]
  obtain ⟨j, hj, hend⟩ := h.exists_openTrail hne
  rw [hnodes.paths, hi] at hend
  cases hend
  exact ⟨hne, hj, hnodes⟩

/-- If the folders of the trail are bare, some of those that exist run ahead. -/
theorem Consistent.openTrail_of_isBare {t : Trail} (ht : t.all Folder.isBare = true) {i : NodeId}
    (hi : c.pathIndex[t.path]? = some i) : c.LagsBehind (Catalog.openTrail t c).2 where
  nodes := (h.openTrail_of_pathIndex hi).2.2
  folders hr hs := by
    apply h.folder_openBelow Folder.LagsBehind.refl Folder.LagsBehind.trans ?_ (pathOf?_root c) hr hs
    intro d hd f
    exact Folder.lagsBehind_mergeFolder (List.all_eq_true.1 ht d hd) f

/-- If they are plain, nothing happens at all. -/
theorem Consistent.openTrail_of_isPlain {t : Trail} (ht : t.all Folder.isPlain = true)
    {i : NodeId} (hi : c.pathIndex[t.path]? = some i) : (Catalog.openTrail t c).2 = c := by
  obtain ⟨-, -, hnodes⟩ := h.openTrail_of_pathIndex hi
  -- The folders are there already, and a plain description adds nothing to them.
  apply hnodes.eq_of_folder?
  intro j
  obtain ⟨hr, hs⟩ | ⟨r, f, hr, hs⟩ := hnodes.folder_cases h (h.openTrail t) j
  · rw [hr, hs]
  · have hsame : r.folder = f := by
      apply h.folder_openBelow (fun _ => rfl) Eq.trans ?_ (pathOf?_root c) hr hs
      intro d hd g
      exact (Folder.mergeFolder_of_isPlain (List.all_eq_true.1 ht d hd) g).symm
    rw [hr, hs, ← hsame]

end

end Catalog

end MediaShelves
