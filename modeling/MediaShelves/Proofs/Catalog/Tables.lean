import MediaShelves.Catalog

/-!
# What the operations do to the tables

One equation for each table that an operation writes; the tables that it leaves alone are equal by
definition.  Later proofs use these equations and do not open the operations.
-/

namespace MediaShelves.Catalog

/-! ## The empty catalog -/

@[simp] theorem folder?_empty (i : NodeId) : empty.folder? i = none := by
  simp [empty, folder?]

@[simp] theorem item?_empty (i : NodeId) : empty.item? i = none := by
  simp [empty, item?]

@[simp] theorem pathIndex_empty (p : String) : empty.pathIndex[p]? = none := by
  simp [empty]

@[simp] theorem fileIndex_empty (l : String) : empty.fileIndex[l]? = none := by
  simp [empty]

@[simp] theorem childrenOf_empty (i : NodeId) : empty.childrenOf i = [] := by
  simp [empty, childrenOf]

/-! ## A new folder -/

section AddFolder

variable (c : Catalog) (parent : NodeId) (path : String) (f : Folder)

@[simp] theorem fst_addFolder : (c.addFolder parent path f).1 = c.freshId f.pinned := rfl

@[simp] theorem folder?_addFolder (i : NodeId) :
    (c.addFolder parent path f).2.folder? i =
      if i = c.freshId f.pinned then
        some ⟨i, parent, path, { f with pinned := some i }⟩
      else c.folder? i := by
  by_cases h : i = c.freshId f.pinned
  · simp [addFolder, folder?, h]
  · simp [addFolder, folder?, append, Std.ExtTreeMap.getElem?_insert, h, Ne.symm h]

@[simp] theorem item?_addFolder (i : NodeId) :
    (c.addFolder parent path f).2.item? i = c.item? i := rfl

@[simp] theorem pathIndex_addFolder (p : String) :
    (c.addFolder parent path f).2.pathIndex[p]? =
      if p = path then some (c.freshId f.pinned) else c.pathIndex[p]? := by
  by_cases h : p = path
  · simp [addFolder, h]
  · simp [addFolder, append, Std.ExtTreeMap.getElem?_insert, h, Ne.symm h]

@[simp] theorem fileIndex_addFolder :
    (c.addFolder parent path f).2.fileIndex = c.fileIndex := rfl

@[simp] theorem childrenOf_addFolder (q : NodeId) :
    (c.addFolder parent path f).2.childrenOf q =
      if q = parent then c.childrenOf q ++ [c.freshId f.pinned] else c.childrenOf q := by
  by_cases h : q = parent
  · simp [addFolder, childrenOf, append, h]
  · simp [addFolder, childrenOf, append, Std.ExtTreeMap.getElem?_insert, h, Ne.symm h]

@[simp] theorem nextId_addFolder :
    (c.addFolder parent path f).2.nextId = max c.nextId (c.freshId f.pinned + 1) := rfl

end AddFolder

/-! ## A new item -/

section AddItem

variable (c : Catalog) (parent : NodeId) (x : MediaItem)

@[simp] theorem fst_addItem : (c.addItem parent x).1 = c.freshId none := rfl

@[simp] theorem folder?_addItem (i : NodeId) :
    (c.addItem parent x).2.folder? i = c.folder? i := rfl

@[simp] theorem item?_addItem (i : NodeId) :
    (c.addItem parent x).2.item? i =
      if i = c.freshId none then some ⟨i, some parent, { x with id := some i }⟩
      else c.item? i := by
  by_cases h : i = c.freshId none
  · simp [addItem, item?, h]
  · simp [addItem, item?, append, Std.ExtTreeMap.getElem?_insert, h, Ne.symm h]

@[simp] theorem pathIndex_addItem : (c.addItem parent x).2.pathIndex = c.pathIndex := rfl

@[simp] theorem fileIndex_addItem : (c.addItem parent x).2.fileIndex = c.fileIndex := rfl

@[simp] theorem childrenOf_addItem (q : NodeId) :
    (c.addItem parent x).2.childrenOf q =
      if q = parent then c.childrenOf q ++ [c.freshId none] else c.childrenOf q := by
  by_cases h : q = parent
  · simp [addItem, childrenOf, append, h]
  · simp [addItem, childrenOf, append, Std.ExtTreeMap.getElem?_insert, h, Ne.symm h]

@[simp] theorem nextId_addItem :
    (c.addItem parent x).2.nextId = max c.nextId (c.freshId none + 1) := rfl

end AddItem

/-! ## A new canonical item -/

section AddFile

variable (c : Catalog) (x : MediaItem)

@[simp] theorem fst_addFile : (c.addFile x).1 = c.freshId none := rfl

@[simp] theorem folder?_addFile (i : NodeId) : (c.addFile x).2.folder? i = c.folder? i := rfl

@[simp] theorem item?_addFile (i : NodeId) :
    (c.addFile x).2.item? i =
      if i = c.freshId none then some ⟨i, none, { x with id := some i }⟩ else c.item? i := by
  by_cases h : i = c.freshId none
  · simp [addFile, item?, h]
  · simp [addFile, item?, Std.ExtTreeMap.getElem?_insert, h, Ne.symm h]

@[simp] theorem pathIndex_addFile : (c.addFile x).2.pathIndex = c.pathIndex := rfl

@[simp] theorem fileIndex_addFile (l : String) :
    (c.addFile x).2.fileIndex[l]? =
      if l = x.location then some (c.freshId none) else c.fileIndex[l]? := by
  by_cases h : l = x.location
  · simp [addFile, h]
  · simp [addFile, Std.ExtTreeMap.getElem?_insert, h, Ne.symm h]

@[simp] theorem childrenOf_addFile (q : NodeId) :
    (c.addFile x).2.childrenOf q = c.childrenOf q := rfl

@[simp] theorem nextId_addFile :
    (c.addFile x).2.nextId = max c.nextId (c.freshId none + 1) := rfl

end AddFile

/-! ## A changed folder -/

section ChangeFolder

variable (c : Catalog) (id : NodeId) (change : Folder → Folder)

@[simp] theorem folder?_changeFolder (i : NodeId) :
    (c.changeFolder id change).folder? i =
      if i = id then (c.folder? i).map fun r => { r with folder := change r.folder }
      else c.folder? i := by
  by_cases h : i = id
  · simp [changeFolder, folder?, h]
  · simp [changeFolder, folder?, Std.ExtTreeMap.getElem?_modify, h, Ne.symm h]

@[simp] theorem item?_changeFolder (i : NodeId) :
    (c.changeFolder id change).item? i = c.item? i := rfl

@[simp] theorem pathIndex_changeFolder :
    (c.changeFolder id change).pathIndex = c.pathIndex := rfl

@[simp] theorem fileIndex_changeFolder :
    (c.changeFolder id change).fileIndex = c.fileIndex := rfl

@[simp] theorem childrenOf_changeFolder (q : NodeId) :
    (c.changeFolder id change).childrenOf q = c.childrenOf q := rfl

@[simp] theorem nextId_changeFolder : (c.changeFolder id change).nextId = c.nextId := rfl

end ChangeFolder

/-! ## A changed item -/

section ChangeItem

variable (c : Catalog) (id : NodeId) (change : MediaItem → MediaItem)

@[simp] theorem folder?_changeItem (i : NodeId) :
    (c.changeItem id change).folder? i = c.folder? i := rfl

@[simp] theorem item?_changeItem (i : NodeId) :
    (c.changeItem id change).item? i =
      if i = id then (c.item? i).map fun r => { r with item := change r.item }
      else c.item? i := by
  by_cases h : i = id
  · simp [changeItem, item?, h]
  · simp [changeItem, item?, Std.ExtTreeMap.getElem?_modify, h, Ne.symm h]

@[simp] theorem pathIndex_changeItem : (c.changeItem id change).pathIndex = c.pathIndex := rfl

@[simp] theorem fileIndex_changeItem : (c.changeItem id change).fileIndex = c.fileIndex := rfl

@[simp] theorem childrenOf_changeItem (q : NodeId) :
    (c.changeItem id change).childrenOf q = c.childrenOf q := rfl

@[simp] theorem nextId_changeItem : (c.changeItem id change).nextId = c.nextId := rfl

end ChangeItem

end MediaShelves.Catalog
