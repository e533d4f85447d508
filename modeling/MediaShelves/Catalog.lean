import MediaShelves.Shelves
import Std.Data.ExtTreeMap

/-!
# The catalog

Shelves in memory.  Folders are known by their paths: a folder is made once, and whoever asks for it
again adds to it what it lacks.  An item is never twice at the same position of the same folder.
-/

namespace MediaShelves

/-! ## Contents -/

/-- The id of the root, which is no folder itself. -/
def rootId : NodeId := 0

/-- A folder of the catalog. -/
structure StoredFolder where
  id : NodeId
  parent : NodeId
  path : String
  folder : Folder
deriving DecidableEq, Repr

/-- An item of the catalog; without a parent it is the canonical item of a file. -/
structure StoredItem where
  id : NodeId
  parent : Option NodeId
  item : MediaItem
deriving DecidableEq, Repr

/--
Folders and items by their ids, with an index of folders by path, an index of canonical items by
location, and what lies right below each node.
-/
@[ext]
structure Catalog where
  folderTable : Std.ExtTreeMap NodeId StoredFolder
  itemTable : Std.ExtTreeMap NodeId StoredItem
  /-- The ids of folders by their paths. -/
  pathIndex : Std.ExtTreeMap String NodeId
  /-- The ids of canonical items by their locations. -/
  fileIndex : Std.ExtTreeMap String NodeId
  /-- What lies right below a node, in the order in which it came there. -/
  childTable : Std.ExtTreeMap NodeId (List NodeId)
  /-- Greater than every id in use. -/
  nextId : NodeId
deriving DecidableEq, Repr

/-- What makes two items in a folder the same. -/
inductive Identity where
  | canonical (id : NodeId)
  | address (location : String)
  | file (location : String)
deriving DecidableEq, Repr

/-- An item is what it stands for; if it stands for itself, it is its location. -/
def MediaItem.identity (x : MediaItem) : Identity :=
  match x.refersTo, x.form with
  | some id, _ => .canonical id
  | none, .externalUrl => .address x.location
  | none, _ => .file x.location

namespace Catalog

/-- The catalog without contents. -/
def empty : Catalog :=
  ⟨∅, ∅, ∅, ∅, ∅, 1⟩

/-! ## Look-up -/

/-- The folder with an id. -/
def folder? (c : Catalog) (id : NodeId) : Option StoredFolder :=
  c.folderTable[id]?

/-- The folder at a path. -/
def folderAt? (c : Catalog) (path : String) : Option StoredFolder :=
  c.pathIndex[path]?.bind c.folder?

/-- The folder that a list of titles leads to. -/
def findFolder? (c : Catalog) (titles : List String) : Option StoredFolder :=
  c.folderAt? (ContainerPath.ofTitles titles)

/-- The item with an id. -/
def item? (c : Catalog) (id : NodeId) : Option StoredItem :=
  c.itemTable[id]?

/-- The ids right below a node, in the order in which they came there. -/
def childrenOf (c : Catalog) (id : NodeId) : List NodeId :=
  c.childTable[id]?.getD []

/-- The items of a folder, in the order in which they were placed. -/
def itemsIn (c : Catalog) (folder : NodeId) : List StoredItem :=
  (c.childrenOf folder).filterMap c.item?

/-- The canonical item of a location. -/
def file? (c : Catalog) (location : String) : Option StoredItem :=
  c.fileIndex[location]?.bind c.item?

/-- All folders, by id. -/
def folders (c : Catalog) : List StoredFolder :=
  c.folderTable.values

/-- All items, canonical ones included, by id. -/
def items (c : Catalog) : List StoredItem :=
  c.itemTable.values

/-- How many folders there are. -/
def folderCount (c : Catalog) : Nat :=
  c.folderTable.size

/-- How many items are placed; canonical items do not count. -/
def itemCount (c : Catalog) : Nat :=
  c.items.countP (·.parent.isSome)

/-! ## New nodes -/

/-- Whether a wanted id is free. -/
def isFree (c : Catalog) (id : NodeId) : Bool :=
  id != rootId && (c.folder? id).isNone && (c.item? id).isNone

/-- The id for a new node: the one that is wanted, if it is free, else the next one. -/
def freshId (c : Catalog) (wanted : Option NodeId) : NodeId :=
  match wanted with
  | some id => if c.isFree id then id else max c.nextId 1
  | none => max c.nextId 1

/-- Puts a node at the end of what lies below another one. -/
def append (c : Catalog) (parent id : NodeId) : Catalog :=
  { c with childTable := c.childTable.insert parent (c.childrenOf parent ++ [id]) }

/-- Adds a folder below another one. -/
def addFolder (c : Catalog) (parent : NodeId) (path : String) (f : Folder) : NodeId × Catalog :=
  let id := c.freshId f.pinned
  (id, { c.append parent id with
    folderTable := c.folderTable.insert id ⟨id, parent, path, { f with pinned := some id }⟩
    pathIndex := c.pathIndex.insert path id
    nextId := max c.nextId (id + 1) })

/-- Adds an item below a folder. -/
def addItem (c : Catalog) (parent : NodeId) (x : MediaItem) : NodeId × Catalog :=
  let id := c.freshId none
  (id, { c.append parent id with
    itemTable := c.itemTable.insert id ⟨id, some parent, { x with id := some id }⟩
    nextId := max c.nextId (id + 1) })

/-- Adds a canonical item, which lies nowhere. -/
def addFile (c : Catalog) (x : MediaItem) : NodeId × Catalog :=
  let id := c.freshId none
  (id, { c with
    itemTable := c.itemTable.insert id ⟨id, none, { x with id := some id }⟩
    fileIndex := c.fileIndex.insert x.location id
    nextId := max c.nextId (id + 1) })

/-- Registers a file and gives its canonical item; a location is registered once. -/
def register (c : Catalog) (x : MediaItem) : MediaItem × Catalog :=
  match c.fileIndex[x.location]? with
  | some id => ({ x with id := some id }, c)
  | none =>
    let (id, c) := c.addFile x
    ({ x with id := some id }, c)

/-! ## Folders -/

/-- What a folder becomes when it is asked for again; what it borrows, it borrows only once. -/
def mergeFolder (old new : Folder) : Folder :=
  let borrows := old.resources.isEmpty && !new.resources.isEmpty
  { old with
    metadata := old.metadata.overlay new.metadata
    upnpClass := if old.upnpClass = UpnpClass.container then new.upnpClass else old.upnpClass
    searchable := old.searchable || new.searchable
    resources := if borrows then new.resources else old.resources
    auxiliary := if borrows then new.auxiliary else old.auxiliary
    owner := if borrows then new.owner else old.owner }

/-- Changes the folder with an id. -/
def changeFolder (c : Catalog) (id : NodeId) (change : Folder → Folder) : Catalog :=
  { c with folderTable := c.folderTable.modify id fun r => { r with folder := change r.folder } }

/--
Makes sure that there is a folder at a path below another one.  A folder that exists takes over what
is new, and keeps its id.
-/
def openChild (parent : NodeId) (path : String) (f : Folder) (c : Catalog) : NodeId × Catalog :=
  match c.pathIndex[path]? with
  | some id => (id, c.changeFolder id fun old => mergeFolder old f)
  | none => c.addFolder parent path f

/-- Goes down a trail from a folder, making the folders that are missing. -/
def openBelow (parent : NodeId) (path : String) : Trail → Catalog → NodeId × Catalog
  | [], c => (parent, c)
  | f :: rest, c =>
    let path := ContainerPath.child path f.title
    let (id, c) := openChild parent path f c
    openBelow id path rest c

/-- Makes sure that the folders of a trail exist, and gives the last one. -/
def openTrail (t : Trail) (c : Catalog) : Option NodeId × Catalog :=
  let (id, c) := openBelow rootId "" t c
  (if t.isEmpty then none else some id, c)

/-- The class of a folder after a hint: one that is not specific yet follows it. -/
def hintFolder (hint : Option String) (f : Folder) : Folder :=
  match hint with
  | some upnpClass => if f.upnpClass = UpnpClass.container then { f with upnpClass } else f
  | none => f

/-! ## Items -/

/-- The item in a folder that is the same as another one at the same position. -/
def placed? (c : Catalog) (x : MediaItem) (folder : NodeId) : Option NodeId :=
  ((c.itemsIn folder).find? fun r =>
    r.item.identity = x.identity ∧ r.item.playlistOrder = x.playlistOrder).map (·.id)

/-- Puts an item into a folder that exists, unless it is there already. -/
def place (x : MediaItem) (folder : NodeId) (hint : Option String) (c : Catalog) :
    Option NodeId × Catalog :=
  if folder = rootId ∨ (c.folder? folder).isSome then
    -- The hint counts even if the item is there already.
    let c := c.changeFolder folder (hintFolder hint)
    match c.placed? x folder with
    | some _ => (none, c)
    | none =>
      let (id, c) := c.addItem folder x
      (some id, c)
  else (none, c)

/-- Changes the item with an id. -/
def changeItem (c : Catalog) (id : NodeId) (change : MediaItem → MediaItem) : Catalog :=
  { c with itemTable := c.itemTable.modify id fun r => { r with item := change r.item } }

/-- An item with the title, the class and the metadata of another. -/
def reviseItem (old new : MediaItem) : MediaItem :=
  { old with
    title := new.title
    upnpClass := new.upnpClass
    metadata := old.metadata.overlay new.metadata
    auxiliary := old.auxiliary.overlay new.auxiliary }

/-- Revises the item with the id of `x`, or the canonical item of its location. -/
def revise (x : MediaItem) (c : Catalog) : Option NodeId × Catalog :=
  match x.id.or c.fileIndex[x.location]? with
  | none => (none, c)
  | some id =>
    match c.item? id with
    | none => (none, c)
    | some _ => (some id, c.changeItem id fun old => reviseItem old x)

instance : Shelves Catalog where
  openTrail := openTrail
  place := place
  revise := revise
  placed? := placed?
  canonical? c location := (c.file? location).map (·.item)

end Catalog

end MediaShelves
