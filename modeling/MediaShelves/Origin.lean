import MediaShelves.Folder

/-!
# Origins

Where an item comes from: the root of the import and the physical folder that holds the item.
Folders borrow the resources of the one or the other, and directory folders do so from a certain
depth on.
-/

namespace MediaShelves

/-- The physical folder in which an item was found. -/
structure PhysicalParent where
  id : NodeId
  resources : List Resource
deriving DecidableEq, Repr

/-- Where an item comes from. -/
structure Origin where
  /-- The directory below which directory folders begin. -/
  root : String
  parent : Option PhysicalParent
  /-- The class of album folders, where the import settles it. -/
  albumClass : Option String
deriving DecidableEq, Repr

/-- Resources that are there to be borrowed, and whose they are. -/
structure Loan where
  resources : List Resource
  owner : Option NodeId
deriving DecidableEq, Repr

namespace Origin

/-- An origin of which only the root is known. -/
def ofRoot (root : String) : Origin :=
  ⟨root, none, none⟩

/--
What folders borrow for an item: from its physical folder if that has resources, else from it.
-/
def loan (o : Origin) (x : MediaItem) : Loan :=
  match o.parent with
  | some p => if p.resources.isEmpty then ⟨x.resources, x.id⟩ else ⟨p.resources, some p.id⟩
  | none => ⟨x.resources, x.id⟩

/-- The names of the directories between the root and an item. -/
def directories (o : Origin) (x : MediaItem) : List String :=
  (FilePath.segmentsBelow o.root.toList x.location.toList).map String.ofList

end Origin

namespace Folder

/-- The folder with the resources that it borrows for an item, and the facts of the item. -/
def borrowing (f : Folder) (o : Origin) (x : MediaItem) : Folder :=
  let loan := o.loan x
  { f with resources := loan.resources, auxiliary := x.auxiliary, owner := loan.owner }

end Folder

/-! ## Directory folders -/

/--
Whether the folder at a depth borrows resources, of so many directory folders: the last one and
`parentCount` above it do.  The depth is compared in words of 64 bits.
-/
def borrowsAt (count : Nat) (parentCount : UInt64) (depth : Nat) : Bool :=
  decide (Int64.ofNat count - parentCount.toInt64 - 1 ≤ Int64.ofNat depth)

/-- One folder for each directory, made after a template. -/
def directoryFolders (template : Folder) (o : Origin) (x : MediaItem) (parentCount : UInt64)
    (directories : List String) : Trail :=
  directories.mapIdx fun depth name =>
    let f := template.titled name
    if borrowsAt directories.length parentCount depth then
      { f with resources := (o.loan x).resources, auxiliary := x.auxiliary }
    else f

namespace Trail

/-- Says whose resources the last folder borrows. -/
def withLeafOwner (owner : Option NodeId) : Trail → Trail
  | [] => []
  | [f] => [{ f with owner := owner }]
  | f :: g :: rest => f :: withLeafOwner owner (g :: rest)

/-- Goes on through directories; the last folder of all borrows from the item or its parent. -/
def throughDirectories (t : Trail) (template : Folder) (o : Origin) (x : MediaItem)
    (parentCount : UInt64) (directories : List String) : Trail :=
  withLeafOwner (o.loan x).owner
    (t ++ directoryFolders template o x parentCount directories)

end Trail

end MediaShelves
