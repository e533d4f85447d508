import MediaShelves.Catalog

/-!
# Outlines

The catalog as an indented text: below each folder first its folders by title, then its items by
their position in a playlist and their title.
-/

namespace MediaShelves.Catalog

/-- The folders right below a folder, by title. -/
def foldersIn (c : Catalog) (parent : NodeId) : List StoredFolder :=
  ((c.childrenOf parent).filterMap c.folder?).mergeSort fun a b => !(b.folder.title < a.folder.title)

/-- Whether a position comes before another; no position comes before every position. -/
def orderBefore : Option Nat → Option Nat → Bool
  | none, some _ => true
  | some m, some n => m < n
  | _, none => false

/-- Whether an item is listed before or with another. -/
def listedBefore (a b : StoredItem) : Bool :=
  orderBefore a.item.playlistOrder b.item.playlistOrder ||
    (a.item.playlistOrder == b.item.playlistOrder && !(b.item.title < a.item.title))

/-- The items right below a folder, as they are listed. -/
def listedItems (c : Catalog) (parent : NodeId) : List StoredItem :=
  (c.itemsIn parent).mergeSort listedBefore

/-- A line of an outline: a title at a depth. -/
structure OutlineLine where
  depth : Nat
  title : String
  isFolder : Bool
deriving DecidableEq, Repr

/-- The lines below a folder; the budget bounds how deep folders lie in folders. -/
def outlineBelow (c : Catalog) : (budget : Nat) → (depth : Nat) → NodeId → List OutlineLine
  | 0, _, _ => []
  | budget + 1, depth, parent =>
    (c.foldersIn parent).flatMap (fun r =>
      ⟨depth, r.folder.title, true⟩ :: c.outlineBelow budget (depth + 1) r.id) ++
    (c.listedItems parent).map fun r => ⟨depth, r.item.title, false⟩

/-- The lines of the catalog; no folder lies deeper than there are folders. -/
def outlineLines (c : Catalog) : List OutlineLine :=
  c.outlineBelow (c.folderCount + 1) 0 rootId

/-- The text of a line. -/
def OutlineLine.text (l : OutlineLine) : String :=
  let ending := if l.isFolder then "/\n" else "\n"
  String.ofList (List.replicate (2 * l.depth) ' ') ++ l.title ++ ending

/-- The catalog as an indented text. -/
def outline (c : Catalog) : String :=
  String.join (c.outlineLines.map OutlineLine.text)

end MediaShelves.Catalog
