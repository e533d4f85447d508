import MediaShelves.Keyed

/-!
# File trees

Directories and files with their contents, as far as they are at hand.  Paths are resolved as usual:
from the working directory unless they begin with a slash, and only through directories that exist.
-/

namespace MediaShelves

/-- What is at a place in a file tree. -/
inductive FileNode where
  | directory
  | file (content : ByteArray)

/-- A place in a file tree: the names of the directories down to it, and its own name. -/
abbrev FilePlace := List String

/-- Directories and files; a place that does not occur does not exist. -/
structure FileTree where
  nodes : List (FilePlace × FileNode)
  workingDirectory : FilePlace
  /-- The directory that a tilde stands for. -/
  home : Option String

namespace FileTree

/-! ## Places -/

/-- What is at a place; the root of all directories always exists. -/
def node? (t : FileTree) (p : FilePlace) : Option FileNode :=
  if p.isEmpty then some .directory else t.nodes.lookup p

/-- Whether there is a directory at a place. -/
def isDirectoryAt (t : FileTree) (p : FilePlace) : Bool :=
  match t.node? p with
  | some .directory => true
  | _ => false

/-- One step from a directory; an empty name and a dot stay, two dots go up. -/
def step? (t : FileTree) (p : FilePlace) (name : String) : Option FilePlace :=
  if !t.isDirectoryAt p then none
  else if name = "" ∨ name = "." then some p
  else if name = ".." then some p.dropLast
  else if (t.node? (p ++ [name])).isSome then some (p ++ [name])
  else none

/-- The place that a path leads to, if it exists. -/
def resolve? (t : FileTree) (path : String) : Option FilePlace :=
  match path.toList with
  | [] => none
  | '/' :: rest => ((rest.splitOn '/').map String.ofList).foldlM t.step? []
  | cs => ((cs.splitOn '/').map String.ofList).foldlM t.step? t.workingDirectory

/-! ## Contents -/

/-- Whether a path leads to a directory. -/
def isDirectory (t : FileTree) (path : String) : Bool :=
  (t.resolve? path).any t.isDirectoryAt

/-- The content of the file that a path leads to. -/
def content? (t : FileTree) (path : String) : Option ByteArray :=
  match (t.resolve? path).bind t.node? with
  | some (.file content) => some content
  | _ => none

/-- The content of the file that a path leads to, if it is a text. -/
def text? (t : FileTree) (path : String) : Option String :=
  (t.content? path).bind String.fromUTF8?

/-- The part of a place below a directory. -/
def below? : (directory p : FilePlace) → Option FilePlace
  | [], p => some p
  | a :: directory, b :: p => if a = b then below? directory p else none
  | _ :: _, [] => none

/-- The path of a place below the directory at `root`. -/
def joinPath (root : String) (p : FilePlace) : String :=
  let rest := "/".intercalate p
  if root.toList.getLast? = some '/' then root ++ rest else root ++ "/" ++ rest

/-- The paths and contents of all files below the directory at `root`. -/
def filesBelow (t : FileTree) (root : String) : List (String × ByteArray) :=
  match t.resolve? root with
  | none => []
  | some directory =>
    t.nodes.filterMap fun (p, node) =>
      match below? directory p, node with
      | some (name :: rest), .file content => some (joinPath root (name :: rest), content)
      | _, _ => none

/-- A path with the tilde at its beginning expanded. -/
def expandTilde (t : FileTree) (path : String) : String :=
  match path.toList, t.home with
  | ['~'], some home => home
  | '~' :: '/' :: rest, some home => home ++ String.ofList ('/' :: rest)
  | _, _ => path

end FileTree

end MediaShelves
