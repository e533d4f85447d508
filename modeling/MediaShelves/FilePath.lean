import MediaShelves.Text.Cut

/-!
# File paths

Paths as slash-separated texts: the directory that holds a file, the segments below a root, the
extension and the stem.
-/

namespace MediaShelves.FilePath

open MediaShelves.Text

/-! ## Directories -/

/-- The name of the directory that directly holds `location`, empty without one. -/
def lastDirectory (location : List Char) : List Char :=
  match (location.splitOn '/').reverse with
  | _ :: directory :: _ => directory
  | _ => []

/-- The directory part of `location` with its trailing slash. -/
def directoryPart (location : List Char) : List Char :=
  match cutLast? '/' location with
  | some (before, _) => before ++ ['/']
  | none => []

/-- Removes one trailing slash. -/
def withoutTrailingSlash (path : List Char) : List Char :=
  match path.reverse with
  | '/' :: rest => rest.reverse
  | _ => path

/-- Whether a path segment names a directory entry of its own. -/
def isProperSegment (segment : List Char) : Bool :=
  segment != [] && segment != ['.'] && segment != ['.', '.']

/--
The directory segments between the directory `root` and the directory that holds `location`.
Without a root it is only the name of the latter.  Empty segments and dot segments do not count.
-/
def segmentsBelow (root location : List Char) : List (List Char) :=
  if root = [] then
    match lastDirectory location with
    | [] => []
    | directory => [directory]
  else
    let rest := (dropStart? (withoutTrailingSlash root) location).getD location
    let directory := match cutLast? '/' rest with
      | some (before, _) => before
      | none => []
    (directory.splitOn '/').filter isProperSegment

/-! ## File names -/

/-- The last segment of a path, where it is a name. -/
def fileName? (path : List Char) : Option (List Char) :=
  match (path.splitOn '/').reverse.dropWhile (fun s => s == [] || s == ['.']) with
  | name :: _ => if name = ['.', '.'] then none else some name
  | [] => none

/-- The part of a file name after its last dot, unless that dot begins the name. -/
def extension? (path : List Char) : Option (List Char) :=
  match fileName? path with
  | none => none
  | some name =>
    match cutLast? '.' name with
    | some (_ :: _, extension) => some extension
    | _ => none

/--
The path of a file without the extension of its name.  Where only a dot is left of the name, the dot
before the extension stays with it.
-/
def withoutExtension (path : List Char) : List Char :=
  let (directory, name) := match cutLast? '/' path with
    | some (before, after) => (before ++ ['/'], after)
    | none => ([], path)
  match cutLast? '.' name with
  | some (['.'], _) => directory ++ ['.', '.']
  | some (c :: before, _) => directory ++ c :: before
  | _ => path

/-- ASCII letters in lower case. -/
def asciiLower (s : List Char) : List Char :=
  s.map Char.toLower

/-- Whether a path has the extension of a metadata sidecar, in any case. -/
def isSidecar (path : List Char) : Bool :=
  (extension? path).any fun extension => asciiLower extension == ['n', 'f', 'o']

/-! ## Titles from names -/

/-- A file name without its extension, unless the dot is one of its first two characters. -/
def stem (title : List Char) : List Char :=
  match cutLast? '.' title with
  | some (before, _) => if 1 < before.length then before else title
  | none => title

/-- What follows the last slash. -/
def lastSegment (path : List Char) : List Char :=
  match cutLast? '/' path with
  | some (_, after) => after
  | none => path

end MediaShelves.FilePath
