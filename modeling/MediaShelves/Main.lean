import MediaShelves.CommandLine

/-!
# The program

Loads the part of the file system that a request needs, runs the request and prints what it leaves
behind.
-/

namespace MediaShelves.Program

/-- The path of a place. -/
def pathOf (p : FilePlace) : String :=
  "/" ++ "/".intercalate p

/-- The place of an absolute path. -/
def placeOf (path : String) : FilePlace :=
  ((path.toList.splitOn '/').map String.ofList).filter (· ≠ "")

/-- Whether the content of a file matters, and not only its name. -/
def needsContent (tags : Bool) (path : String) : Bool :=
  FilePath.isSidecar path.toList ||
    ((Scan.mimetype? path).bind Playlist.Format.ofMimetype?).isSome ||
    (tags && Scan.lowerExtension? path == some "flac")

/-- Loads the node at a place. -/
def loadNode (p : FilePlace) (needed : Bool) : IO (List (FilePlace × FileNode)) := do
  try
    let path := (← IO.currentDir) / pathOf p
    if ← path.isDir then return [(p, .directory)]
    if needed then return [(p, .file (← IO.FS.readBinFile path))]
    return [(p, .file ByteArray.empty)]
  catch _ => return []

/-- Loads the nodes on the way along a path. -/
def loadAlong (working : FilePlace) (path : String) : IO (List (FilePlace × FileNode)) := do
  let mut place := if path.toList.head? = some '/' then [] else working
  let mut nodes := ← loadNode place true
  for name in (path.toList.splitOn '/').map String.ofList do
    if name = ".." then place := place.dropLast
    else if name ≠ "" ∧ name ≠ "." then place := place ++ [name]
    nodes := nodes ++ (← loadNode place true)
  return nodes

/-- Loads all files below a directory; links are not followed. -/
partial def loadBelow (tags : Bool) (p : FilePlace) : IO (List (FilePlace × FileNode)) := do
  try
    let directory := (← IO.currentDir) / pathOf p
    let mut nodes := []
    for entry in ← directory.readDir do
      let place := p ++ [entry.fileName]
      match (← entry.path.symlinkMetadata).type with
      | .dir => nodes := nodes ++ (place, FileNode.directory) :: (← loadBelow tags place)
      | .file => nodes := nodes ++ (← loadNode place (needsContent tags entry.fileName))
      | _ => pure ()
    return nodes
  catch _ => return []

/-- Loads what a request needs. -/
def load (r : CommandLine.Request) : IO FileTree := do
  let working := placeOf (← IO.currentDir).toString
  let home ← IO.getEnv "HOME"
  let known : FileTree := ⟨[], working, home⟩
  let root := known.expandTilde r.directory
  let mut nodes := ← loadAlong working root
  if let some path := r.configuration then
    nodes := nodes ++ (← loadAlong working (known.expandTilde path))
  let directories : FileTree := ⟨nodes, working, home⟩
  if let some place := directories.resolve? root then
    if directories.isDirectoryAt place then
      let below ← loadBelow r.tags place
      nodes := nodes ++ below.filter fun (p, _) => (nodes.lookup p).isNone
  return ⟨nodes, working, home⟩

/-- Prints what a run leaves behind. -/
def report (o : CommandLine.Outcome) : IO UInt32 := do
  IO.print o.output
  if let some message := o.error then IO.eprint message
  return o.exitCode

end MediaShelves.Program

open MediaShelves in
/-- The program. -/
def main (args : List String) : IO UInt32 := do
  match CommandLine.Request.ofArguments args with
  | .error e => Program.report e.outcome
  | .ok r => Program.report (r.run (← Program.load r))
