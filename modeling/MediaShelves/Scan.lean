import MediaShelves.Catalog
import MediaShelves.FileTree
import MediaShelves.FlacTags
import MediaShelves.Import
import MediaShelves.Scan.Mimetype
import MediaShelves.Sidecar

/-!
# Scans

All files below a directory become items and are shelved, each with the sidecar beside it.
Playlists come last, so that they find the items that they list.
-/

namespace MediaShelves.Scan

/-! ## Items of files -/

/-- A file below the directory that is scanned. -/
structure FoundFile where
  path : String
  content : ByteArray

/-- A way to make an item of a file with a mimetype; it may fail. -/
abbrev ItemReader := FoundFile → (mimetype : String) → Option MediaItem

/-- The item that only the name of a file tells. -/
def readName : ItemReader := fun f mimetype =>
  some (MediaItem.ofLocation f.path mimetype)

/-- The item that the tags of an audio file tell. -/
def readTags : ItemReader := fun f mimetype =>
  let x := MediaItem.ofLocation f.path mimetype
  if lowerExtension? f.path = some "flac" then
    (FlacTags.comments? f.content.toList).map fun comments =>
      { x with metadata := FlacTags.metadata comments }
  else some x

/-! ## Files -/

/-- An item with the path of its sidecar. -/
structure ScannedFile where
  item : MediaItem
  sidecar : Option String

/-- Whether an item is a playlist. -/
def isPlaylist (x : MediaItem) : Bool :=
  (Playlist.Format.ofMimetype? x.mimetype).isSome

/-- A path without the extension of its name. -/
def stemPath (path : String) : String :=
  String.ofList (FilePath.withoutExtension path.toList)

/-- The sidecars among some files, by what they stand beside; of two the later one counts. -/
def sidecars (files : List FoundFile) : Keyed String :=
  Keyed.ofList ((files.filter fun f => FilePath.isSidecar f.path.toList).map fun f =>
    (stemPath f.path, f.path))

/-- Whether a file is imported before another or with it: playlists last, then by location. -/
def importedBefore (a b : ScannedFile) : Bool :=
  match isPlaylist a.item, isPlaylist b.item with
  | false, true => true
  | true, false => false
  | _, _ => !(b.item.location < a.item.location)

/-- The item of a file, if its kind is known; what cannot be read is known by its name. -/
def scanFile? (read : ItemReader) (sidecars : Keyed String) (f : FoundFile) : Option ScannedFile :=
  if FilePath.isSidecar f.path.toList then none
  else (mimetype? f.path).map fun mimetype =>
    ⟨(read f mimetype).getD (MediaItem.ofLocation f.path mimetype),
      sidecars.find? (stemPath f.path)⟩

/-- The items of all files whose kind is known, in the order in which they are imported. -/
def scan (read : ItemReader) (files : List FoundFile) : List ScannedFile :=
  (files.filterMap (scanFile? read (sidecars files))).mergeSort importedBefore

/-! ## Errors -/

/-- Why a scan came to nothing. -/
inductive ScanError where
  | notDirectory (root : String)
  | importFailed (location : String) (cause : ConfigError)
deriving DecidableEq, Repr

/-- The text of an error. -/
def ScanError.message : ScanError → String
  | .notDirectory root => "Not a directory: " ++ root
  | .importFailed location _ => "Failed to import " ++ location

/-- The items of all files below a directory, in the order in which they are imported. -/
def scanDirectory (t : FileTree) (read : ItemReader) (root : String) :
    Except ScanError (List ScannedFile) :=
  if t.isDirectory root then
    .ok (scan read ((t.filesBelow root).map fun (path, content) => ⟨path, content⟩))
  else .error (.notDirectory root)

/-! ## Import -/

/-- What an import amounted to. -/
structure Summary where
  files : Nat
  placements : Nat
  metafiles : Nat
deriving DecidableEq, Repr

/-- What importing reads besides the items: the texts of files, and how they are shelved. -/
structure Job where
  configuration : Configuration
  origin : Origin
  text? : String → Option String

/-- Imports one file: it is registered, revised by its sidecar and shelved. -/
def Job.importFile (j : Job) (f : ScannedFile) (c : Catalog) (sum : Summary) :
    Except ScanError (Catalog × Summary) :=
  let location := f.item.location
  let (x, c) := c.register f.item
  -- A sidecar that cannot be read is passed over.
  let (revised, c) := match f.sidecar.bind j.text? with
    | some content => Sidecar.revise content x c
    | none => ([], c)
  -- What is shelved is the item as its sidecar has left it.
  let x := (Shelves.canonical? c location).getD x
  match j.configuration.importItem j.text? j.origin x c with
  | (.ok ids, c) =>
    .ok (c, ⟨sum.files + 1, sum.placements + ids.length, sum.metafiles + revised.length⟩)
  | (.error e, _) => .error (.importFailed location e)

/-- Imports files into a catalog, one after another. -/
def Job.importFiles (j : Job) (files : List ScannedFile) (c : Catalog) :
    Except ScanError (Catalog × Summary) :=
  files.foldlM (fun (c, sum) f => j.importFile f c sum) (c, ⟨0, 0, 0⟩)

end MediaShelves.Scan
