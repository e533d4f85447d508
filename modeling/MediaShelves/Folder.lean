import MediaShelves.ContainerPath
import MediaShelves.MediaItem

/-!
# Folders and trails

A folder as a plan asks for it, and a trail: the folders from the root to the one that gets an item.
-/

namespace MediaShelves

/-- A folder as it is asked for. -/
@[ext]
structure Folder where
  /-- The id that the configuration pins the folder to. -/
  pinned : Option NodeId
  title : String
  upnpClass : String
  searchable : Bool
  /-- The name of the folder as a shortcut of the protocol. -/
  shortcut : Option String
  sortKey : Option String
  metadata : Metadata
  /-- Resources that the folder borrows from an item or a physical folder. -/
  resources : List Resource
  auxiliary : Keyed String
  /-- Whose resources the folder borrows. -/
  owner : Option NodeId
deriving DecidableEq, Repr

namespace Folder

/-- A folder with a title and a class and nothing else. -/
def plain (title upnpClass : String) : Folder where
  pinned := none
  title := title
  upnpClass := upnpClass
  searchable := false
  shortcut := none
  sortKey := none
  metadata := Metadata.empty
  resources := []
  auxiliary := Keyed.empty
  owner := none

/-- A searchable folder that carries metadata of its own. -/
def facet (title upnpClass : String) (facts : List (String × String)) : Folder :=
  { plain title upnpClass with
    searchable := true
    metadata := facts.foldl (fun m x => m.add x.1 x.2) Metadata.empty }

/-- The same folder under another title. -/
def titled (f : Folder) (title : String) : Folder :=
  { f with title := title }

/-- Whether a folder brings nothing that could be merged into one that exists. -/
def isBare (f : Folder) : Bool :=
  f.metadata.isEmpty && f.resources.isEmpty

end Folder

/-- The folders from the root to the one that gets an item. -/
abbrev Trail := List Folder

namespace Trail

/-- The titles along a trail. -/
def titles (t : Trail) : List String :=
  List.map Folder.title t

/-- The container path of a trail's last folder. -/
def path (t : Trail) : String :=
  ContainerPath.ofTitles (titles t)

end Trail

end MediaShelves
