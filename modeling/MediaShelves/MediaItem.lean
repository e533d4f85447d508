import MediaShelves.FilePath
import MediaShelves.Metadata

/-!
# Media items

A file or address that is to be put on the shelves, with everything that is known about it.
-/

namespace MediaShelves

/-! ## Classes -/

namespace UpnpClass

def container := "object.container"
def musicAlbum := "object.container.album.musicAlbum"
def photoAlbum := "object.container.album.photoAlbum"
def musicArtist := "object.container.person.musicArtist"
def musicComposer := "object.container.person.musicComposer"
def musicGenre := "object.container.genre.musicGenre"
def playlist := "object.container.playlistContainer"
def item := "object.item"
def musicTrack := "object.item.audioItem.musicTrack"
def videoItem := "object.item.videoItem"
def movie := "object.item.videoItem.movie"
def imageItem := "object.item.imageItem"

end UpnpClass

/-- The number by which a catalog knows a folder or an item; 0 is the root. -/
abbrev NodeId := Nat

/-- A medium, or something else. -/
inductive Medium where
  | audio
  | video
  | image
  | other
deriving DecidableEq, Repr

/-- What an item is to the catalog: a folder, a local file, or an address elsewhere. -/
inductive ItemForm where
  | container
  | item
  | externalUrl
deriving DecidableEq, Repr

/-! ## Items -/

/-- A stream, thumbnail or the like that belongs to an item. -/
structure Resource where
  handler : String
  attributes : Keyed String
deriving DecidableEq, Repr

/-- A file or address with all that is known about it. -/
structure MediaItem where
  id : Option NodeId
  /-- The canonical item that this one stands for. -/
  refersTo : Option NodeId
  form : ItemForm
  location : String
  title : String
  mimetype : String
  upnpClass : String
  metadata : Metadata
  /-- Facts that only one kind of source records. -/
  auxiliary : Keyed String
  resources : List Resource
  sortKey : String
  protocol : Option String
  /-- The place in a playlist, where the item is in one. -/
  playlistOrder : Option Nat
deriving DecidableEq, Repr

namespace MediaItem

/-- The part of a mimetype before its first slash. -/
def majorType (mimetype : String) : String :=
  String.ofList (mimetype.toList.takeWhile (· ≠ '/'))

/-- The class of an item by the major part of its mimetype. -/
def defaultClass (mimetype : String) : String :=
  let major := majorType mimetype
  if major = "audio" then UpnpClass.musicTrack
  else if major = "video" then UpnpClass.videoItem
  else if major = "image" then UpnpClass.imageItem
  else UpnpClass.item

/-- The item for a file or address, titled by the last segment of its location. -/
def ofLocation (location mimetype : String) : MediaItem where
  id := none
  refersTo := none
  form := .item
  location := location
  title := String.ofList (FilePath.lastSegment location.toList)
  mimetype := mimetype
  upnpClass := defaultClass mimetype
  metadata := Metadata.empty
  auxiliary := Keyed.empty
  resources := []
  sortKey := ""
  protocol := none
  playlistOrder := none

/-- The medium by the mimetype; `application/ogg` is audio. -/
def medium (x : MediaItem) : Medium :=
  let major := majorType x.mimetype
  if major = "audio" then .audio
  else if major = "video" then .video
  else if major = "image" then .image
  else if x.mimetype = "application/ogg" then .audio
  else .other

/-- The title in the metadata, else the item's own. -/
def knownTitle (x : MediaItem) : String :=
  (x.metadata.filled? MetaKey.title).getD x.title

/-- A fact under `key` that is not empty. -/
def auxiliary? (x : MediaItem) (key : String) : Option String :=
  (x.auxiliary.find? key).filter (· ≠ "")

/-- The item as it is placed: it stands for the canonical item, once that has an id. -/
def reference (x : MediaItem) : MediaItem :=
  { x with refersTo := x.refersTo.or x.id }

/-- The item as it is placed, under another title. -/
def titled (x : MediaItem) (title : String) : MediaItem :=
  { x.reference with title := title }

end MediaItem

end MediaShelves
