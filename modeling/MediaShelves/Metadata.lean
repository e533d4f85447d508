import MediaShelves.Keyed

/-!
# Metadata

What is known about an item or a folder: values under keys, several values to a key.
-/

namespace MediaShelves

/-! ## Well-known keys -/

namespace MetaKey

def title := "dc:title"
def artist := "upnp:artist"
def album := "upnp:album"
def albumArtist := "upnp:albumArtist"
def date := "dc:date"
def upnpDate := "upnp:date"
def genre := "upnp:genre"
def description := "dc:description"
def composer := "upnp:composer"
def trackNumber := "upnp:originalTrackNumber"
def season := "upnp:episodeSeason"
def director := "upnp:director"
def actor := "upnp:actor"
def region := "upnp:region"
def rating := "upnp:rating"
def publisher := "dc:publisher"
def episode := "upnp:episodeNumber"
def seriesTitle := "upnp:seriesTitle"

end MetaKey

/-! ## Metadata -/

/-- Values under keys, several to a key. -/
@[ext]
structure Metadata where
  table : Keyed (List String)
deriving DecidableEq, Repr

namespace Metadata

/-- No metadata. -/
def empty : Metadata :=
  ⟨Keyed.empty⟩

instance : Inhabited Metadata :=
  ⟨empty⟩

/-- All values under `key`. -/
def all (m : Metadata) (key : String) : List String :=
  (m.table.find? key).getD []

/-- The first value under `key`. -/
def first? (m : Metadata) (key : String) : Option String :=
  (m.all key).head?

/-- The first value under `key`, where that value is not empty. -/
def filled? (m : Metadata) (key : String) : Option String :=
  (m.first? key).filter (· ≠ "")

/-- Whether `key` has values. -/
def contains (m : Metadata) (key : String) : Bool :=
  m.table.contains key

/-- Whether there is no key at all. -/
def isEmpty (m : Metadata) : Bool :=
  m.table.isEmpty

/-- The number of keys. -/
def size (m : Metadata) : Nat :=
  m.table.size

/-- Gives `key` one value in the stead of all it had. -/
def set (m : Metadata) (key value : String) : Metadata :=
  ⟨m.table.insert key [value]⟩

/-- Gives `key` one more value, the last. -/
def add (m : Metadata) (key value : String) : Metadata :=
  ⟨m.table.insert key (m.all key ++ [value])⟩

/-- Removes a key with its values. -/
def erase (m : Metadata) (key : String) : Metadata :=
  ⟨m.table.erase key⟩

/-- The keys of `other` take over its values; all other keys keep theirs. -/
def overlay (m other : Metadata) : Metadata :=
  ⟨m.table.overlay other.table⟩

end Metadata

end MediaShelves
