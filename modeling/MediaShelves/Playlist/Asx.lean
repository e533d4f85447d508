import MediaShelves.Playlist
import MediaShelves.Text.Decimal
import MediaShelves.Xml.Event

/-!
# ASX playlists

A document with an element for each entry.  The case of names does not matter.
-/

namespace MediaShelves.Playlist.Asx

open MediaShelves.Xml

/-! ## States -/

/-- Where in the document a reader is. -/
inductive Place where
  | outside
  | list
  | entry
deriving DecidableEq, Repr

/-- What the text at hand is. -/
inductive TextUse where
  | title
  | description
deriving DecidableEq, Repr

/-- What has been read so far. -/
structure State where
  place : Place
  use : Option TextUse
  base : Option (List Char)
  current : Entry
  /-- The entries that are complete, the last one first. -/
  found : List Entry

/-- Nothing has been read. -/
def State.start : State :=
  ⟨.outside, none, none, Entry.ofLocation "", []⟩

/-! ## Steps -/

/-- A reference below the base, unless it stands for itself. -/
def State.resolve (st : State) (reference : List Char) : List Char :=
  match st.base with
  | none => reference
  | some base =>
    if hasScheme reference || reference.head? == some '/' then reference
    else if base.getLast? = some '/' then base ++ reference
    else base ++ '/' :: reference

/-- The value of an attribute. -/
def value? (name : String) (attributes : List Attribute) : Option (List Char) :=
  attribute? name.toList attributes

/-- The entry with a parameter. -/
def setParameter (name value : List Char) (e : Entry) : Entry :=
  let text := String.ofList value
  let word := String.ofList (FilePath.asciiLower name)
  if word = "mimetype" then { e with mimetype := some text }
  else if word = "protocol" then { e with protocol := some text }
  else if word = "size" then { e with size := Text.unsigned? Text.max64 value }
  else { e with extra := e.extra.insert (String.ofList name) text }

/-- After a start tag with a name in lower case. -/
def State.opened (st : State) (name : String) (attributes : List Attribute) : State :=
  match st.place with
  | .outside => if name = "asx" then { st with place := .list } else st
  | .list =>
    if name = "entry" then { st with place := .entry, current := Entry.ofLocation "" }
    else if name = "base" then { st with base := (value? "href" attributes).or st.base }
    else st
  | .entry =>
    if name = "base" then { st with base := (value? "href" attributes).or st.base }
    else if name = "ref" then
      match value? "href" attributes with
      | some reference =>
        if st.current.location = "" then
          let location := st.resolve (Text.trim reference)
          { st with current := { st.current with location := String.ofList location } }
        else st
      | none => st
    else if name = "title" then { st with use := some .title }
    else if name = "abstract" then { st with use := some .description }
    else if name = "param" then
      match value? "name" attributes, value? "value" attributes with
      | some name, some value => { st with current := setParameter name value st.current }
      | _, _ => st
    else st

/-- After an end tag with a name in lower case. -/
def State.closed (st : State) (name : String) : State :=
  if st.place = .entry ∧ name = "entry" then
    { st with
      place := .list
      current := Entry.ofLocation ""
      found := if st.current.location = "" then st.found else st.current :: st.found }
  else if st.place = .list ∧ name = "asx" then { st with place := .outside }
  else if name = "title" ∨ name = "abstract" then { st with use := none }
  else st

/-- After a text. -/
def State.withText (st : State) (content : List Char) : State :=
  let text := String.ofList (textMeaning content)
  match st.use with
  | some .title => { st with current := { st.current with title := some text } }
  | some .description => { st with current := { st.current with description := some text } }
  | none => st

/-- A name in lower case. -/
def lowerName (name : List Char) : String :=
  String.ofList (FilePath.asciiLower name)

/-- After an event. -/
def State.step (st : State) : Event → State
  | .opened name attributes => st.opened (lowerName name) attributes
  | .empty name attributes => (st.opened (lowerName name) attributes).closed (lowerName name)
  | .closed name => st.closed (lowerName name)
  | .text content => st.withText content

/-! ## Entries -/

/-- The entries of a playlist; a document with a fault has none at all. -/
def entries? (text : String) : Option (List Entry) :=
  let d := Document.ofText text
  if d.sound then some (d.events.foldl State.step State.start).found.reverse else none

end MediaShelves.Playlist.Asx
