import MediaShelves.Shelves
import MediaShelves.Text.Blank
import MediaShelves.Xml.Event

/-!
# Sidecars

A sidecar is a document beside a media file, which tells about it: a film, a show or an episode.
Only the elements right below the root count, and the names of actors.
-/

namespace MediaShelves

open MediaShelves.Xml

/-! ## Sidecars -/

/-- What a sidecar is about. -/
inductive SidecarSubject where
  | movie
  | show
  | episode
deriving DecidableEq, Repr

/-- What a sidecar tells. -/
structure Sidecar where
  subject : SidecarSubject
  title : Option String
  metadata : Metadata
deriving DecidableEq, Repr

/-- Why a document is no sidecar. -/
inductive SidecarError where
  /-- The document has a fault. -/
  | unsound
  | unexpectedRoot (name : String)
  | noRoot
deriving DecidableEq, Repr

/-- The text of an error, as far as it does not depend on the fault of the document. -/
def SidecarError.message? : SidecarError → Option String
  | .unsound => none
  | .unexpectedRoot name =>
    some ("Invalid NFO document: unexpected root element <" ++ name ++ ">")
  | .noRoot => some "Invalid NFO document: document has no root element"

/-- The subject that the name of the root means. -/
def SidecarSubject.ofRoot? (name : String) : Option SidecarSubject :=
  if name = "movie" then some .movie
  else if name = "tvshow" then some .show
  else if name = "episodedetails" then some .episode
  else none

/-! ## Fields -/

/-- The fields that are elements right below the root, with what they tell. -/
def sidecarFields : List (String × String) :=
  [("title", MetaKey.title), ("plot", MetaKey.description), ("mpaa", MetaKey.rating),
    ("director", MetaKey.director), ("genre", MetaKey.genre), ("country", MetaKey.region),
    ("premiered", MetaKey.date), ("aired", MetaKey.date), ("studio", MetaKey.publisher),
    ("season", MetaKey.season), ("episode", MetaKey.episode), ("showtitle", MetaKey.seriesTitle)]

/-- The metadata with one more text for a field; genres and actors add up. -/
def recordField (key value : String) (m : Metadata) : Metadata :=
  if key = MetaKey.genre ∨ key = MetaKey.actor then m.add key value else m.set key value

/-! ## Reading -/

namespace Sidecar

/-- What has been read so far. -/
structure State where
  /-- The subject, once the root has been opened. -/
  subject : Option SidecarSubject
  inActor : Bool
  /-- How many elements are open. -/
  depth : Nat
  /-- What the text at hand is. -/
  field : Option String
  title : Option String
  metadata : Metadata

/-- Nothing has been read. -/
def State.start : State :=
  ⟨none, false, 0, none, none, Metadata.empty⟩

/-- After a start tag with a name in lower case; the first one is the root. -/
def State.opened (st : State) (name : String) : Except SidecarError State :=
  let depth := st.depth + 1
  if st.subject.isNone then
    match SidecarSubject.ofRoot? name with
    | some subject => .ok { st with subject := some subject, depth }
    | none => .error (.unexpectedRoot name)
  else if st.inActor then
    .ok { st with depth, field := if depth = 3 ∧ name = "name" then some MetaKey.actor else none }
  else if depth = 2 then
    if name = "actor" then .ok { st with depth, inActor := true }
    else .ok { st with depth, field := sidecarFields.lookup name }
  else .ok { st with depth, field := none }

/-- After an end tag. -/
def State.closed (st : State) : State :=
  let depth := st.depth - 1
  { st with depth, field := none, inActor := st.inActor && depth != 1 }

/-- After a text; one that is blank tells nothing. -/
def State.withText (st : State) (content : List Char) : State :=
  match st.field, Text.trim (textMeaning content) with
  | none, _ => st
  | some _, [] => st
  | some key, value =>
    let value := String.ofList value
    { st with
      title := if key = MetaKey.title then some value else st.title
      metadata := recordField key value st.metadata }

/-- After an event; tags that open and close an element at once tell nothing. -/
def State.step (st : State) : Event → Except SidecarError State
  | .opened name _ => st.opened (String.ofList (FilePath.asciiLower name))
  | .empty _ _ => .ok st
  | .closed _ => .ok st.closed
  | .text content => .ok (st.withText content)

/-- What a document tells; an unexpected root is found before a fault behind it. -/
def ofDocument (d : Document) : Except SidecarError Sidecar := do
  let st ← d.events.foldlM State.step State.start
  if !d.sound then throw .unsound
  match st.subject with
  | some subject => return ⟨subject, st.title, st.metadata⟩
  | none => throw .noRoot

/-- What a text tells. -/
def ofText (text : String) : Except SidecarError Sidecar :=
  ofDocument (Document.ofText text)

/-! ## Use -/

/-- The item with what a sidecar tells about it. -/
def apply (c : Sidecar) (x : MediaItem) : MediaItem :=
  { x with
    metadata := x.metadata.overlay c.metadata
    title := c.title.getD x.title
    upnpClass := if c.subject = .movie then UpnpClass.movie else x.upnpClass }

/-- Revises an item by a sidecar with some contents; one that cannot be read changes nothing. -/
def revise {σ : Type} [Shelves σ] (content : String) (x : MediaItem) (s : σ) : List NodeId × σ :=
  match ofText content with
  | .ok c =>
    let (id, s) := Shelves.revise (c.apply x) s
    (id.toList, s)
  | .error _ => ([], s)

end Sidecar

end MediaShelves
