import MediaShelves.Xml.Attribute

/-!
# Events

A document as the series of its tags and texts.  End tags must match their start tags, but start
tags may stay open to the end.  A document with a fault has the events before the fault.
-/

namespace MediaShelves.Xml

/-! ## Documents -/

/-- A tag or a text. -/
inductive Event where
  | opened (name : List Char) (attributes : List Attribute)
  /-- A tag that opens and closes an element at once. -/
  | empty (name : List Char) (attributes : List Attribute)
  | closed (name : List Char)
  /-- A text between tags as it is written, without white space around it. -/
  | text (content : List Char)
deriving DecidableEq, Repr

/-- The events of a document, up to its end or its first fault. -/
structure Document where
  events : List Event
  sound : Bool
deriving DecidableEq, Repr

namespace Document

/-- The document without contents. -/
def ended : Document :=
  ⟨[], true⟩

/-- A fault right at the beginning. -/
def faulty : Document :=
  ⟨[], false⟩

/-- One more event at the beginning. -/
def after (e : Event) (d : Document) : Document :=
  { d with events := e :: d.events }

end Document

/-! ## Ends of markup -/

/-- Where a tag ends: at the first closing bracket that is not between quotes. -/
def tagEnd? : (quote : Option Char) → List Char → Option Nat
  | _, [] => none
  | some quote, c :: rest =>
    (tagEnd? (if c = quote then none else some quote) rest).map (· + 1)
  | none, c :: rest =>
    if c = '>' then some 0
    else (tagEnd? (if c = '"' ∨ c = '\'' then some c else none) rest).map (· + 1)

/-- The first closing bracket at which the text before it passes a test; `passed` is reversed. -/
def endWhere? (test : (passed : List Char) → Bool) (passed : List Char) : List Char → Option Nat
  | [] => none
  | c :: rest =>
    if c = '>' && test passed then some passed.length
    else endWhere? test (c :: passed) rest

/-- Where a processing instruction ends. -/
def instructionEnd? (s : List Char) : Option Nat :=
  (endWhere? (fun passed => passed.head? == some '?') [] s).filter (1 < ·)

/-- Where a comment ends; its two pairs of dashes do not overlap. -/
def commentEnd? (s : List Char) : Option Nat :=
  if ['!', '-', '-'].isPrefixOf s then
    endWhere? (fun passed => 4 < passed.length && passed.take 2 == ['-', '-']) [] s
  else none

/-- Where a section of literal text ends. -/
def literalEnd? (s : List Char) : Option Nat :=
  if "![CDATA[".toList.isPrefixOf s then
    endWhere? (fun passed => passed.take 2 == [']', ']']) [] s
  else none

/-- Where a document type declaration ends; brackets within it come in pairs. -/
def doctypeEnd? (s : List Char) : Option Nat :=
  if FilePath.asciiLower (s.take 8) = "!doctype".toList then
    (endWhere? (fun passed => passed.count '<' == passed.count '>') [] s).filter fun n =>
      ((s.take n).drop 8).any fun c => !isSpace c
  else none

/-- Where markup ends that is neither a start tag nor an end tag. -/
def skippedEnd? (s : List Char) : Option Nat :=
  match s with
  | '?' :: _ => instructionEnd? s
  | _ :: '-' :: _ => commentEnd? s
  | _ :: '[' :: _ => literalEnd? s
  | _ => doctypeEnd? s

/-! ## Reading -/

/-- A text without white space at its end. -/
def trimEnd (s : List Char) : List Char :=
  (s.reverse.dropWhile isSpace).reverse

/-- The name in an end tag: without white space at its end, unless it is white space altogether. -/
def closedName (content : List Char) : List Char :=
  match trimEnd content with
  | [] => content
  | name => name

/-- The name that begins a tag, and its attributes. -/
def readTag (content : List Char) : List Char × List Attribute :=
  let name := content.takeWhile fun c => !isSpace c
  (name, readAttributes [] (content.drop name.length))

/-- The content of a tag that ends in a slash, without the slash. -/
def selfClosing? (content : List Char) : Option (List Char) :=
  match content.reverse with
  | '/' :: rest => some rest.reverse
  | _ => none

/-- The events of a text, while the elements in `stack` are open. -/
def readEvents (stack : List (List Char)) (s : List Char) : Document :=
  match s with
  | [] => .ended
  | c :: rest =>
    -- White space before a text or a tag counts for nothing.
    if isSpace c then readEvents stack rest
    -- A text runs to the next tag.
    else if c ≠ '<' then
      .after (.text (trimEnd (c :: rest.takeWhile (· != '<'))))
        (readEvents stack (rest.dropWhile (· != '<')))
    else
      match rest.head? with
      | none => .faulty
      | some d =>
        -- Comments, instructions, literal text and declarations leave no event.
        if d = '!' ∨ d = '?' then
          match skippedEnd? rest with
          | some n => readEvents stack (rest.drop (n + 1))
          | none => .faulty
        else
          match tagEnd? none rest with
          | none => .faulty
          | some n =>
            let content := rest.take n
            -- An end tag closes the innermost open element and has its name.
            if d = '/' then
              let name := closedName (content.drop 1)
              match stack with
              | [] => .faulty
              | top :: stack =>
                if name = top then .after (.closed name) (readEvents stack (rest.drop (n + 1)))
                else .faulty
            else
              match selfClosing? content with
              | some content =>
                let (name, attributes) := readTag content
                .after (.empty name attributes) (readEvents stack (rest.drop (n + 1)))
              | none =>
                let (name, attributes) := readTag content
                .after (.opened name attributes)
                  (readEvents (name :: stack) (rest.drop (n + 1)))
termination_by s.length
decreasing_by
  all_goals simp only [List.length_cons, List.length_drop]
  · omega
  · have := length_dropWhile_le (· != '<') rest
    omega
  all_goals omega

/-- The events of a document, after a byte order mark if there is one. -/
def Document.ofText (text : String) : Document :=
  match text.toList with
  | c :: rest => if c.toNat = 0xFEFF then readEvents [] rest else readEvents [] (c :: rest)
  | [] => .ended

/-- What a text between tags means; nothing where an entity in it is no entity. -/
def textMeaning (content : List Char) : List Char :=
  (unescape? content).getD []

end MediaShelves.Xml
