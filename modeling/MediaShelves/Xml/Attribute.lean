import MediaShelves.FilePath
import MediaShelves.Xml.Entity

/-!
# Attributes

The attributes of a tag.  What is not a name, an equals sign and a quoted value is skipped, and so
is an attribute whose name occurred before.
-/

namespace MediaShelves.Xml

/-- White space between the parts of a document. -/
def isSpace (c : Char) : Bool :=
  c == ' ' || c == '\t' || c == '\n' || c == '\r'

/-- A name with its value, as they are written. -/
structure Attribute where
  name : List Char
  value : List Char
deriving DecidableEq, Repr

/-- Whether a character may go on in the name of an attribute. -/
def isNamePart (c : Char) : Bool :=
  c != '=' && !isSpace c

/-- The rest of a text from its first white space on. -/
def skipWord (s : List Char) : List Char :=
  s.dropWhile fun c => !isSpace c

/-- Dropping from the front leaves no more than there was. -/
theorem length_dropWhile_le (p : Char → Bool) (s : List Char) :
    (s.dropWhile p).length ≤ s.length :=
  (List.dropWhile_suffix p).length_le

/-- The attributes in the text after the name of a tag; `seen` holds the names that occurred. -/
def readAttributes (seen : List (List Char)) (s : List Char) : List Attribute :=
  match s with
  | [] => []
  | c :: rest =>
    if isSpace c then readAttributes seen rest
    else
      let name := c :: rest.takeWhile isNamePart
      match _h : (rest.dropWhile isNamePart).dropWhile isSpace with
      | [] => []
      | d :: after =>
        -- A name without a value is passed over.
        if d ≠ '=' then readAttributes seen (d :: after)
        -- So is a second value of the same name, up to its first white space.
        else if seen.contains name then readAttributes seen (skipWord after)
        else
          match _h' : after.dropWhile isSpace with
          | [] => []
          | quote :: value =>
            if quote = '"' ∨ quote = '\'' then
              match _h'' : Text.cutFirst? quote value with
              | some (inner, outer) => ⟨name, inner⟩ :: readAttributes (name :: seen) outer
              | none => []
            -- A value without quotes is passed over, but its name has occurred.
            else readAttributes (name :: seen) (skipWord value)
termination_by s.length
decreasing_by
  · simp
  all_goals
    have h₁ := length_dropWhile_le isSpace (rest.dropWhile isNamePart)
    have h₂ := length_dropWhile_le isNamePart rest
    rw [_h] at h₁
    simp only [List.length_cons] at h₁ ⊢
  · omega
  · have h₃ := length_dropWhile_le (fun c => !isSpace c) after
    simp only [skipWord]
    omega
  · have h₃ := length_dropWhile_le isSpace after
    have h₄ := length_of_cutFirst? _h''
    rw [_h'] at h₃
    simp only [List.length_cons] at h₃
    omega
  · have h₃ := length_dropWhile_le isSpace after
    have h₄ := length_dropWhile_le (fun c => !isSpace c) value
    rw [_h'] at h₃
    simp only [List.length_cons] at h₃
    simp only [skipWord]
    omega

/-- The value of an attribute; where an entity in it is no entity, the value as it is written. -/
def Attribute.text (a : Attribute) : List Char :=
  (unescape? a.value).getD a.value

/-- The value of the first attribute with a name, in any case. -/
def attribute? (name : List Char) (attributes : List Attribute) : Option (List Char) :=
  (attributes.find? fun a => FilePath.asciiLower a.name == name).map Attribute.text

end MediaShelves.Xml
