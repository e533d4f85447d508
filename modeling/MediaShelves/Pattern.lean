import MediaShelves.Pattern.Reading
import MediaShelves.Pattern.Template
import MediaShelves.Pattern.Weight

/-!
# Name patterns

Regular expressions over names, in which case never matters.
-/

namespace MediaShelves

open MediaShelves.Pattern in
/-- A pattern that has been read, ready for matching. -/
structure Pattern where
  source : String
  form : Form
  names : List (String × Nat)
  program : Array Instruction

namespace Pattern

/-- The most memory that a machine may take, in bytes. -/
def maxWeight : Nat := 10485760

open MediaShelves.Pattern in
/--
Whether both machines of a form are small enough, with what each of them has besides the form.
-/
def isLightEnough (form : Form) : Bool :=
  form.weight .forward false + 208 ≤ maxWeight && form.weight .backward false + 144 ≤ maxWeight

/-- The pattern of a text, unless the text is no pattern or the pattern is too large. -/
def ofText? (source : String) : Option Pattern :=
  match Form.ofText? source.toList with
  | some (form, names) =>
    if isLightEnough form then some ⟨source, form, names, form.program⟩ else none
  | none => none

/-- The leftmost match in a text. -/
def match? (p : Pattern) (value : String) : Option Match :=
  let text := value.toList.toArray
  (search p.program text).map fun notes => ⟨text, notes⟩

/-- Whether the pattern matches anywhere in a text. -/
def occursIn (p : Pattern) (value : String) : Bool :=
  (p.match? value).isSome

/-- The text with its leftmost match replaced by a template. -/
def replace? (p : Pattern) (template value : String) : Option String :=
  (p.match? value).map fun m =>
    let middle := (Piece.ofTemplate 0 template.toList).flatMap (Piece.expand p.names m)
    String.ofList (m.before ++ middle ++ m.after)

end Pattern

end MediaShelves
