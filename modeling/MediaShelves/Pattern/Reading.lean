import MediaShelves.Pattern.Bracket
import MediaShelves.Pattern.Form

/-!
# Reading patterns

From the text of a pattern to its form.  A text that is no pattern gives none.
-/

namespace MediaShelves.Pattern

open MediaShelves.Text

/-! ## Groups and repetitions -/

/-- A form, and how deep its parts lie within each other. -/
structure Part where
  form : Form
  depth : Nat
deriving Repr, DecidableEq

/-- How deep the parts of something are that has these parts; several of them are a level. -/
def joinedDepth (depths : List Nat) : Nat :=
  let deepest := depths.foldl max 0
  if 1 < depths.length then deepest + 1 else deepest

/-- The part of a pattern between two parentheses, or the whole of it. -/
structure Level where
  /-- The number of a group that is captured. -/
  index : Option Nat
  /-- The flags around the group. -/
  outerFlags : Flags
  /-- The finished alternatives, last first. -/
  branches : List Part
  /-- The items of the alternative at hand, last first; none for a change of flags. -/
  items : List (Option Part)

/-- The alternative at hand. -/
def Level.branch (l : Level) : Part :=
  let depths := l.items.map fun item => (item.map Part.depth).getD 0
  ⟨Form.ofList ((l.items.reverse.filterMap id).map Part.form), joinedDepth depths⟩

/-- What stands between the parentheses. -/
def Level.body (l : Level) : Part :=
  let branches := (l.branch :: l.branches).reverse
  ⟨Form.oneOf (branches.map Part.form), joinedDepth (branches.map Part.depth)⟩

/-- A level that is closed; a group is a level of its own. -/
def Level.close (l : Level) : Part :=
  let body := l.body
  match l.index with
  | some index => ⟨.group index body.form, body.depth + 1⟩
  | none => ⟨body.form, body.depth + 1⟩

/-- What has been read of a pattern. -/
structure Progress where
  flags : Flags
  level : Level
  /-- The levels around the one at hand, innermost first. -/
  outer : List Level
  /-- How many groups there are. -/
  groups : Nat
  names : List (String × Nat)

/-- Adds an item to the alternative at hand. -/
def Progress.push (p : Progress) (part : Part) : Progress :=
  { p with level := { p.level with items := some part :: p.level.items } }

/-- Adds a form that nothing lies within. -/
def Progress.pushForm (p : Progress) (form : Form) : Progress :=
  p.push ⟨form, 0⟩

/-- Opens a group. -/
def Progress.enter (p : Progress) (index : Option Nat) (inner : Flags) : Progress :=
  { p with
    flags := inner
    level := ⟨index, p.flags, [], []⟩
    outer := p.level :: p.outer }

/-- Repeats the last item; there has to be one. -/
def Progress.repeat? (p : Progress) (least : Nat) (most : Option Nat) (greedy : Bool) :
    Option Progress :=
  match p.level.items with
  | some body :: items =>
    let form := body.form.times least most (greedy != p.flags.swapGreed)
    some { p with level := { p.level with items := some ⟨form, body.depth + 1⟩ :: items } }
  | _ => none

/-- Whether a character may stand in the name of a group. -/
def isNamePart (first : Bool) (c : Char) : Bool :=
  let isLetter := Property.alphabetic.contains c.toNat
  let isNumber := GeneralCategory.number.contains c.toNat
  c == '_' || isLetter || (!first && (isNumber || c == '.' || c == '[' || c == ']'))

/-- Opens a group with a name; names differ from each other. -/
def Progress.enterNamed? (p : Progress) (s : List Char) : Option (Progress × List Char) :=
  match s.takeWhile (· != '>'), s.dropWhile (· != '>') with
  | c :: name, _ :: rest =>
    let text := String.ofList (c :: name)
    if isNamePart true c && name.all (isNamePart false) && (p.names.lookup text).isNone then
      let index := p.groups + 1
      let p := { p with groups := index, names := (text, index) :: p.names }
      some (p.enter (some index) p.flags, rest)
    else none
  | _, _ => none

/-- Reads what follows an opening parenthesis. -/
def Progress.openGroup? (p : Progress) (s : List Char) : Option (Progress × List Char) :=
  match p.flags.skip s with
  | '?' :: 'P' :: '<' :: rest => p.enterNamed? rest
  | '?' :: '<' :: rest => p.enterNamed? rest
  | '?' :: rest =>
    match readFlags p.flags [] true rest with
    | some (flags, ')', true, rest) =>
      let level := { p.level with items := none :: p.level.items }
      some ({ p with flags := flags, level := level }, rest)
    | some (flags, ':', _, rest) => some (p.enter none flags, rest)
    | _ => none
  | rest =>
    let index := p.groups + 1
    some ({ p with groups := index }.enter (some index) p.flags, rest)

/-- Closes the group at hand. -/
def Progress.closeGroup? (p : Progress) : Option Progress :=
  match p.outer with
  | outer :: rest =>
    some ({ p with flags := p.level.outerFlags, level := outer, outer := rest }.push p.level.close)
  | [] => none

/-- Whether a repetition prefers fewer: a question mark follows. -/
def readLazy : List Char → Bool × List Char
  | '?' :: rest => (true, rest)
  | s => (false, s)

/-- Reads the bounds of a counted repetition after its opening brace. -/
def readBounds (f : Flags) (s : List Char) : Option (Nat × Option Nat × List Char) :=
  match readCount f (f.skip s) with
  | some (least, '}' :: rest) => some (least, some least, rest)
  | some (least, ',' :: rest) =>
    match f.skip rest with
    | '}' :: rest => some (least, none, rest)
    | rest =>
      match readCount f rest with
      | some (most, '}' :: rest) => if least ≤ most then some (least, some most, rest) else none
      | _ => none
  | _ => none

/-- The form of a dot. -/
def Flags.dot? (f : Flags) : Option Form :=
  if !f.allScripts then none
  else if f.dotMatchesNewline then some (.ofSet .all)
  else if f.crlf then some (.ofSet ((CodeSet.single '\n').union (.single '\r')).compl)
  else some (.ofSet (CodeSet.single '\n').compl)

/-- The anchor of a circumflex. -/
def Flags.startAnchor (f : Flags) : Anchor :=
  if !f.multiLine then .textStart else if f.crlf then .lineStartCrlf else .lineStart

/-- The anchor of a dollar sign. -/
def Flags.endAnchor (f : Flags) : Anchor :=
  if !f.multiLine then .textEnd else if f.crlf then .lineEndCrlf else .lineEnd

/-- The form of an escape outside brackets. -/
def Flags.escapeForm (f : Flags) : Escape → Form
  | .literal c => .ofSet (f.literal c)
  | .set s => .ofSet s
  | .anchor a => .anchor a

/-- Reads pattern text to its end; every round takes at least one character. -/
def Progress.read (p : Progress) : (budget : Nat) → List Char → Option Progress
  | 0, _ => none
  | budget + 1, s =>
    let f := p.flags
    let next (found : Option (Progress × List Char)) : Option Progress :=
      match found with
      | some (p, rest) => p.read budget rest
      | none => none
    let repetition (least : Nat) (most : Option Nat) (rest : List Char) :=
      let (lazy, rest) := readLazy rest
      next ((p.repeat? least most !lazy).map (·, rest))
    match f.skip s with
    -- At the end every group must be closed.
    | [] => if p.outer.isEmpty then some p else none
    | '(' :: rest => next (p.openGroup? rest)
    | ')' :: rest => next (p.closeGroup?.map (·, rest))
    | '|' :: rest =>
      let l := p.level
      next (some ({ p with level := { l with branches := l.branch :: l.branches, items := [] } },
        rest))
    | '[' :: rest =>
      next ((readBracketed f rest).map fun (s, rest) => (p.push ⟨.ofSet s.set, s.depth⟩, rest))
    | '?' :: rest => repetition 0 (some 1) rest
    | '*' :: rest => repetition 0 none rest
    | '+' :: rest => repetition 1 none rest
    -- A brace always begins the bounds of a repetition.
    | '{' :: rest =>
      match readBounds f rest with
      | some (least, most, rest) => repetition least most (f.skip rest)
      | none => none
    | '\\' :: rest =>
      next ((readEscape f rest).map fun (e, rest) => (p.pushForm (f.escapeForm e), rest))
    | '.' :: rest => next (f.dot?.map fun form => (p.pushForm form, rest))
    | '^' :: rest => next (some (p.pushForm (.anchor f.startAnchor), rest))
    | '$' :: rest => next (some (p.pushForm (.anchor f.endAnchor), rest))
    | c :: rest => next (some (p.pushForm (.ofSet (f.literal c)), rest))

/-- How deep parts may lie within each other. -/
def maxDepth : Nat := 250

/-- The form of a pattern text, with the names and numbers of its named groups. -/
def Form.ofText? (s : List Char) : Option (Form × List (String × Nat)) :=
  let start : Progress := ⟨Flags.initial, ⟨none, Flags.initial, [], []⟩, [], 0, []⟩
  match start.read (s.length + 1) s with
  | some p =>
    let body := p.level.body
    if body.depth ≤ maxDepth then some (body.form, p.names) else none
  | none => none

end MediaShelves.Pattern
