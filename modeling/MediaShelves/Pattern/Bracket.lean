import MediaShelves.Pattern.Escape

/-!
# Bracketed classes

Sets in brackets: members, ranges, named classes, classes within classes, and operators between
them.  How deep parts lie within each other is counted along with the set.
-/

namespace MediaShelves.Pattern

open MediaShelves.Text

/-! ## Operators -/

/-- The operators between the parts of a bracketed class. -/
inductive SetOperator where
  | intersection
  | difference
  | symmetricDifference
deriving Repr, DecidableEq

/-- Applies an operator to two sets. -/
def SetOperator.apply : SetOperator → CodeSet → CodeSet → CodeSet
  | .intersection, a, b => a.inter b
  | .difference, a, b => a.diff b
  | .symmetricDifference, a, b => a.symmDiff b

/-- A set, and how deep its parts lie within each other. -/
structure NestedSet where
  set : CodeSet
  depth : Nat
deriving Repr, DecidableEq

/-! ## Classes that are being read -/

/-- A bracketed class that is being read. -/
structure Bracket where
  negated : Bool
  /-- An operator that waits for its right-hand side. -/
  pending : Option (SetOperator × NestedSet)
  gathered : CodeSet
  /-- How many members have been gathered. -/
  count : Nat
  /-- How deep the deepest of them is. -/
  deepest : Nat
deriving Repr, DecidableEq

namespace Bracket

/-- A class without members. -/
def opened (negated : Bool) : Bracket :=
  ⟨negated, none, .empty, 0, 0⟩

/-- Adds a member to a class. -/
def add (b : Bracket) (s : NestedSet) : Bracket :=
  { b with
    gathered := b.gathered.union s.set
    count := b.count + 1
    deepest := max b.deepest s.depth }

/-- Adds a member that nothing lies within. -/
def addSet (b : Bracket) (s : CodeSet) : Bracket :=
  b.add ⟨s, 0⟩

/-- What has been gathered; several members are a level of their own. -/
def members (b : Bracket) : NestedSet :=
  ⟨b.gathered, if 1 < b.count then b.deepest + 1 else b.deepest⟩

/-- The set of what has been read so far, the waiting operator applied. -/
def operand (f : Flags) (b : Bracket) : NestedSet :=
  let right := b.members
  match b.pending with
  | some (op, left) =>
    ⟨op.apply (f.fold left.set) (f.fold right.set), max left.depth right.depth + 1⟩
  | none => right

/-- Goes on to the right-hand side of an operator; all operators bind alike and from the left. -/
def combine (f : Flags) (b : Bracket) (op : SetOperator) : Bracket :=
  { opened b.negated with pending := some (op, b.operand f) }

/-- The set of a class that is closed; without all scripts a negated class is not allowed. -/
def close? (f : Flags) (b : Bracket) : Option NestedSet :=
  let s := b.operand f
  let closed := f.fold s.set
  if !b.negated then some ⟨closed, s.depth + 1⟩
  else if f.allScripts then some ⟨closed.compl, s.depth + 1⟩
  else none

end Bracket

/-! ## Members -/

/-- Reads minus signs at the front of a class, each of them itself. -/
def readLeadingMinus (f : Flags) (b : Bracket) (s : List Char) : Bracket × List Char :=
  match f.span (· == '-') s with
  | (minuses, rest) => (minuses.foldl (fun b c => b.addSet (.single c)) b, rest)

/-- Reads the front of a class after its bracket: its negation, and what is literal only here. -/
def openBracket? (f : Flags) (s : List Char) : Option (Bracket × List Char) :=
  let s := f.skip s
  let (negated, s) := match s with
    | '^' :: rest => (true, f.skip rest)
    | _ => (false, s)
  let (b, s) := match s with
    | ']' :: rest => ((Bracket.opened negated).addSet (.single ']'), f.skip rest)
    | _ => readLeadingMinus f (.opened negated) s
  if s.isEmpty then none else some (b, s)

/--
Reads an ASCII class after its opening bracket, where one stands there, and whether it is negated.
-/
def readAsciiClass? (s : List Char) : Option (CodeSet × Bool × List Char) :=
  match s with
  | ':' :: rest =>
    let (negated, rest) := match rest with
      | '^' :: rest => (true, rest)
      | _ => (false, rest)
    match rest.dropWhile (· != ':') with
    | ':' :: ']' :: after =>
      (asciiClass? (String.ofList (rest.takeWhile (· != ':')))).map (·, negated, after)
    | _ => none
  | _ => none

/-- Adds an ASCII class to a class; without all scripts it must not be negated. -/
def Bracket.addAsciiClass? (f : Flags) (b : Bracket) (s : CodeSet) (negated : Bool) :
    Option Bracket :=
  if !negated then some (b.addSet (f.fold s))
  else if f.allScripts then some (b.addSet (f.fold s).compl)
  else none

/-- Reads one member of a class; without all scripts it has to be ASCII. -/
def readMember (f : Flags) (s : List Char) : Option (Escape × List Char) :=
  let found := match s with
    | [] => none
    | '\\' :: rest => readEscape f rest
    | c :: rest => some (.literal c, rest)
  match found with
  | some (.literal c, _) => if f.allScripts || decide (c.toNat < 0x80) then found else none
  | _ => found

/-- The set of a member that stands alone; an anchor is none. -/
def Escape.set? : Escape → Option CodeSet
  | .literal c => some (.single c)
  | .set s => some s
  | .anchor _ => none

/-- The character that a minus sign looks at past blanks; of a comment it sees the beginning. -/
def Flags.peek? (f : Flags) (s : List Char) : Option Char :=
  if f.verbose then
    match trimFront s with
    | '#' :: rest => (trimFront rest).head?
    | s => s.head?
  else s.head?

/-- Reads a minus sign of a range: it neither ends the class nor begins a difference. -/
def readRangeMinus? (f : Flags) (s : List Char) : Option (List Char) :=
  match s with
  | '-' :: rest =>
    if f.peek? rest == some ']' || f.peek? rest == some '-' then none else some (f.skip rest)
  | _ => none

/-- Reads one member of a class or a range between two. -/
def readRange (f : Flags) (s : List Char) : Option (CodeSet × List Char) :=
  match readMember f s with
  | none => none
  | some (first, rest) =>
    let rest := f.skip rest
    match readRangeMinus? f rest with
    | none => first.set?.map (·, rest)
    | some rest =>
      match first, readMember f rest with
      | .literal a, some (.literal b, rest) =>
        if a ≤ b then some (.range a.toNat b.toNat, rest) else none
      | _, _ => none

/-! ## Whole classes -/

/-- Reads a class to its closing bracket; `outer` are the classes around the one at hand. -/
def readClass (f : Flags) :
    (budget : Nat) → (outer : List Bracket) → Bracket → List Char → Option (NestedSet × List Char)
  | 0, _, _, _ => none
  | budget + 1, outer, b, s =>
    match f.skip s with
    | [] => none
    -- A bracket opens an ASCII class if one stands there, else a class within the class.
    | '[' :: rest =>
      match readAsciiClass? rest with
      | some (s, negated, rest) =>
        match b.addAsciiClass? f s negated with
        | some b => readClass f budget outer b rest
        | none => none
      | none =>
        match openBracket? f rest with
        | some (inner, rest) => readClass f budget (b :: outer) inner rest
        | none => none
    -- A class that is closed is a member of the class around it.
    | ']' :: rest =>
      match b.close? f, outer with
      | some s, [] => some (s, rest)
      | some s, b :: outer => readClass f budget outer (b.add s) rest
      | none, _ => none
    | '&' :: '&' :: rest => readClass f budget outer (b.combine f .intersection) rest
    | '-' :: '-' :: rest => readClass f budget outer (b.combine f .difference) rest
    | '~' :: '~' :: rest => readClass f budget outer (b.combine f .symmetricDifference) rest
    | s =>
      match readRange f s with
      | some (set, rest) => readClass f budget outer (b.addSet set) rest
      | none => none

/-- Reads a whole class after its opening bracket. -/
def readBracketed (f : Flags) (s : List Char) : Option (NestedSet × List Char) :=
  match openBracket? f s with
  | some (b, rest) => readClass f (rest.length + 1) [] b rest
  | none => none

end MediaShelves.Pattern
