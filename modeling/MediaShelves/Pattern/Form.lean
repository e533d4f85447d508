import MediaShelves.Pattern.Anchor

/-!
# Forms of name patterns

The abstract syntax of patterns.  Forms are made by functions that leave out what changes no match:
sequences have no empty parts, alternatives between characters are one set, alternatives that all
begin alike share their beginning, and a body without characters is not repeated.
-/

namespace MediaShelves.Pattern

open MediaShelves.Text

/-- The form of a pattern. -/
inductive Form where
  | empty
  | one (s : CodeSet)
  | anchor (a : Anchor)
  /-- One form after the other; the first one is no sequence. -/
  | seq (first rest : Form)
  /-- One form or the other; the preferred one has no alternatives itself. -/
  | alt (preferred rest : Form)
  /-- `body` at least `least` times and at most `most` times; greedy forms prefer more. -/
  | repeated (body : Form) (least : Nat) (most : Option Nat) (greedy : Bool)
  | group (index : Nat) (body : Form)
deriving Repr, DecidableEq

namespace Form

/-! ## Lengths of matches -/

/-- The least number of characters of a match; none if some part needs a member of an empty set. -/
def minLength? : Form → Option Nat
  | .empty => some 0
  | .one s => if s = .empty then none else some 1
  | .anchor _ => some 0
  | .seq a b => do return (← a.minLength?) + (← b.minLength?)
  | .alt a b => do return min (← a.minLength?) (← b.minLength?)
  | .repeated body least _ _ => do return least * (← body.minLength?)
  | .group _ body => body.minLength?

/-- The greatest number of characters of a match, where there is a bound. -/
def maxLength? : Form → Option Nat
  | .empty => some 0
  | .one s => if s = .empty then none else some 1
  | .anchor _ => some 0
  | .seq a b => do return (← a.maxLength?) + (← b.maxLength?)
  | .alt a b => do return max (← a.maxLength?) (← b.maxLength?)
  | .repeated body _ most _ => do return (← most) * (← body.maxLength?)
  | .group _ body => body.maxLength?

/-- Whether every match of a form has at least one character. -/
def consumes (f : Form) : Bool :=
  f.minLength?.any (0 < ·)

/-! ## Sets -/

/-- The code points that are no characters. -/
def surrogates : CodeSet :=
  .range 0xD800 0xDFFF

/-- One character of a set. -/
def ofSet (s : CodeSet) : Form :=
  .one (s.diff surrogates)

/-- The only member of a form that is one character. -/
def literal? : Form → Option Nat
  | .one s => s.single?
  | _ => none

/-- The members of a form that is one of several characters, or of none. -/
def class? : Form → Option CodeSet
  | .one s => if s.single?.isSome then none else some s
  | _ => none

/-! ## Sequences -/

/-- What a form is a sequence of. -/
def parts : Form → List Form
  | .empty => []
  | .seq a b => a :: b.parts
  | f => [f]

/-- Forms one after the other, none of which is a sequence. -/
def ofParts : List Form → Form
  | [] => .empty
  | [f] => f
  | f :: fs => .seq f (ofParts fs)

/-- One form after the other. -/
def ofList (forms : List Form) : Form :=
  ofParts (forms.flatMap parts)

/-! ## Alternatives -/

/-- What a form chooses from. -/
def branches : Form → List Form
  | .alt a b => a :: b.branches
  | f => [f]

/-- One form or another, none of which has alternatives itself. -/
def ofBranches : List Form → Form
  | [] => .one .empty
  | [f] => f
  | f :: fs => .alt f (ofBranches fs)

/-- One form or another: one set if all of them are characters, or all of them are sets. -/
def choice (forms : List Form) : Form :=
  let forms := forms.flatMap branches
  match forms with
  | [f] => f
  | _ =>
    match forms.mapM literal?, forms.mapM class? with
    | some codes, _ => .one (.ofSpans (codes.map fun n => (n, n)))
    | none, some sets => .one (.unions sets)
    | none, none => ofBranches forms

/-- The parts of a sequence, where characters that follow each other count as one part. -/
def phrases (parts : List Form) : List (List Form) :=
  parts.foldr
    (fun f phrases =>
      match f.literal?, phrases with
      | some _, (g :: gs) :: rest =>
        if g.literal?.isSome then (f :: g :: gs) :: rest else [f] :: phrases
      | _, _ => [f] :: phrases)
    []

/-- What two lists begin with alike. -/
def commonFront : List (List Form) → List (List Form) → List (List Form)
  | a :: as, b :: bs => if a = b then a :: commonFront as bs else []
  | _, _ => []

/-- What sequences begin with alike; nothing where one of the forms is no sequence. -/
def sharedFront (forms : List Form) : List (List Form) :=
  let phrased := forms.map fun f => phrases f.parts
  match phrased with
  | first :: rest =>
    if phrased.all (1 < ·.length) then rest.foldl commonFront first else []
  | [] => []

/-- One form or another, the first ones preferred. -/
def oneOf : List Form → Form
  | [f] => f
  | forms =>
    match choice forms with
    | .alt a b =>
      let forms := a :: b.branches
      let front := sharedFront forms
      let rests := forms.map fun f => ofParts ((phrases f.parts).drop front.length).flatten
      if front.isEmpty then .alt a b else ofList (front.flatten ++ [choice rests])
    | f => f

/-! ## Repetitions -/

/-- A form several times; a body without characters is there once at most. -/
def times (body : Form) (least : Nat) (most : Option Nat) (greedy : Bool) : Form :=
  let bounds :=
    if body.maxLength? = some 0 then (min least 1, some (min (most.getD 1) 1)) else (least, most)
  if bounds = (0, some 0) then .empty
  else if bounds = (1, some 1) then body
  else .repeated body bounds.1 bounds.2 greedy

end Form

end MediaShelves.Pattern
