import MediaShelves.Pattern.Form

/-!
# Programs of patterns

A form as an array of instructions.  The instructions of a form follow each other and fall through
to whatever comes after them; `size_emit` says that they are as many as `codeLength` tells.
-/

namespace MediaShelves.Pattern

open MediaShelves.Text

/-! ## Instructions -/

/-- One step of a match. -/
inductive Instruction where
  /-- Takes one character of the set. -/
  | take (s : CodeSet)
  /-- Goes on where the anchor holds. -/
  | check (a : Anchor)
  /-- Notes the position in a slot. -/
  | note (slot : Nat)
  /-- Tries one way, then another. -/
  | fork (preferred other : Nat)
  | jump (target : Nat)
  | accept
deriving Repr, DecidableEq

/-- Instructions in the order of their places. -/
abbrev Code := Array Instruction

/-- The choice of a repetition between one more time and what follows. -/
def Instruction.choice (greedy : Bool) (again leave : Nat) : Instruction :=
  if greedy then .fork again leave else .fork leave again

namespace Form

/-- The number of instructions of a form. -/
def codeLength : Form → Nat
  | .empty => 0
  | .one _ => 1
  | .anchor _ => 1
  | .seq a b => a.codeLength + b.codeLength
  | .alt a b => a.codeLength + b.codeLength + 2
  | .repeated body least most _ =>
    match most with
    | some most => least * body.codeLength + (most - least) * (body.codeLength + 1)
    | none =>
      match least with
      | 0 => body.codeLength + 2
      | least + 1 => least * body.codeLength + body.codeLength + 1
  | .group _ body => body.codeLength + 2

/-! ## Code -/

/-- Puts copies of something behind some code. -/
def copies (emit : Code → Code) : (count : Nat) → Code → Code
  | 0, code => code
  | count + 1, code => copies emit count (emit code)

/--
Puts copies of something behind some code, each of which may be left out for the place `exit`.
-/
def optionalCopies (emit : Code → Code) (greedy : Bool) (exit : Nat) : (count : Nat) → Code → Code
  | 0, code => code
  | count + 1, code =>
    optionalCopies emit greedy exit count
      (emit (code.push (.choice greedy (code.size + 1) exit)))

/-- Puts the instructions of a form behind some code. -/
def emit : Form → Code → Code
  | .empty, code => code
  | .one s, code => code.push (.take s)
  | .anchor a, code => code.push (.check a)
  | .seq a b, code => b.emit (a.emit code)
  | .alt a b, code =>
    let other := code.size + a.codeLength + 2
    b.emit ((a.emit (code.push (.fork (code.size + 1) other))).push (.jump (other + b.codeLength)))
  | .repeated body least most greedy, code =>
    match most with
    | some most =>
      let exit := code.size + least * body.codeLength + (most - least) * (body.codeLength + 1)
      optionalCopies body.emit greedy exit (most - least) (copies body.emit least code)
    | none =>
      match least with
      | 0 =>
        let again := code.size + 1
        let exit := code.size + body.codeLength + 2
        -- A body that may match nothing is not entered by way of the first choice again.
        let last :=
          if body.consumes then .jump code.size else Instruction.choice greedy again exit
        (body.emit (code.push (.choice greedy again exit))).push last
      | least + 1 =>
        let last := code.size + least * body.codeLength
        (body.emit (copies body.emit least code)).push
          (.choice greedy last (last + body.codeLength + 1))
  | .group index body, code =>
    (body.emit (code.push (.note (2 * index)))).push (.note (2 * index + 1))

/-! ## Laws -/

theorem size_copies {emit : Code → Code} {length : Nat}
    (h : ∀ code, (emit code).size = code.size + length) (count : Nat) (code : Code) :
    (copies emit count code).size = code.size + count * length := by
  induction count generalizing code with
  | zero => simp [copies]
  | succ n ih => simp only [copies, ih, h, Nat.succ_mul]; omega

theorem size_optionalCopies {emit : Code → Code} {length : Nat}
    (h : ∀ code, (emit code).size = code.size + length) (greedy : Bool) (exit count : Nat)
    (code : Code) :
    (optionalCopies emit greedy exit count code).size = code.size + count * (length + 1) := by
  induction count generalizing code with
  | zero => simp [optionalCopies]
  | succ n ih => simp only [optionalCopies, ih, h, Array.size_push, Nat.succ_mul]; omega

/-- A form adds as many instructions as its length tells. -/
theorem size_emit (f : Form) (code : Code) : (f.emit code).size = code.size + f.codeLength := by
  induction f generalizing code with
  | empty => rfl
  | one => simp [emit, codeLength]
  | anchor => simp [emit, codeLength]
  | seq a b iha ihb => simp only [emit, codeLength, iha, ihb]; omega
  | alt a b iha ihb => simp only [emit, codeLength, iha, ihb, Array.size_push]; omega
  | repeated body least most greedy ih =>
    cases most with
    | some most =>
      simp only [emit, codeLength, size_optionalCopies ih, size_copies ih]
      omega
    | none =>
      cases least with
      | zero => simp only [emit, codeLength, Array.size_push, ih]; omega
      | succ least => simp only [emit, codeLength, Array.size_push, ih, size_copies ih]; omega
  | group index body ih => simp only [emit, codeLength, Array.size_push, ih]; omega

/-- The program of a form: the whole match is group 0. -/
def program (f : Form) : Code :=
  ((Form.group 0 f).emit #[]).push .accept

end Form

end MediaShelves.Pattern
