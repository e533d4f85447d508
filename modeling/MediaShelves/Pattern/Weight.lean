import MediaShelves.Pattern.Form
import MediaShelves.Text.Utf8
import Std.Data.HashSet

/-!
# The weight of patterns

The memory that the machines of a pattern take, in bytes.  There are two of them, and both read
UTF-8: one runs forward and notes groups, the other one runs backward and notes none.  All states
have one size; on top of it, every way that a state chooses from is counted.
-/

namespace MediaShelves.Pattern

open MediaShelves.Text MediaShelves.Text.Utf8

/-! ## Parts of machines -/

/-- The direction in which a machine reads. -/
inductive Direction where
  | forward
  | backward
deriving Repr, DecidableEq

/-- The size of a state. -/
def stateSize : Nat := 32

/-- The size of a state that takes one byte and has `ways` ranges for it. -/
def bytesSize (ways : Nat) : Nat := stateSize + 8 * ways

/-- The size of a way from one state to another that takes nothing. -/
def waySize : Nat := 4

/-- The size of a state that takes nothing and has `ways` states to go on to. -/
def forkSize (ways : Nat) : Nat := stateSize + waySize * ways

/-! ## Sets -/

/-- Rows in groups that begin with the same range. -/
def groupRows (rows : List Row) : List (List Row) :=
  rows.splitBy fun a b => a.head? == b.head?

/--
The states of a tree over rows, which share what they begin with: a state is the list of what may
still follow.
-/
def treeStates : (depth : Nat) → List Row → List (List Row)
  | 0, _ => []
  | depth + 1, rows =>
    if rows = [[]] then []
    else rows :: (groupRows rows).flatMap fun group => treeStates depth (group.map List.tail)

/-- The size of a tree in which states with the same future are one. -/
def treeSize (rows : List Row) : Nat :=
  let states := Std.HashSet.ofList (treeStates 4 rows)
  states.fold (fun size state => size + bytesSize (groupRows state).length) 0

/--
How many beginnings the rows have, each counted once; rows that begin alike follow each other.
-/
def countFronts : (before : Row) → List Row → Nat
  | _, [] => 0
  | before, row :: rows =>
    let shared := ((before.zip row).takeWhile fun (a, b) => a == b).length
    row.length - shared + countFronts row rows

/-- The weight of one character of a set. -/
def setWeight (d : Direction) (s : CodeSet) : Nat :=
  match s.single? with
  | some n => stateSize * Utf8.length n
  | none =>
    if s.isBelow 0x80 then stateSize + bytesSize s.spans.length
    else
      let rows := rows s
      match d with
      | .forward => stateSize + treeSize rows
      | .backward => stateSize + forkSize rows.length + stateSize * countFronts [] rows

/-! ## Texts to choose from -/

/-- The bytes of a form that is one text, from the side that a machine reads first. -/
def textOf? (d : Direction) (f : Form) : Option (List UInt8) :=
  match f.parts.mapM Form.literal? with
  | some [] => none
  | some codes =>
    let bytes := codes.flatMap fun n => String.utf8EncodeChar (Char.ofNat n)
    match d with
    | .forward => some bytes
    | .backward => some bytes.reverse
  | none => none

/-- Texts in stretches between those that end here; an end at the very front counts once. -/
def stretches (texts : List (List UInt8)) : List (List (List UInt8)) :=
  match texts.splitOnP List.isEmpty with
  | [] :: rest => [] :: rest.dropWhile List.isEmpty
  | stretches => stretches

/-- The texts that begin with each first byte, without it. -/
def branchesOf (texts : List (List UInt8)) : List (List (List UInt8)) :=
  let firsts := (texts.filterMap List.head?).eraseDups
  firsts.map fun b => (texts.filter fun text => text.head? == some b).map List.tail

/-- The size of a tree over texts, within one stretch of which a beginning is shared. -/
def textsSize : (depth : Nat) → List (List UInt8) → Nat
  | 0, _ => 0
  | depth + 1, texts =>
    let stretches := stretches texts
    let trees := (stretches.map branchesOf).filter fun branches => !branches.isEmpty
    if trees.isEmpty then 0
    else
      let own := trees.map fun branches =>
        if branches.length = 1 then stateSize else bytesSize branches.length
      let below := trees.flatten.map (textsSize depth)
      forkSize (trees.length + (stretches.length - 1)) + (own ++ below).foldl (· + ·) 0

/-! ## Forms -/

namespace Form

/--
The weight of a form, without what every machine has.  A form that is `continued` goes on with the
alternatives of the form around it.
-/
def weight (d : Direction) : (continued : Bool) → Form → Nat
  | _, .empty => stateSize
  | _, .one s => setWeight d s
  | _, .anchor _ => stateSize
  | _, .seq a b => a.weight d false + b.weight d false
  | continued, .alt a b =>
    -- Alternatives in a row leave from one state and end in one; texts among themselves are a tree.
    let texts := if continued then none else (a :: b.branches).mapM (textOf? d)
    match texts with
    | some texts =>
      stateSize + textsSize ((texts.map List.length).foldl max 0 + 1) texts
    | none =>
      let choosing := if continued then waySize else forkSize 2 + stateSize
      choosing + a.weight d false + b.weight d true
  | _, .repeated body least most _ =>
    let once := body.weight d false
    match most with
    | some most =>
      let needed := if least = 0 then stateSize else least * once
      if least = most then needed
      else if least = 0 ∧ most = 1 then forkSize 2 + stateSize + once
      else needed + stateSize + (most - least) * (forkSize 2 + once)
    | none =>
      if 0 < least then least * once + forkSize 2
      else if body.consumes then forkSize 2 + once
      else forkSize 2 + forkSize 2 + stateSize + once
  | _, .group _ body =>
    match d with
    | .forward => 2 * stateSize + body.weight d false
    | .backward => body.weight d false

end Form

end MediaShelves.Pattern
