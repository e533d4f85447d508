import MediaShelves.Pattern.Program
import Std.Data.HashSet

/-!
# Searching

Runs a program over a text by backtracking.  A pair of a place in the program and a position in the
text is tried once only: had it led to a match, the search would be over.  So the first match found
is the leftmost one, and among those the one that the pattern prefers.
-/

namespace MediaShelves.Pattern

/-! ## Threads -/

/-- One way through the program that is still to be tried. -/
structure Thread where
  place : Nat
  position : Nat
  /-- The positions noted so far, last first. -/
  notes : List (Nat × Nat)

/-- The character before a position. -/
def charBefore (text : Array Char) (position : Nat) : Option Char :=
  if position = 0 then none else text[position - 1]?

/-- How a thread goes on: a match, or the threads to try instead of it. -/
def Thread.step (program : Code) (text : Array Char) (t : Thread) :
    Sum (List (Nat × Nat)) (List Thread) :=
  match program[t.place]? with
  | none => .inr []
  | some .accept => .inl t.notes
  | some (.take s) =>
    match text[t.position]? with
    | some c =>
      if s.contains c.toNat then .inr [⟨t.place + 1, t.position + 1, t.notes⟩] else .inr []
    | none => .inr []
  | some (.check a) =>
    if a.holds (charBefore text t.position) text[t.position]? then
      .inr [{ t with place := t.place + 1 }]
    else .inr []
  | some (.note slot) => .inr [⟨t.place + 1, t.position, (slot, t.position) :: t.notes⟩]
  | some (.fork a b) => .inr [{ t with place := a }, { t with place := b }]
  | some (.jump a) => .inr [{ t with place := a }]

/-! ## The search -/

/-- A place in a program and a position in a text. -/
abbrev Spot := Nat × Nat

/-- Where a thread is. -/
def Thread.spot (t : Thread) : Spot :=
  (t.place, t.position)

/--
Tries threads in order.  Every place with a position is marked when it is first tried, and a thread
at a marked one is passed over.
-/
def explore (program : Code) (text : Array Char) :
    (budget : Nat) → (marked : Std.HashSet Spot) → List Thread → Option (List (Nat × Nat))
  | 0, _, _ => none
  | _ + 1, _, [] => none
  | budget + 1, marked, t :: rest =>
    -- What was tried once has failed, or the search would be over.
    if marked.contains t.spot then explore program text budget marked rest
    else
      match t.step program text with
      | .inl notes => some notes
      | .inr threads => explore program text budget (marked.insert t.spot) (threads ++ rest)

/-- One thread for every position that a match may begin at, in order. -/
def startThreads (text : Array Char) : List Thread :=
  (List.range (text.size + 1)).map fun position => ⟨0, position, []⟩

/-- The notes of the leftmost match. -/
def search (program : Code) (text : Array Char) : Option (List (Nat × Nat)) :=
  let spots := (program.size + 1) * (text.size + 1)
  explore program text (3 * spots + text.size + 2) ∅ (startThreads text)

/-! ## Matches -/

/-- A match: the text it was found in and the positions that were noted. -/
structure Match where
  text : Array Char
  notes : List (Nat × Nat)

/-- The characters from one position to another. -/
def Match.slice (m : Match) (start stop : Nat) : List Char :=
  (m.text.toList.take stop).drop start

/-- What a group matched, where it took part in the match. -/
def Match.group? (m : Match) (index : Nat) : Option (List Char) :=
  match List.lookup (2 * index) m.notes, List.lookup (2 * index + 1) m.notes with
  | some start, some stop => some (m.slice start stop)
  | _, _ => none

/-- The text before the match. -/
def Match.before (m : Match) : List Char :=
  m.slice 0 ((List.lookup 0 m.notes).getD 0)

/-- The text after the match. -/
def Match.after (m : Match) : List Char :=
  m.text.toList.drop ((List.lookup 1 m.notes).getD 0)

end MediaShelves.Pattern
