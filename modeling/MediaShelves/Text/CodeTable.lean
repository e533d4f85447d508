import MediaShelves.Text.Cut

/-!
# Code point tables

Runs of evenly spaced code points and shifts of such runs, and the tables that list them.  A table
is a text of blank-separated words with hexadecimal numbers.  `41` is one code point, `41-5A` a run,
`100-12E/2` a run of every second one, and `61-7A:41` a run that moves so that its first code point
becomes `41`.
-/

namespace MediaShelves.Text

/-! ## Words of tables -/

/-- The value of an upper-case hexadecimal digit. -/
def hexDigitValue (c : Char) : Nat :=
  if c.isDigit then c.toNat - '0'.toNat else c.toNat - 'A'.toNat + 10

/-- The value of a hexadecimal number. -/
def hexNumber (word : List Char) : Nat :=
  word.foldl (fun n c => 16 * n + hexDigitValue c) 0

/-- The words of a table. -/
def tableWords (text : String) : List (List Char) :=
  (text.toList.splitOnP Char.isWhitespace).filter fun word => !word.isEmpty

/-! ## Runs -/

/-- The code points `first`, `first + step`, … up to `last`. -/
structure Run where
  first : Nat
  last : Nat
  step : Nat
deriving DecidableEq, Repr

/-- Whether a run has the code point `n`. -/
def Run.contains (r : Run) (n : Nat) : Bool :=
  decide (r.first ≤ n) && decide (n ≤ r.last) && (n - r.first) % r.step == 0

/-- The run that a word of a table stands for. -/
def Run.ofWord (word : List Char) : Run :=
  let (range, step) := match cutFirst? '/' word with
    | some (range, step) => (range, hexNumber step)
    | none => (word, 1)
  match cutFirst? '-' range with
  | some (first, last) => ⟨hexNumber first, hexNumber last, step⟩
  | none => ⟨hexNumber range, hexNumber range, step⟩

/-- The runs that a table lists. -/
def Run.table (text : String) : List Run :=
  (tableWords text).map Run.ofWord

/-- The members of a run from `first` to `last`. -/
def Run.within (r : Run) (first last : Nat) : Run :=
  let behind := (first - r.first + (r.step - 1)) / r.step
  ⟨r.first + r.step * behind, min r.last last, r.step⟩

/-! ## Shifts -/

/-- A run whose code points move by one distance, its first to `target`. -/
structure Shift where
  run : Run
  target : Nat
deriving DecidableEq, Repr

/-- The shift that a word of a table stands for. -/
def Shift.ofWord (word : List Char) : Shift :=
  match cutFirst? ':' word with
  | some (run, target) => ⟨Run.ofWord run, hexNumber target⟩
  | none => ⟨Run.ofWord word, (Run.ofWord word).first⟩

/-- The shifts that a table lists. -/
def Shift.table (text : String) : List Shift :=
  (tableWords text).map Shift.ofWord

/-- Where the first shift that applies to `n` moves it; `n` itself without one. -/
def Shift.apply (shifts : List Shift) (n : Nat) : Nat :=
  match shifts.find? (·.run.contains n) with
  | some s => n + s.target - s.run.first
  | none => n

/-- The shift that moves everything back. -/
def Shift.inverse (s : Shift) : Shift :=
  ⟨⟨s.target, s.target + s.run.last - s.run.first, s.run.step⟩, s.run.first⟩

/-- Where a shift moves those members of its run that lie from `first` to `last`. -/
def Shift.image (s : Shift) (first last : Nat) : Run :=
  let r := s.run.within first last
  ⟨r.first + s.target - s.run.first, r.last + s.target - s.run.first, r.step⟩

end MediaShelves.Text
