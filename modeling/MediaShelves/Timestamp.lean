import MediaShelves.Text.Blank
import MediaShelves.Text.Decimal

/-!
# Timestamps

Points in time to the second, read by a format and written with fields of fixed width.
-/

namespace MediaShelves

open MediaShelves.Text

/-- A point in time to the second. -/
structure Timestamp where
  year : Int
  month : Nat
  day : Nat
  hour : Nat
  minute : Nat
  /-- At most 60, which is a leap second. -/
  second : Nat
deriving DecidableEq, Repr

namespace Timestamp

/-! ## The calendar -/

/-- Whether a year has a 29th of February. -/
def isLeapYear (year : Int) : Bool :=
  year % 4 == 0 && (year % 100 != 0 || year % 400 == 0)

/-- How many days a month has. -/
def daysInMonth (year : Int) (month : Nat) : Nat :=
  if month = 2 then if isLeapYear year then 29 else 28
  else if month = 4 ∨ month = 6 ∨ month = 9 ∨ month = 11 then 30
  else 31

/-- Whether a time exists, in a year that can be told. -/
def isValid (t : Timestamp) : Bool :=
  decide (-262143 ≤ t.year) && decide (t.year ≤ 262142) &&
    decide (1 ≤ t.month) && decide (t.month ≤ 12) &&
    decide (1 ≤ t.day) && decide (t.day ≤ daysInMonth t.year t.month) &&
    decide (t.hour ≤ 23) && decide (t.minute ≤ 59) && decide (t.second ≤ 60)

/-! ## Reading -/

/-- A number that a format asks for. -/
inductive Field where
  | year
  | month
  | day
  | hour
  | minute
  | second
deriving DecidableEq, Repr

/-- A part of a format. -/
inductive FormatPart where
  /-- A number, after any blanks. -/
  | number (field : Field)
  /-- One character. -/
  | mark (c : Char)
  /-- Any blanks, or none. -/
  | gap
deriving DecidableEq, Repr

/-- The first digits of a text, at most `width` of them; there must be one. -/
def readDigits? (width : Nat) (s : List Char) : Option (Nat × List Char) :=
  match (s.take width).takeWhile Char.isDigit with
  | [] => none
  | ds => some (digitsValue ds, s.drop ds.length)

/-- All digits at the front of a text; there must be one. -/
def readAllDigits? (s : List Char) : Option (Nat × List Char) :=
  readDigits? s.length s

/-- A year: four digits at most, or a sign and any number of digits. -/
def readYear? (s : List Char) : Option (Int × List Char) :=
  match s with
  | '-' :: rest => (readAllDigits? rest).map fun (n, rest) => (-(n : Int), rest)
  | '+' :: rest => (readAllDigits? rest).map fun (n, rest) => ((n : Int), rest)
  | _ => (readDigits? 4 s).map fun (n, rest) => ((n : Int), rest)

/-- Reads the number for a field into it. -/
def readField? (field : Field) (t : Timestamp) (s : List Char) : Option (Timestamp × List Char) :=
  let small (set : Nat → Timestamp) := (readDigits? 2 s).map fun (n, rest) => (set n, rest)
  match field with
  | .year => (readYear? s).map fun (n, rest) => ({ t with year := n }, rest)
  | .month => small fun n => { t with month := n }
  | .day => small fun n => { t with day := n }
  | .hour => small fun n => { t with hour := n }
  | .minute => small fun n => { t with minute := n }
  | .second => small fun n => { t with second := n }

/-- Reads a whole text by a format. -/
def readParts? : List FormatPart → Timestamp → List Char → Option Timestamp
  | [], t, s => if s.isEmpty then some t else none
  | .number field :: parts, t, s =>
    match readField? field t (trimFront s) with
    | some (t, rest) => readParts? parts t rest
    | none => none
  | .mark c :: parts, t, s =>
    match s with
    | d :: rest => if d = c then readParts? parts t rest else none
    | [] => none
  | .gap :: parts, t, s => readParts? parts t (trimFront s)

/-- The time that a text gives in a format; fields that the format lacks are zero. -/
def read? (format : List FormatPart) (s : List Char) : Option Timestamp :=
  (readParts? format ⟨0, 0, 0, 0, 0, 0⟩ s).filter isValid

/-- A day as cameras write it, and the time of day. -/
def cameraFormat : List FormatPart :=
  [.number .year, .mark ':', .number .month, .mark ':', .number .day, .gap,
    .number .hour, .mark ':', .number .minute, .mark ':', .number .second]

/-- All digits in one row. -/
def compactFormat : List FormatPart :=
  [.number .year, .number .month, .number .day, .number .hour, .number .minute, .number .second]

/-- A day with dashes. -/
def dayFormat : List FormatPart :=
  [.number .year, .mark '-', .number .month, .mark '-', .number .day]

/-! ## Writing -/

/-- A year in four digits; one that needs more or is negative has a sign. -/
def writeYear (year : Int) : List Char :=
  if 0 ≤ year ∧ year ≤ 9999 then padded 4 year.toNat
  else (if year < 0 then '-' else '+') :: padded 4 year.natAbs

/-- The year and the month, with a dash between them. -/
def writeMonth (t : Timestamp) : List Char :=
  writeYear t.year ++ '-' :: padded 2 t.month

/-- All fields, with a dash after each. -/
def writeAll (t : Timestamp) : List Char :=
  writeMonth t ++
    [t.day, t.hour, t.minute, t.second].flatMap (fun n => '-' :: padded 2 n) ++ ['-']

end Timestamp

end MediaShelves
