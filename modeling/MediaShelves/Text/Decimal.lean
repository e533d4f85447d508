/-!
# Decimal numbers

Reading unsigned numbers of bounded size, and writing them with a least width.
-/

namespace MediaShelves.Text

/-! ## Reading -/

/-- The value of a text of ASCII digits. -/
def digitsValue (s : List Char) : Nat :=
  s.foldl (fun n c => 10 * n + (c.toNat - '0'.toNat)) 0

/-- The number that a non-empty text of ASCII digits stands for. -/
def natOfDigits? (s : List Char) : Option Nat :=
  if s.isEmpty then none
  else if s.all Char.isDigit then some (digitsValue s)
  else none

/-- Reads a number of at most `limit`; one plus sign may stand in front of the digits. -/
def unsigned? (limit : Nat) (s : List Char) : Option Nat :=
  let digits := match s with
    | '+' :: rest => rest
    | _ => s
  match natOfDigits? digits with
  | some n => if n ≤ limit then some n else none
  | none => none

/-- The largest number of 32 bits. -/
def max32 : Nat := 4294967295

/-- The largest number of 64 bits. -/
def max64 : Nat := 18446744073709551615

/-! ## Writing -/

/-- The decimal digits of a number. -/
def digits (n : Nat) : List Char :=
  Nat.toDigits 10 n

/-- The decimal digits of a number, with zeros in front up to `width` characters. -/
def padded (width n : Nat) : List Char :=
  let ds := digits n
  List.replicate (width - ds.length) '0' ++ ds

end MediaShelves.Text
