import MediaShelves.Text.CodeSet

/-!
# Sets of characters in UTF-8

The members of a set as rows of byte ranges: a character is a member if its bytes lie in the ranges
of one row.  Rows ascend and do not overlap.
-/

namespace MediaShelves.Text.Utf8

/-- The bytes from one number to another. -/
abbrev Octets := Nat × Nat

/-- A range for every byte of a character. -/
abbrev Row := List Octets

/-! ## Rows of sets -/

/--
The rows of the numbers from `first` to `last`: the first byte counts on from `lead`, and each of
the `following` bytes holds six bits.
-/
def rowsFrom : (following lead first last : Nat) → List Row
  | 0, lead, first, last => [[(lead + first, lead + last)]]
  | following + 1, lead, first, last =>
    let block := Nat.pow 64 (following + 1)
    let low := first / block
    let high := last / block
    let within (n first last : Nat) : List Row :=
      (rowsFrom following 0x80 first last).map ((lead + n, lead + n) :: ·)
    if low = high then within low (first % block) (last % block)
    else
      -- Whole blocks share one row; a block that is cut has rows of its own.
      let cutLow := first % block ≠ 0
      let cutHigh := last % block ≠ block - 1
      let start := if cutLow then low + 1 else low
      let stop := if cutHigh then high else high + 1
      (if cutLow then within low (first % block) (block - 1) else []) ++
        (if start < stop then
          [(lead + start, lead + stop - 1) :: List.replicate (following + 1) (0x80, 0xBF)]
        else []) ++
        (if cutHigh then within high 0 (last % block) else [])

/-- The rows of a set, for characters of one, two, three and four bytes. -/
def rows (s : CodeSet) : List Row :=
  [(0, 0x7F, 0, 0), (0x80, 0x7FF, 1, 0xC0), (0x800, 0xFFFF, 2, 0xE0),
    (0x10000, 0x10FFFF, 3, 0xF0)].flatMap fun (first, last, following, lead) =>
      (s.inter (.range first last)).spans.flatMap fun span =>
        rowsFrom following lead span.1 span.2

/-- The number of bytes of a code point. -/
def length (n : Nat) : Nat :=
  if n < 0x80 then 1 else if n < 0x800 then 2 else if n < 0x10000 then 3 else 4

end MediaShelves.Text.Utf8
