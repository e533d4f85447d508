import MediaShelves.Text.UpperCase

/-!
# Initials and letter buckets

The initial of a name, with accents folded onto the base letter, and the folders that gather a
stretch of the alphabet.
-/

namespace MediaShelves.Alphabet

open MediaShelves.Text

/-! ## Initials -/

/-- Accented capitals and the base letter that they fold onto. -/
def accentFolds : List (String × Char) :=
  [("ÄÁÀÂÆÃÅĀĂĄ", 'A'), ("ÇĆČĈĊ", 'C'), ("ĎĐ", 'D'), ("ÉÈÊËĒĔĖĘĚ", 'E'), ("ĜĞĠĢ", 'G'),
    ("ĤĦ", 'H'), ("ÍÌÎÏĨĪĬĮİ", 'I'), ("Ĵ", 'J'), ("Ķ", 'K'), ("ĹĻĽĿŁ", 'L'), ("ÑŃŅŇŊ", 'N'),
    ("ÖÓÒÔŒÕØŌŎŐ", 'O'), ("ŔŖŘ", 'R'), ("ŚŜŞŠ", 'S'), ("ŢŤŦ", 'T'), ("ÜÚÙÛŨŪŬŮŰŲ", 'U'),
    ("Ŵ", 'W'), ("ÝŶŸ", 'Y'), ("ŹŻŽ", 'Z')]

/-- A character in upper case, its accent folded away. -/
def foldInitial (c : Char) : Char :=
  let upper := firstUpper c
  match accentFolds.find? (·.1.toList.contains upper) with
  | some (_, base) => base
  | none => upper

/-- The folded first character of a text. -/
def initial? (s : List Char) : Option Char :=
  s.head?.map foldInitial

/-! ## Buckets -/

/-- How many letters each bucket holds, by the kind of split; kinds not listed have five buckets. -/
def bucketWidths : Nat → List Nat
  | 1 => [26]
  | 2 => [13, 13]
  | 3 => [8, 9, 9]
  | 4 => [7, 6, 7, 6]
  | 6 => [4, 5, 4, 4, 5, 4]
  | 7 => [4, 3, 4, 4, 4, 3, 4]
  | 9 => [5, 5, 5, 4, 1, 6]
  | 26 => List.replicate 26 1
  | _ => [5, 5, 5, 6, 5]

/-- The capital letters from the one numbered `start`, `width` of them. -/
def capitals (start width : Nat) : List Char :=
  (List.range width).map fun i => Char.ofNat ('A'.toNat + start + i)

/-- The letters of the bucket that holds letter number `offset`; buckets begin at `start`. -/
def bucketLetters? (offset : Nat) : (start : Nat) → List Nat → Option (List Char)
  | _, [] => none
  | start, width :: widths =>
    if offset < start + width then some (capitals start width)
    else bucketLetters? offset (start + width) widths

/-- The bucket of names that begin with neither a digit nor a letter. -/
def otherBucket : List Char := ['^', '&', '#', '\'']

/-- The letters, or the digits, or neither: the bucket of a text under a kind of split. -/
def bucket (kind : Nat) (s : List Char) : List Char :=
  match initial? s with
  | none => otherBucket
  | some c =>
    if c.isDigit then ['0', '-', '9']
    else if c.isUpper then
      (bucketLetters? (c.toNat - 'A'.toNat) 0 (bucketWidths kind)).getD otherBucket
    else otherBucket

/-- The title of the bucket folder of a name, between two marks. -/
def bucketTitle (kind : Nat) (mark : Char) (name : String) : String :=
  String.ofList (mark :: bucket kind name.toList ++ [mark])

end MediaShelves.Alphabet
