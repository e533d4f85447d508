import MediaShelves.Text.Decimal
import MediaShelves.Toml.Value

/-!
# TOML scalars

Strings in their four spellings, numbers, truth values, dates and times.  Readers take the text from
their first character on and give what they read with the text after it.
-/

namespace MediaShelves.Toml

open MediaShelves.Text

/-! ## Characters -/

/-- Whether a character may stand in a comment or a string: no control character but the tab. -/
def isPrintable (c : Char) : Bool :=
  c == '\t' || (decide (0x20 ≤ c.toNat) && c.toNat != 0x7F)

/-- Whether a character may stand in a key without quotes. -/
def isBareKeyPart (c : Char) : Bool :=
  c.isAlphanum || c == '_' || c == '-'

/-- Drops blanks and tabs. -/
def skipBlanks (s : List Char) : List Char :=
  s.dropWhile fun c => c == ' ' || c == '\t'

/-- Reads the end of a line. -/
def readNewline? : List Char → Option (List Char)
  | '\n' :: rest => some rest
  | '\r' :: '\n' :: rest => some rest
  | _ => none

/-- Drops the end of a line, where there is one. -/
def skipNewline (s : List Char) : List Char :=
  (readNewline? s).getD s

/-! ## Strings -/

/-- The value of a hexadecimal digit. -/
def hexValue? (c : Char) : Option Nat :=
  if c.isDigit then some (c.toNat - '0'.toNat)
  else if 'a' ≤ c ∧ c ≤ 'f' then some (c.toNat - 'a'.toNat + 10)
  else if 'A' ≤ c ∧ c ≤ 'F' then some (c.toNat - 'A'.toNat + 10)
  else none

/-- Reads the number of a character in exactly `count` hexadecimal digits. -/
def readCodePoint : (count value : Nat) → List Char → Option (Char × List Char)
  | 0, value, s => if value.isValidChar then some (Char.ofNat value, s) else none
  | _ + 1, _, [] => none
  | count + 1, value, c :: rest =>
    match hexValue? c with
    | some d => readCodePoint count (16 * value + d) rest
    | none => none

/-- Reads an escape after its backslash. -/
def readEscape : List Char → Option (Char × List Char)
  | 'b' :: rest => some ('\x08', rest)
  | 't' :: rest => some ('\t', rest)
  | 'n' :: rest => some ('\n', rest)
  | 'f' :: rest => some ('\x0c', rest)
  | 'r' :: rest => some ('\r', rest)
  | '"' :: rest => some ('"', rest)
  | '\\' :: rest => some ('\\', rest)
  | 'u' :: rest => readCodePoint 4 0 rest
  | 'U' :: rest => readCodePoint 8 0 rest
  | _ => none

/-- Drops blanks and line ends. -/
def skipBlankLines : List Char → List Char
  | '\r' :: '\n' :: rest => skipBlankLines rest
  | c :: rest => if c == ' ' || c == '\t' || c == '\n' then skipBlankLines rest else c :: rest
  | [] => []

/-- Reads a one-line string with escapes, after its opening quote. -/
def readBasic : (budget : Nat) → List Char → Option (List Char × List Char)
  | 0, _ => none
  | _ + 1, [] => none
  | budget + 1, c :: rest =>
    let following (c : Char) (rest : List Char) :=
      (readBasic budget rest).map fun (text, rest) => (c :: text, rest)
    if c = '"' then some ([], rest)
    else if c = '\\' then
      match readEscape rest with
      | some (c, rest) => following c rest
      | none => none
    else if isPrintable c then following c rest
    else none

/-- Reads a one-line string without escapes, after its opening quote. -/
def readLiteral (s : List Char) : Option (List Char × List Char) :=
  match s.dropWhile (· != '\'') with
  | _ :: rest =>
    let text := s.takeWhile (· != '\'')
    if text.all isPrintable then some (text, rest) else none
  | [] => none

/--
Reads a string of several lines, after its opening quotes.  It ends at three quotes; up to two more
before them belong to it.  With `escapes`, a backslash at the end of a line drops the blanks that
follow.
-/
def readLines (quote : Char) (escapes : Bool) :
    (budget : Nat) → List Char → Option (List Char × List Char)
  | 0, _ => none
  | _ + 1, [] => none
  | budget + 1, c :: rest =>
    let following (front : List Char) (rest : List Char) :=
      (readLines quote escapes budget rest).map fun (text, rest) => (front ++ text, rest)
    if c = quote then
      -- Fewer than three quotes are text; of four or five the first ones are text.
      let quotes := (c :: rest).takeWhile (· == quote)
      let after := (c :: rest).dropWhile (· == quote)
      if quotes.length < 3 then following quotes after
      else if quotes.length ≤ 5 then some (quotes.drop 3, after)
      else none
    else if escapes && c == '\\' then
      match readNewline? (skipBlanks rest) with
      | some rest => following [] (skipBlankLines rest)
      | none =>
        match readEscape rest with
        | some (c, rest) => following [c] rest
        | none => none
    else
      match readNewline? (c :: rest) with
      | some rest => following ['\n'] rest
      | none => if isPrintable c then following [c] rest else none

/-- Reads a string in any spelling. -/
def readString (s : List Char) : Option (List Char × List Char) :=
  match s with
  | '"' :: '"' :: '"' :: rest => readLines '"' true (rest.length + 1) (skipNewline rest)
  | '\'' :: '\'' :: '\'' :: rest => readLines '\'' false (rest.length + 1) (skipNewline rest)
  | '"' :: rest => readBasic (rest.length + 1) rest
  | '\'' :: rest => readLiteral rest
  | _ => none

/-! ## Numbers -/

/-- The value of digits with single underscores between them. -/
def groupedDigits? (base : Nat) (s : List Char) : Option Nat :=
  let groups := s.splitOn '_'
  let digits := groups.flatten.map hexValue?
  if groups.any List.isEmpty then none
  else if digits.all (fun d => d.any (· < base)) then
    some (digits.foldl (fun n d => base * n + d.getD 0) 0)
  else none

/-- The value of a decimal number without a needless zero in front. -/
def decimal? (s : List Char) : Option Nat :=
  match s with
  | '0' :: _ :: _ => none
  | _ => groupedDigits? 10 s

/-- The value of a whole number of 64 bits with a sign. -/
def integer? (s : List Char) : Option Int :=
  let magnitude : Option Int := match s with
    | '0' :: 'x' :: rest => (groupedDigits? 16 rest).map Int.ofNat
    | '0' :: 'o' :: rest => (groupedDigits? 8 rest).map Int.ofNat
    | '0' :: 'b' :: rest => (groupedDigits? 2 rest).map Int.ofNat
    | '+' :: rest => (decimal? rest).map Int.ofNat
    | '-' :: rest => (decimal? rest).map fun n => -Int.ofNat n
    | _ => (decimal? s).map Int.ofNat
  magnitude.filter fun n => decide (-9223372036854775808 ≤ n) && decide (n ≤ 9223372036854775807)

/-- Drops a sign. -/
def dropSign : List Char → List Char
  | '+' :: rest => rest
  | '-' :: rest => rest
  | s => s

/-- Whether a text is a number with a fraction or an exponent, or one of the special numbers. -/
def isFloat (s : List Char) : Bool :=
  let s := dropSign s
  let isExponentMark := fun c : Char => c == 'e' || c == 'E'
  let mantissa := s.takeWhile (!isExponentMark ·)
  let exponent := s.dropWhile (!isExponentMark ·)
  let whole := mantissa.takeWhile (· != '.')
  let fraction := mantissa.dropWhile (· != '.')
  let digitsOk := fun t : List Char => (groupedDigits? 10 t).isSome
  s == ['i', 'n', 'f'] || s == ['n', 'a', 'n'] ||
    ((decimal? whole).isSome && (fraction.isEmpty || digitsOk (fraction.drop 1)) &&
      (exponent.isEmpty || digitsOk (dropSign (exponent.drop 1))) &&
      !(fraction.isEmpty && exponent.isEmpty))

/-- The least number that is too large for a double: halfway between the largest one and 2^1024. -/
def floatLimit : Nat := Nat.pow 2 1024 - Nat.pow 2 970

/--
Whether `m · 10^e` is at least `floatLimit`; powers of ten that cannot matter are not computed.
-/
def exceedsFloat (m : Nat) (e : Int) : Bool :=
  let magnitude : Int := (digits m).length + e
  if m = 0 || decide (magnitude < 309) then false
  else if 309 < magnitude then true
  else decide (floatLimit * Nat.pow 10 (-e).toNat ≤ m * Nat.pow 10 e.toNat)

/-- Whether a number with a fraction or an exponent has no sign or a plus sign and is too large. -/
def overflows (s : List Char) : Bool :=
  let s := (s.filter (· != '_')).map Char.toLower
  let mantissa := s.takeWhile (· != 'e')
  let exponent := (s.dropWhile (· != 'e')).drop 1
  let fraction := (mantissa.dropWhile (· != '.')).drop 1
  let power : Int := digitsValue (dropSign exponent)
  let power := if exponent.head? == some '-' then -power else power
  s.head? != some '-' && exceedsFloat (digitsValue (mantissa.filter Char.isDigit))
    (power - fraction.length)

/-! ## Dates and times -/

/-- Reads a number of exactly `count` digits that lies between two bounds. -/
def readField (count low high : Nat) (s : List Char) : Option (Nat × List Char) :=
  match natOfDigits? (s.take count) with
  | some n =>
    if (s.take count).length = count ∧ low ≤ n ∧ n ≤ high then some (n, s.drop count) else none
  | none => none

/-- Reads one of some marks. -/
def readMark (marks : List Char) : List Char → Option (List Char)
  | c :: rest => if marks.contains c then some rest else none
  | [] => none

/-- Reads the day of a date. -/
def readDate (s : List Char) : Option (List Char) := do
  let (year, s) ← readField 4 0 9999 s
  let s ← readMark ['-'] s
  let (month, s) ← readField 2 1 12 s
  let s ← readMark ['-'] s
  let leap := year % 4 == 0 && (year % 100 != 0 || year % 400 == 0)
  let last :=
    if month = 2 then if leap then 29 else 28 else if [4, 6, 9, 11].contains month then 30 else 31
  let (_, s) ← readField 2 1 last s
  return s

/-- Reads the time of a day. -/
def readTime (s : List Char) : Option (List Char) := do
  let (_, s) ← readField 2 0 23 s
  let s ← readMark [':'] s
  let (_, s) ← readField 2 0 59 s
  let s ← readMark [':'] s
  let (_, s) ← readField 2 0 60 s
  match s with
  | '.' :: c :: rest => if c.isDigit then return rest.dropWhile Char.isDigit else failure
  | s => return s

/-- Reads the distance from universal time. -/
def readOffset (s : List Char) : Option (List Char) :=
  match s with
  | 'Z' :: rest => some rest
  | 'z' :: rest => some rest
  | _ => do
    let s ← readMark ['+', '-'] s
    let (_, s) ← readField 2 0 23 s
    let s ← readMark [':'] s
    let (_, s) ← readField 2 0 59 s
    return s

/-- Whether a text is a date, a time, or a date with a time. -/
def isDateTime (s : List Char) : Bool :=
  match readDate s with
  | some [] => true
  | some rest =>
    match (readMark ['T', 't', ' '] rest).bind readTime with
    | some [] => true
    | some rest => readOffset rest == some []
    | none => false
  | none => readTime s == some []

/-! ## Plain scalars -/

/-- Whether a character may stand in a scalar without quotes. -/
def isScalarPart (c : Char) : Bool :=
  c.isAlphanum || c == '_' || c == '-' || c == '+' || c == '.' || c == ':'

/-- The value of a scalar without quotes. -/
def Value.ofPlain? (s : List Char) : Option Value :=
  if s = "true".toList then some (.boolean true)
  else if s = "false".toList then some (.boolean false)
  else
    match integer? s with
    | some n => some (.integer n)
    | none =>
      if isFloat s then if overflows s then none else some (.float (String.ofList s))
      else if isDateTime s then some (.dateTime (String.ofList s))
      else none

/-- Reads a scalar without quotes; one blank may part a date from its time. -/
def readPlain (s : List Char) : Option (Value × List Char) :=
  let text := s.takeWhile isScalarPart
  let rest := s.dropWhile isScalarPart
  let joined := match rest with
    | ' ' :: more =>
      if readDate text == some [] && (readField 2 0 99 more).isSome &&
          (more.drop 2).head? == some ':' then
        some (text ++ ' ' :: more.takeWhile isScalarPart, more.dropWhile isScalarPart)
      else none
    | _ => none
  let (text, rest) := joined.getD (text, rest)
  (Value.ofPlain? text).map (·, rest)

end MediaShelves.Toml
