import MediaShelves.Pattern.Flags
import MediaShelves.Pattern.NamedSet
import MediaShelves.Text.Decimal

/-!
# Escapes of patterns

What a backslash and the characters after it stand for, and the numbers and names that they mention.
-/

namespace MediaShelves.Pattern

open MediaShelves.Text

/-! ## Numbers and escapes -/

/-- Reads a number of at most 32 bits; blanks may stand around it. -/
def readCount (f : Flags) (s : List Char) : Option (Nat × List Char) :=
  let (ds, rest) := f.span Char.isDigit (trimFront s)
  (unsigned? max32 ds).map (·, trimFront rest)

/-- The value of a hexadecimal digit. -/
def hexValue? (c : Char) : Option Nat :=
  if c.isDigit then some (c.toNat - '0'.toNat)
  else if 'a' ≤ c ∧ c ≤ 'f' then some (c.toNat - 'a'.toNat + 10)
  else if 'A' ≤ c ∧ c ≤ 'F' then some (c.toNat - 'A'.toNat + 10)
  else none

/-- The character with this number, where it is a scalar value. -/
def scalar? (n : Nat) : Option Char :=
  if n.isValidChar then some (Char.ofNat n) else none

/-- Reads exactly `count` hexadecimal digits. -/
def readHexDigits (f : Flags) : (count : Nat) → (value : Nat) → List Char → Option (Nat × List Char)
  | 0, value, s => some (value, s)
  | _ + 1, _, [] => none
  | count + 1, value, c :: rest =>
    match hexValue? c with
    | some d => readHexDigits f count (16 * value + d) (f.skip rest)
    | none => none

/-- Reads hexadecimal digits up to a closing brace, at least one. -/
def readHexBrace (f : Flags) (s : List Char) : Option (Nat × List Char) :=
  match f.span (fun c => (hexValue? c).isSome) (f.skip s) with
  | (d :: ds, '}' :: rest) =>
    some ((d :: ds).foldl (fun n c => 16 * n + (hexValue? c).getD 0) 0, rest)
  | _ => none

/-- What an escape stands for. -/
inductive Escape where
  | literal (c : Char)
  | set (s : CodeSet)
  | anchor (a : Anchor)

/-- The set of a letter class: digits, blanks or word characters. -/
def letterClass? (f : Flags) (letter : Char) : Option CodeSet :=
  let plain : Option CodeSet := match letter.toLower with
    | 'd' => if f.allScripts then some decimalDigits else asciiClass? "digit"
    | 's' => if f.allScripts then some Property.whiteSpace else asciiClass? "space"
    | 'w' => if f.allScripts then some wordCharacters else asciiClass? "word"
    | _ => none
  match plain with
  | some s =>
    if letter.isUpper then if f.allScripts then some s.compl else none else some s
  | none => none

/-- Cuts a query at the first place where `mark` stands. -/
def cutQuery? (mark : List Char) : List Char → Option (List Char × List Char)
  | [] => none
  | c :: rest =>
    if mark.isPrefixOf (c :: rest) then some ([], (c :: rest).drop mark.length)
    else (cutQuery? mark rest).map fun (name, value) => (c :: name, value)

/-- The set of a property query, before it is negated, and whether the query itself negates it. -/
def querySet? (query : List Char) : Option (CodeSet × Bool) :=
  match cutQuery? ['!', '='] query with
  | some (name, value) => (propertyValue? name value).map (·, true)
  | none =>
    match (cutQuery? [':'] query).or (cutQuery? ['='] query) with
    | some (name, value) => (propertyValue? name value).map (·, false)
    | none => (property? query).map (·, false)

/-- The set of a property, closed under case before it is negated. -/
def propertySet? (f : Flags) (negated : Bool) (found : Option (CodeSet × Bool)) : Option CodeSet :=
  if f.allScripts then
    found.map fun (s, differs) => if negated != differs then (f.fold s).compl else f.fold s
  else none

/-- Reads the name of a property: one letter, or a query in braces. -/
def readProperty (f : Flags) (negated : Bool) (s : List Char) : Option (CodeSet × List Char) :=
  match f.skip s with
  | [] => none
  | '\\' :: _ => none
  | '{' :: rest =>
    match f.span (· != '}') (f.skip rest) with
    | (query, _ :: after) => (propertySet? f negated (querySet? query)).map (·, after)
    | (_, []) => none
  | c :: rest => (propertySet? f negated ((property? [c]).map (·, false))).map (·, rest)

/-- The characters that stand for themselves after a backslash. -/
def isEscapable (c : Char) : Bool :=
  decide (c.toNat < 0x80) && !c.isAlphanum && c != '<' && c != '>'

/-- The special word boundaries by name. -/
def boundaryNamed? (r : WordReading) (name : String) : Option Anchor :=
  if name = "start" then some (.wordStart r)
  else if name = "end" then some (.wordEnd r)
  else if name = "start-half" then some (.wordStartHalf r)
  else if name = "end-half" then some (.wordEndHalf r)
  else none

/-- Reads what may follow the escape of a word boundary: the name of a special one in braces. -/
def readBoundary (f : Flags) (s : List Char) : Option (Anchor × List Char) :=
  let plain := (Anchor.wordBoundary f.wordReading, s)
  match s with
  | '{' :: rest =>
    match f.skip rest with
    | [] => none
    | rest =>
      match f.span (fun c => c.isAlpha || c == '-') rest with
      -- Braces that begin otherwise are the bounds of a repetition.
      | ([], _) => some plain
      | (name, '}' :: after) =>
        (boundaryNamed? f.wordReading (String.ofList name)).map (·, after)
      | _ => none
  | _ => some plain

/--
Reads a hexadecimal escape of `count` digits, or of any number of digits in braces.  Two digits mean
a byte, which has to be a character of its own where classes are ASCII only.
-/
def readHex (f : Flags) (count : Nat) (s : List Char) : Option (Escape × List Char) :=
  let (number, isByte) := match f.skip s with
    | '{' :: rest => (readHexBrace f rest, false)
    | s => (readHexDigits f count 0 s, count == 2)
  match number with
  | some (n, rest) =>
    if isByte && !f.allScripts && decide (0x7F < n) then none
    else (scalar? n).map fun c => (.literal c, rest)
  | none => none

/-- Reads what follows a backslash. -/
def readEscape (f : Flags) : List Char → Option (Escape × List Char)
  | [] => none
  | c :: rest =>
    match c with
    | 'x' => readHex f 2 rest
    | 'u' => readHex f 4 rest
    | 'U' => readHex f 8 rest
    | 'p' => (readProperty f false rest).map fun (s, rest) => (.set s, rest)
    | 'P' => (readProperty f true rest).map fun (s, rest) => (.set s, rest)
    | 'a' => some (.literal '\x07', rest)
    | 'f' => some (.literal '\x0c', rest)
    | 't' => some (.literal '\t', rest)
    | 'n' => some (.literal '\n', rest)
    | 'r' => some (.literal '\r', rest)
    | 'v' => some (.literal '\x0b', rest)
    | 'A' => some (.anchor .textStart, rest)
    | 'z' => some (.anchor .textEnd, rest)
    | 'b' => (readBoundary f rest).map fun (a, rest) => (.anchor a, rest)
    | 'B' => some (.anchor (.notWordBoundary f.wordReading), rest)
    | '<' => some (.anchor (.wordStart f.wordReading), rest)
    | '>' => some (.anchor (.wordEnd f.wordReading), rest)
    | _ =>
      if "dDsSwW".toList.contains c then (letterClass? f c).map fun s => (.set s, rest)
      else if isEscapable c then some (.literal c, rest)
      else none

end MediaShelves.Pattern
