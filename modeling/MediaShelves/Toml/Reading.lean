import MediaShelves.Toml.Scalar

/-!
# Reading TOML documents

From the text of a document to its table.  A text that is no document gives none.
-/

namespace MediaShelves.Toml

/-! ## Keys -/

/-- Reads one part of a key. -/
def readKeyPart (s : List Char) : Option (String × List Char) :=
  match s with
  | '"' :: rest =>
    (readBasic (rest.length + 1) rest).map fun (text, rest) => (String.ofList text, rest)
  | '\'' :: rest => (readLiteral rest).map fun (text, rest) => (String.ofList text, rest)
  | _ =>
    match s.takeWhile isBareKeyPart with
    | [] => none
    | text => some (String.ofList text, s.dropWhile isBareKeyPart)

/-- The number of levels that values and keys stay below. -/
def depthLimit : Nat := 80

/-- Reads the parts of a key, with dots between them and blanks around any part. -/
def readKeyParts : (budget : Nat) → List Char → Option (List String × List Char)
  | 0, _ => none
  | budget + 1, s =>
    match readKeyPart (skipBlanks s) with
    | none => none
    | some (part, rest) =>
      match skipBlanks rest with
      | '.' :: rest => (readKeyParts budget rest).map fun (parts, rest) => (part :: parts, rest)
      | rest => some ([part], rest)

/-- Reads a key. -/
def readKey (s : List Char) : Option (List String × List Char) :=
  (readKeyParts (s.length + 1) s).filter fun key => key.1.length < depthLimit

/-- The parts of a key before its last one, and the last one. -/
def splitKey (parts : List String) : Option (List String × String) :=
  match parts.reverse with
  | last :: front => some (front.reverse, last)
  | [] => none

/-! ## Values -/

/-- Drops a comment. -/
def skipComment (s : List Char) : List Char :=
  match s with
  | '#' :: rest => rest.dropWhile isPrintable
  | _ => s

/-- Drops blanks, comments and line ends. -/
def skipFiller : (budget : Nat) → List Char → List Char
  | 0, s => s
  | budget + 1, s =>
    let s := skipComment (skipBlanks s)
    match readNewline? s with
    | some rest => skipFiller budget rest
    | none => s

/-- Drops blanks, comments and line ends up to the next character that counts. -/
def skipAll (s : List Char) : List Char :=
  skipFiller (s.length + 1) s

mutual

/-- Reads a value, with arrays and inline tables at most `room` levels deep. -/
def readValue : (budget room : Nat) → List Char → Option (Value × List Char)
  | 0, _, _ => none
  | budget + 1, room, s =>
    match room, s with
    | 0, '[' :: _ => none
    | 0, '{' :: _ => none
    | room + 1, '[' :: rest => readItems budget room [] (skipAll rest)
    | room + 1, '{' :: rest =>
      match skipBlanks rest with
      | '}' :: rest => some (.table [], rest)
      | rest => readPairs budget room [] rest
    | _, '"' :: _ => (readString s).map fun (text, rest) => (.string (String.ofList text), rest)
    | _, '\'' :: _ => (readString s).map fun (text, rest) => (.string (String.ofList text), rest)
    | _, _ => readPlain s

/-- Reads the items of an array up to its closing bracket; the last comma may be too many. -/
def readItems :
    (budget room : Nat) → (items : List Value) → List Char → Option (Value × List Char)
  | 0, _, _, _ => none
  | budget + 1, room, items, s =>
    match s with
    | ']' :: rest => some (.array items.reverse, rest)
    | _ =>
      match readValue budget room s with
      | none => none
      | some (item, rest) =>
        match skipAll rest with
        | ',' :: rest => readItems budget room (item :: items) (skipAll rest)
        | ']' :: rest => some (.array (item :: items).reverse, rest)
        | _ => none

/-- Reads the pairs of an inline table up to its closing brace; they stand on one line. -/
def readPairs : (budget room : Nat) → Entries → List Char → Option (Value × List Char)
  | 0, _, _, _ => none
  | budget + 1, room, entries, s =>
    match readKey s with
    | some (parts, '=' :: rest) =>
      match splitKey parts, readValue budget room (skipBlanks rest) with
      | some (path, key), some (v, rest) =>
        match entries.assign path key v with
        | none => none
        | some entries =>
          match skipBlanks rest with
          | ',' :: rest => readPairs budget room entries rest
          | '}' :: rest => some (.table (Node.entryValues entries), rest)
          | _ => none
      | _, _ => none
    | _ => none

end

/-! ## Documents -/

/-- Reads the rest of a line, which may hold a comment. -/
def readLineEnd (s : List Char) : Option (List Char) :=
  match skipComment (skipBlanks s) with
  | [] => some []
  | s => readNewline? s

/-- Reads a header up to its closing mark and the end of the line. -/
def readHeader (close : List Char) (s : List Char) : Option (List String × String × List Char) :=
  match readKey s with
  | none => none
  | some (parts, rest) =>
    if rest.take close.length = close then
      match splitKey parts, readLineEnd (rest.drop close.length) with
      | some (path, key), some rest => some (path, key, rest)
      | _, _ => none
    else none

/-- Reads the lines of a document; `header` is the path of the table at hand. -/
def readDocument :
    (budget : Nat) → (header : List String) → Entries → List Char → Option Entries
  | 0, _, _, _ => none
  | budget + 1, header, root, s =>
    match skipBlanks s with
    | [] => some root
    | '#' :: rest =>
      match readLineEnd ('#' :: rest) with
      | some rest => readDocument budget header root rest
      | none => none
    -- Two brackets: one more table of a list of tables.
    | '[' :: '[' :: rest =>
      match readHeader [']', ']'] rest with
      | none => none
      | some (path, key, rest) =>
        match Entries.openItem path key root with
        | some root => readDocument budget (path ++ [key]) root rest
        | none => none
    -- One bracket: a table that is defined here.
    | '[' :: rest =>
      match readHeader [']'] rest with
      | none => none
      | some (path, key, rest) =>
        match Entries.openTable path key root with
        | some root => readDocument budget (path ++ [key]) root rest
        | none => none
    | s =>
      match readNewline? s with
      | some rest => readDocument budget header root rest
      | none =>
        match readKey s with
        -- Anything else is an entry of the table at hand.
        | some (parts, '=' :: rest) =>
          match splitKey parts, readValue (rest.length + 1) (depthLimit - 1) (skipBlanks rest) with
          | some (path, key), some (v, rest) =>
            match readLineEnd rest, Entries.assignBelow header path key v root with
            | some rest, some root => readDocument budget header root rest
            | _, _ => none
          | _, _ => none
        | _ => none

/-- Drops a byte order mark. -/
def dropByteOrderMark (s : List Char) : List Char :=
  match s with
  | c :: rest => if c.toNat = 0xFEFF then rest else s
  | [] => []

/-- The table of a document. -/
def Value.ofDocument? (text : String) : Option Value :=
  let s := dropByteOrderMark text.toList
  (readDocument (s.length + 1) [] [] s).map fun root => .table (Node.entryValues root)

end MediaShelves.Toml
