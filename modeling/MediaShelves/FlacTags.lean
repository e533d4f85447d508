import MediaShelves.FilePath
import MediaShelves.Metadata
import MediaShelves.Text.Blank
import MediaShelves.Text.Decimal

/-!
# FLAC tags

The comments of a FLAC file, and the metadata that they mean.  A file is a series of blocks: one
that describes the stream, which comes first, and perhaps one that holds the comments.
-/

namespace MediaShelves.FlacTags

open MediaShelves.Text

/-! ## Octets -/

/-- The number whose octets are given, the most significant one first. -/
def bigEndian (s : List UInt8) : Nat :=
  s.foldl (fun n b => 256 * n + b.toNat) 0

/-- The number whose octets are given, the least significant one first. -/
def littleEndian (s : List UInt8) : Nat :=
  bigEndian s.reverse

/-- The first `n` octets, and the rest. -/
def readOctets? (n : Nat) (s : List UInt8) : Option (List UInt8 × List UInt8) :=
  if n ≤ s.length then some (s.take n, s.drop n) else none

/-- What is left is as much shorter as what was read. -/
theorem length_readOctets? {n : Nat} {s taken rest : List UInt8}
    (h : readOctets? n s = some (taken, rest)) : rest.length + n = s.length := by
  unfold readOctets? at h
  split at h
  · simp only [Option.some.injEq, Prod.mk.injEq] at h
    obtain ⟨_, rfl⟩ := h
    simp only [List.length_drop]
    omega
  · simp at h

/-- Octets after their number, which has four octets of its own. -/
def readCounted? (s : List UInt8) : Option (List UInt8 × List UInt8) := do
  let (count, rest) ← readOctets? 4 s
  readOctets? (littleEndian count) rest

/-- The text of octets. -/
def textOf? (s : List UInt8) : Option String :=
  String.fromUTF8? (ByteArray.mk s.toArray)

/-- A text without the null characters that pad its end. -/
def withoutPadding (s : String) : String :=
  String.ofList (s.toList.reverse.dropWhile (· == '\x00')).reverse

/-! ## Blocks -/

/-- The kind of the block that describes the stream. -/
def streamKind : UInt8 := 0

/-- The kind of the block that holds comments. -/
def commentKind : UInt8 := 4

/-- A block of a file. -/
structure Block where
  isLast : Bool
  kind : UInt8
  content : List UInt8
deriving Repr

/-- Reads a block: a mark with its kind, its length in three octets, and its content. -/
def readBlock? (s : List UInt8) : Option (Block × List UInt8) :=
  match readOctets? 4 s with
  | some (mark :: length, rest) =>
    (readOctets? (bigEndian length) rest).map fun (content, rest) =>
      (⟨128 ≤ mark, mark &&& 127, content⟩, rest)
  | _ => none

/-- A block is never empty. -/
theorem length_readBlock? {s rest : List UInt8} {b : Block} (h : readBlock? s = some (b, rest)) :
    rest.length < s.length := by
  unfold readBlock? at h
  split at h
  · rename_i h₁
    obtain ⟨⟨content, rest'⟩, h₂, he⟩ := Option.map_eq_some_iff.1 h
    simp only [Prod.mk.injEq] at he
    obtain ⟨_, rfl⟩ := he
    have l₁ := length_readOctets? h₁
    have l₂ := length_readOctets? h₂
    omega
  · simp at h

/-- All blocks up to the last one. -/
def readBlocks? (s : List UInt8) : Option (List Block) :=
  match _h : readBlock? s with
  | some (b, rest) => if b.isLast then some [b] else (readBlocks? rest).map (b :: ·)
  | none => none
termination_by s.length
decreasing_by exact length_readBlock? _h

/-- The least number of octets that describe a stream. -/
def streamSize : Nat := 34

/-- The blocks of a file, the first of which describes the stream. -/
def blocks? (file : List UInt8) : Option (List Block) := do
  let (mark, rest) ← readOctets? 4 file
  guard (mark == [102, 76, 97, 67])
  let blocks ← readBlocks? rest
  let first ← blocks.head?
  guard (first.kind == streamKind && streamSize ≤ first.content.length)
  return blocks

/-! ## Comments -/

/-- A comment: a name in lower case and a text. -/
abbrev Comment := String × String

/-- The comment of some octets, which an equals sign divides; any other octets are no comment. -/
def comment? (s : List UInt8) : Option Comment := do
  let name ← textOf? (s.takeWhile (· != 61))
  match s.dropWhile (· != 61) with
  | _ :: value =>
    return (String.ofList (FilePath.asciiLower name.toList), withoutPadding (← textOf? value))
  | [] => none

/-- Reads a number of comments. -/
def readComments? : (count : Nat) → List UInt8 → Option (List Comment)
  | 0, _ => some []
  | count + 1, s => do
    let (octets, rest) ← readCounted? s
    let more ← readComments? count rest
    return (comment? octets).toList ++ more

/-- The comments of a block, after the name of the program that wrote it. -/
def Block.comments? (b : Block) : Option (List Comment) := do
  let (_, rest) ← readCounted? b.content
  let (count, rest) ← readOctets? 4 rest
  readComments? (littleEndian count) rest

/-- The comments of a file; a file that holds no such block has none. -/
def comments? (file : List UInt8) : Option (List Comment) := do
  let blocks ← blocks? file
  let lists ← (blocks.filter (·.kind == commentKind)).mapM Block.comments?
  return lists.getLastD []

/-! ## Metadata -/

/-- The number of a track; after a slash the number of all tracks may follow. -/
def trackNumber? (s : String) : Option String :=
  (unsigned? max32 (s.toList.takeWhile (· != '/'))).map fun n => String.ofList (digits n)

/-- The year that begins a text with four digits. -/
def yearOf? (s : String) : Option String :=
  let year := (trimFront s.toList).take 4
  if year.length = 4 ∧ year.all Char.isDigit then (unsigned? max32 year).map fun n =>
    String.ofList (digits n)
  else none

/-- Sets a key to a text, unless that is blank. -/
def setUnlessBlank (key : String) (value : Option String) (m : Metadata) : Metadata :=
  match value with
  | some value => if (trim value.toList).isEmpty then m else m.set key value
  | none => m

/--
What comments mean.  Of several comments with one name the first one counts, but of track numbers
the last one that is a number.
-/
def metadata (comments : List Comment) : Metadata :=
  let named (name : String) := comments.lookup name
  let tracks := (comments.filter (·.1 == "tracknumber")).filterMap (trackNumber? ·.2)
  -- A year of its own counts only without a date.
  let date := (named "date").or ((named "year").bind yearOf?)
  Metadata.empty
    |> setUnlessBlank MetaKey.title (named "title")
    |> setUnlessBlank MetaKey.artist (named "artist")
    |> setUnlessBlank MetaKey.album (named "album")
    |> setUnlessBlank MetaKey.genre (named "genre")
    |> setUnlessBlank MetaKey.albumArtist (named "albumartist")
    |> setUnlessBlank MetaKey.composer (named "composer")
    |> setUnlessBlank MetaKey.trackNumber tracks.getLast?
    |> setUnlessBlank MetaKey.date date

end MediaShelves.FlacTags
