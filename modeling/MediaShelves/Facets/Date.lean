import MediaShelves.Text.Blank
import MediaShelves.Text.Decimal

/-!
# Date facets

The year, the month and the day under which a date is shelved.  Dates are written in many ways; the
same day gives the same facets.
-/

namespace MediaShelves

open MediaShelves.Text

/-- The titles under which a date is shelved. -/
structure DateFacets where
  year : String
  /-- Absent where the date has no month. -/
  month : Option String
  date : String
deriving DecidableEq, Repr

/-! ## Parts of a date -/

/-- The part of a date before the time of day, which begins at a space or the letter T. -/
def dayPart (date : List Char) : List Char :=
  (trim date).takeWhile fun c => c != 'T' && c != ' '

/-- The parts of a day between dashes and colons. -/
def daySegments (day : List Char) : List (List Char) :=
  (day.splitOnP fun c => c == '-' || c == ':').map trim

/-- Whether a text is a year of four digits. -/
def isFourDigitYear (s : List Char) : Bool :=
  s.length == 4 && s.all Char.isDigit

/-- The numbers at the front of a list of texts. -/
def leadingNumbers : List (List Char) → List Nat
  | [] => []
  | s :: rest =>
    match unsigned? max32 s with
    | some n => n :: leadingNumbers rest
    | none => []

namespace DateFacets

/-- The facets of an unknown date. -/
def unknown (placeholder : String) : DateFacets :=
  ⟨placeholder, none, placeholder⟩

/-- The facets of a year with the month and the day after it, as far as they are there. -/
def ofParts (year : List Char) (rest : List (List Char)) : DateFacets where
  year := String.ofList year
  month := rest.head?.map String.ofList
  date := String.ofList (year ++ rest.flatMap ('-' :: ·))

/-- The facets of a date; one that does not begin with a year of four digits is unknown. -/
def ofText (date placeholder : String) : DateFacets :=
  match daySegments (dayPart date.toList) with
  | year :: rest =>
    if isFourDigitYear year then ofParts year ((leadingNumbers (rest.take 2)).map (padded 2))
    else unknown placeholder
  | [] => unknown placeholder

/-- The facets of a date that may be absent. -/
def ofDate (date : Option String) (placeholder : String) : DateFacets :=
  match date with
  | some date => ofText date placeholder
  | none => unknown placeholder

end DateFacets

/-! ## The year alone -/

/-- The year of a date that begins with four digits and a dash; any other date as it is. -/
def leadingYear (date : String) : String :=
  match date.toList with
  | a :: b :: c :: d :: '-' :: _ =>
    if [a, b, c, d].all Char.isDigit then String.ofList [a, b, c, d] else date
  | _ => date

end MediaShelves
