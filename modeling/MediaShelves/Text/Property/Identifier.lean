import MediaShelves.Text.GeneralCategory

/-!
# Properties of names and notations

Characters of identifiers, of numbers in base sixteen, and of ideographs.
-/

namespace MediaShelves.Text.Property

open MediaShelves.Text

/-! ## Identifiers -/

/-- Characters that begin identifiers without being letters. -/
def otherIdStart : CodeSet :=
  .table "1885-1886 2118 212E 309B-309C"

/-- Characters that identifiers begin with. -/
def idStart : CodeSet :=
  (CodeSet.unions [GeneralCategory.letter, GeneralCategory.letterNumber, otherIdStart]).diff
    (.table "2E2F")

/-- Further characters that identifiers go on with. -/
def otherIdContinue : CodeSet :=
  .table "B7 387 1369-1371 19DA 200C-200D 30FB FF65"

/-- Characters that identifiers go on with. -/
def idContinue : CodeSet :=
  .unions [idStart, GeneralCategory.nonspacingMark, GeneralCategory.spacingMark,
    GeneralCategory.decimalNumber, GeneralCategory.connectorPunctuation, otherIdContinue]

/-- Characters of identifiers whose compatible forms are no identifiers. -/
def unstableIdentifier : CodeSet :=
  .table "37A 309B-309C FC5E-FC63 FDFA-FDFB FE70-FE7E/2"

/-- Characters that identifiers begin with in all compatible forms. -/
def xidStart : CodeSet :=
  idStart.diff (unstableIdentifier.union (.table "E33 EB3 FF9E-FF9F"))

/-- Characters that identifiers go on with in all compatible forms. -/
def xidContinue : CodeSet :=
  idContinue.diff unstableIdentifier

/-- Mathematical characters that identifiers may begin with. -/
def idCompatMathStart : CodeSet :=
  .table "2202 2207 221E 1D6C1 1D6DB 1D6FB 1D715 1D735 1D74F 1D76F 1D789 1D7A9 1D7C3"

/-- Mathematical characters that identifiers may go on with. -/
def idCompatMathContinue : CodeSet :=
  idCompatMathStart.union (.table "B2-B3 B9 2070 2074-207E 2080-208E")

/-! ## Digits -/

/-- Digits in base sixteen. -/
def asciiHexDigit : CodeSet :=
  .table "30-39 41-46 61-66"

/-- Digits in base sixteen, of full width too. -/
def hexDigit : CodeSet :=
  .table "30-39 41-46 61-66 FF10-FF19 FF21-FF26 FF41-FF46"

/-! ## Ideographs -/

/-- Unified ideographs. -/
def unifiedIdeograph : CodeSet :=
  .table
    "3400-4DBF 4E00-9FFF FA0E-FA0F FA11 FA13-FA14 FA1F FA21 FA23-FA24 FA27-FA29 20000-2A6DF
    2A700-2B739 2B740-2B81D 2B820-2CEA1 2CEB0-2EBE0 2EBF0-2EE5D 30000-3134A 31350-323AF"

/-- Ideographs. -/
def ideographic : CodeSet :=
  unifiedIdeograph.union
    (.table
      "3006-3007 3021-3029 3038-303A F900-FA0D FA10 FA12 FA15-FA1E FA20 FA22 FA25-FA26 FA2A-FA6D
      FA70-FAD9 16FE4 17000-187F7 18800-18CD5 18CFF-18D08 1B170-1B2FB 2F800-2FA1D")

/-- Radicals of ideographs. -/
def radical : CodeSet :=
  .table "2E80-2E99 2E9B-2EF3 2F00-2FD5"

/-- Descriptions of ideographs with one part. -/
def idsUnaryOperator : CodeSet :=
  .table "2FFE-2FFF"

/-- Descriptions of ideographs with two parts. -/
def idsBinaryOperator : CodeSet :=
  .table "2FF0-2FF1 2FF4-2FFD 31EF"

/-- Descriptions of ideographs with three parts. -/
def idsTrinaryOperator : CodeSet :=
  .table "2FF2-2FF3"

end MediaShelves.Text.Property
