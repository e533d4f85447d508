import MediaShelves.Text.Property.Mark

/-!
# Properties of what is not seen

White space, direction marks, code points without a character and characters without a shape.
-/

namespace MediaShelves.Text.Property

open MediaShelves.Text

/-- White space. -/
def whiteSpace : CodeSet :=
  .table "9-D 20 85 A0 1680 2000-200A 2028-2029 202F 205F 3000"

/-- Characters that languages may use as white space. -/
def patternWhiteSpace : CodeSet :=
  .table "9-D 20 85 200E-200F 2028-2029"

/-- Characters that control the direction of text. -/
def bidiControl : CodeSet :=
  .table "61C 200E-200F 202A-202E 2066-2069"

/-- Code points without a shape that are neither format characters nor selectors. -/
def otherDefaultIgnorable : CodeSet :=
  .table
    "34F 115F-1160 17B4-17B5 2065 3164 FFA0 FFF0-FFF8 E0000 E0002-E001F E0080-E00FF E01F0-E0FFF"

/-- Code points that are not shown where they are not supported. -/
def defaultIgnorable : CodeSet :=
  (CodeSet.unions [otherDefaultIgnorable, GeneralCategory.format, variationSelector]).diff
    (.unions [prependedConcatenationMark, .table "FFF9-FFFB 13430-13440"])

/-- Characters that are better not used. -/
def deprecated : CodeSet :=
  .table "149 673 F77 F79 17A3-17A4 206A-206F 2329-232A E0001"

/-- Code points that will never mean a character. -/
def noncharacter : CodeSet :=
  .table
    "FDD0-FDEF FFFE-FFFF 1FFFE-1FFFF 2FFFE-2FFFF 3FFFE-3FFFF 4FFFE-4FFFF 5FFFE-5FFFF 6FFFE-6FFFF
    7FFFE-7FFFF 8FFFE-8FFFF 9FFFE-9FFFF AFFFE-AFFFF BFFFE-BFFFF CFFFE-CFFFF DFFFE-DFFFF
    EFFFE-EFFFF FFFFE-FFFFF 10FFFE-10FFFF"

end MediaShelves.Text.Property
