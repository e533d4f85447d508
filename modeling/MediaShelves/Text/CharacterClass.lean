import MediaShelves.Text.Property.Letter
import MediaShelves.Text.Property.Mark

/-!
# Word characters and digits

The two large classes that name patterns mention by a letter: decimal digits of every script, and
word characters.
-/

namespace MediaShelves.Text

/-- Decimal digits of every script. -/
def decimalDigits : CodeSet :=
  GeneralCategory.decimalNumber

/-- What words are made of: alphabetic characters, marks, decimal digits, connectors and joiners. -/
def wordCharacters : CodeSet :=
  .unions [Property.alphabetic, GeneralCategory.mark, GeneralCategory.decimalNumber,
    GeneralCategory.connectorPunctuation, Property.joinControl]

/-- Whether a character is a decimal digit of some script. -/
def isDecimalDigit (c : Char) : Bool :=
  decimalDigits.contains c.toNat

/-- Whether a character may be part of a word. -/
def isWordCharacter (c : Char) : Bool :=
  wordCharacters.contains c.toNat

end MediaShelves.Text
