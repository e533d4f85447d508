import MediaShelves.Text.Age
import MediaShelves.Text.Break
import MediaShelves.Text.Property
import MediaShelves.Text.ScriptExtension

/-!
# Named character sets

The sets that a pattern can mention by name: the bracketed ASCII classes, and properties of
characters with or without a value.
-/

namespace MediaShelves.Pattern

open MediaShelves.Text

/-! ## ASCII classes -/

/-- The ASCII class with this name. -/
def asciiClass? (name : String) : Option CodeSet :=
  (List.lookup name
    [("alnum", "30-39 41-5A 61-7A"), ("alpha", "41-5A 61-7A"), ("ascii", "0-7F"),
      ("blank", "9 20"), ("cntrl", "0-1F 7F"), ("digit", "30-39"), ("graph", "21-7E"),
      ("lower", "61-7A"), ("print", "20-7E"), ("punct", "21-2F 3A-40 5B-60 7B-7E"),
      ("space", "9-D 20"), ("upper", "41-5A"), ("word", "30-39 41-5A 5F 61-7A"),
      ("xdigit", "30-39 41-46 61-66")]).map .table

/-! ## Names -/

/-- The ASCII of a name in lower case, without blanks, hyphens, underscores and a leading "is". -/
def plainName (name : List Char) : String :=
  let (rest, cut) := match name.map Char.toLower with
    | 'i' :: 's' :: rest => (rest, true)
    | name => (name, false)
  let letters := rest.filter fun c => c.toNat < 0x80 && c != ' ' && c != '_' && c != '-'
  -- What would be left of the name of a comment is not the short name of a category.
  if cut && letters == ['c'] then "isc" else String.ofList letters

/-- The general categories and their groups, with their names. -/
def categories : List (List String × CodeSet) :=
  [(["any"], .all), (["ascii"], .ascii), (["assigned"], GeneralCategory.assigned),
    (["casedletter", "lc"], GeneralCategory.casedLetter),
    (["closepunctuation", "pe"], GeneralCategory.closePunctuation),
    (["connectorpunctuation", "pc"], GeneralCategory.connectorPunctuation),
    (["control", "cc", "cntrl"], GeneralCategory.control),
    (["currencysymbol", "sc"], GeneralCategory.currencySymbol),
    (["dashpunctuation", "pd"], GeneralCategory.dashPunctuation),
    (["decimalnumber", "nd", "digit"], GeneralCategory.decimalNumber),
    (["enclosingmark", "me"], GeneralCategory.enclosingMark),
    (["finalpunctuation", "pf"], GeneralCategory.finalPunctuation),
    (["format", "cf"], GeneralCategory.format),
    (["initialpunctuation", "pi"], GeneralCategory.initialPunctuation),
    (["letter", "l"], GeneralCategory.letter),
    (["letternumber", "nl"], GeneralCategory.letterNumber),
    (["lineseparator", "zl"], GeneralCategory.lineSeparator),
    (["lowercaseletter", "ll"], GeneralCategory.lowercaseLetter),
    (["mark", "m", "combiningmark"], GeneralCategory.mark),
    (["mathsymbol", "sm"], GeneralCategory.mathSymbol),
    (["modifierletter", "lm"], GeneralCategory.modifierLetter),
    (["modifiersymbol", "sk"], GeneralCategory.modifierSymbol),
    (["nonspacingmark", "mn"], GeneralCategory.nonspacingMark),
    (["number", "n"], GeneralCategory.number),
    (["openpunctuation", "ps"], GeneralCategory.openPunctuation),
    (["other", "c"], GeneralCategory.other), (["otherletter", "lo"], GeneralCategory.otherLetter),
    (["othernumber", "no"], GeneralCategory.otherNumber),
    (["otherpunctuation", "po"], GeneralCategory.otherPunctuation),
    (["othersymbol", "so"], GeneralCategory.otherSymbol),
    (["paragraphseparator", "zp"], GeneralCategory.paragraphSeparator),
    (["privateuse", "co"], GeneralCategory.privateUse),
    (["punctuation", "p", "punct"], GeneralCategory.punctuation),
    (["separator", "z"], GeneralCategory.separator),
    (["spaceseparator", "zs"], GeneralCategory.spaceSeparator),
    (["spacingmark", "mc"], GeneralCategory.spacingMark), (["symbol", "s"], GeneralCategory.symbol),
    (["titlecaseletter", "lt"], GeneralCategory.titlecaseLetter),
    (["unassigned", "cn"], GeneralCategory.unassigned),
    (["uppercaseletter", "lu"], GeneralCategory.uppercaseLetter)]

/-- The general category, or group of them, with this plain name. -/
def category? (name : String) : Option CodeSet :=
  (categories.find? (·.1.contains name)).map (·.2)

/-! ## Properties -/

/-- Names that mean a category although a property has the same short name. -/
def categoryFirst : List String :=
  ["cf", "sc", "lc"]

/-- The set that a property name stands for: a property, else a category, else a script. -/
def property? (name : List Char) : Option CodeSet :=
  let name := plainName name
  let property := if categoryFirst.contains name then none else Property.named? name
  (property.or (category? name)).or ((Script.named? name).map (·.members))

/-- The set of the characters for which a property has a value. -/
def propertyValue? (property value : List Char) : Option CodeSet :=
  let property := plainName property
  let value := plainName value
  let isProperty (names : List String) := names.contains property
  if isProperty ["gc", "generalcategory"] then category? value
  else if isProperty ["sc", "script"] then (Script.named? value).map (·.members)
  else if isProperty ["scx", "scriptextensions"] then
    (Script.named? value).map ScriptExtension.members
  else if isProperty ["age"] then Age.upTo? value
  else if isProperty ["gcb", "graphemeclusterbreak"] then Break.cluster.named? value
  else if isProperty ["wb", "wordbreak"] then Break.word.named? value
  else if isProperty ["sb", "sentencebreak"] then Break.sentence.named? value
  else none

end MediaShelves.Pattern
