import MediaShelves.Text.Property.Control
import MediaShelves.Text.Property.Identifier
import MediaShelves.Text.Property.Letter
import MediaShelves.Text.Property.Symbol

/-!
# Properties by name

Properties that a character has or has not, under their long and short names.
-/

namespace MediaShelves.Text.Property

open MediaShelves.Text

/-- The properties with their names, plain and in lower case. -/
def entries : List (List String × CodeSet) :=
  [(["alphabetic", "alpha"], alphabetic), (["asciihexdigit", "ahex"], asciiHexDigit),
    (["bidicontrol", "bidic"], bidiControl), (["bidimirrored", "bidim"], bidiMirrored),
    (["caseignorable", "ci"], caseIgnorable), (["cased"], cased),
    (["changeswhencasefolded", "cwcf"], changesWhenCasefolded),
    (["changeswhencasemapped", "cwcm"], changesWhenCasemapped),
    (["changeswhenlowercased", "cwl"], changesWhenLowercased),
    (["changeswhentitlecased", "cwt"], changesWhenTitlecased),
    (["changeswhenuppercased", "cwu"], changesWhenUppercased), (["dash"], dash),
    (["defaultignorablecodepoint", "di"], defaultIgnorable), (["deprecated", "dep"], deprecated),
    (["diacritic", "dia"], diacritic), (["emoji"], emoji),
    (["emojicomponent", "ecomp"], emojiComponent), (["emojimodifier", "emod"], emojiModifier),
    (["emojimodifierbase", "ebase"], emojiModifierBase),
    (["emojipresentation", "epres"], emojiPresentation),
    (["extendedpictographic", "extpict"], extendedPictographic), (["extender", "ext"], extender),
    (["graphemebase", "grbase"], graphemeBase), (["graphemeextend", "grext"], graphemeExtend),
    (["graphemelink", "grlink"], graphemeLink), (["hexdigit", "hex"], hexDigit),
    (["hyphen"], hyphen), (["idsbinaryoperator", "idsb"], idsBinaryOperator),
    (["idstrinaryoperator", "idst"], idsTrinaryOperator),
    (["idsunaryoperator", "idsu"], idsUnaryOperator),
    (["idcompatmathcontinue"], idCompatMathContinue), (["idcompatmathstart"], idCompatMathStart),
    (["idcontinue", "idc"], idContinue), (["idstart", "ids"], idStart),
    (["ideographic", "ideo"], ideographic), (["joincontrol", "joinc"], joinControl),
    (["logicalorderexception", "loe"], logicalOrderException), (["lowercase", "lower"], lowercase),
    (["math"], math), (["modifiercombiningmark", "mcm"], modifierCombiningMark),
    (["noncharactercodepoint", "nchar"], noncharacter),
    (["otheralphabetic", "oalpha"], otherAlphabetic),
    (["otherdefaultignorablecodepoint", "odi"], otherDefaultIgnorable),
    (["othergraphemeextend", "ogrext"], otherGraphemeExtend),
    (["otheridcontinue", "oidc"], otherIdContinue), (["otheridstart", "oids"], otherIdStart),
    (["otherlowercase", "olower"], otherLowercase), (["othermath", "omath"], otherMath),
    (["otheruppercase", "oupper"], otherUppercase), (["patternsyntax", "patsyn"], patternSyntax),
    (["patternwhitespace", "patws"], patternWhiteSpace),
    (["prependedconcatenationmark", "pcm"], prependedConcatenationMark),
    (["quotationmark", "qmark"], quotationMark), (["radical"], radical),
    (["regionalindicator", "ri"], regionalIndicator),
    (["sentenceterminal", "sterm"], sentenceTerminal), (["softdotted", "sd"], softDotted),
    (["terminalpunctuation", "term"], terminalPunctuation),
    (["unifiedideograph", "uideo"], unifiedIdeograph), (["uppercase", "upper"], uppercase),
    (["variationselector", "vs"], variationSelector),
    (["whitespace", "wspace", "space"], whiteSpace), (["xidcontinue", "xidc"], xidContinue),
    (["xidstart", "xids"], xidStart)]

/-- The property with this name. -/
def named? (name : String) : Option CodeSet :=
  (entries.find? (·.1.contains name)).map (·.2)

end MediaShelves.Text.Property
