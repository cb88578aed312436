import TypeGuard.Pattern.Property.Derived
import TypeGuard.Pattern.Property.Emoji
import TypeGuard.Pattern.Property.Usage

/-!
The properties of Unicode 16 that a character has or lacks, by name.
-/

namespace TypeGuard.Pattern.Property

def binaryProperties : List Named :=
  [⟨["ahex", "asciihexdigit"], asciiHexDigit⟩,
   ⟨["alpha", "alphabetic"], alphabetic⟩,
   ⟨["bidic", "bidicontrol"], bidiControl⟩,
   ⟨["bidim", "bidimirrored"], bidiMirrored⟩,
   ⟨["ci", "caseignorable"], caseIgnorable⟩,
   ⟨["cased"], cased⟩,
   ⟨["cwcf", "changeswhencasefolded"], changesWhenCasefolded⟩,
   ⟨["cwcm", "changeswhencasemapped"], changesWhenCasemapped⟩,
   ⟨["cwl", "changeswhenlowercased"], changesWhenLowercased⟩,
   ⟨["cwt", "changeswhentitlecased"], changesWhenTitlecased⟩,
   ⟨["cwu", "changeswhenuppercased"], changesWhenUppercased⟩,
   ⟨["dash"], dash⟩,
   ⟨["di", "defaultignorablecodepoint"], defaultIgnorableCodePoint⟩,
   ⟨["dep", "deprecated"], deprecated⟩,
   ⟨["dia", "diacritic"], diacritic⟩,
   ⟨["emoji"], emoji⟩,
   ⟨["ecomp", "emojicomponent"], emojiComponent⟩,
   ⟨["emod", "emojimodifier"], emojiModifier⟩,
   ⟨["ebase", "emojimodifierbase"], emojiModifierBase⟩,
   ⟨["epres", "emojipresentation"], emojiPresentation⟩,
   ⟨["extpict", "extendedpictographic"], extendedPictographic⟩,
   ⟨["ext", "extender"], extender⟩,
   ⟨["grbase", "graphemebase"], graphemeBase⟩,
   ⟨["grext", "graphemeextend"], graphemeExtend⟩,
   ⟨["grlink", "graphemelink"], graphemeLink⟩,
   ⟨["hex", "hexdigit"], hexDigit⟩,
   ⟨["hyphen"], hyphen⟩,
   ⟨["idsb", "idsbinaryoperator"], idsBinaryOperator⟩,
   ⟨["idst", "idstrinaryoperator"], idsTrinaryOperator⟩,
   ⟨["idsu", "idsunaryoperator"], idsUnaryOperator⟩,
   ⟨["idcompatmathcontinue"], idCompatMathContinue⟩,
   ⟨["idcompatmathstart"], idCompatMathStart⟩,
   ⟨["idc", "idcontinue"], idContinue⟩,
   ⟨["ids", "idstart"], idStart⟩,
   ⟨["ideo", "ideographic"], ideographic⟩,
   ⟨["joinc", "joincontrol"], joinControl⟩,
   ⟨["loe", "logicalorderexception"], logicalOrderException⟩,
   ⟨["lower", "lowercase"], lowercase⟩,
   ⟨["math"], math⟩,
   ⟨["mcm", "modifiercombiningmark"], modifierCombiningMark⟩,
   ⟨["nchar", "noncharactercodepoint"], noncharacterCodePoint⟩,
   ⟨["oalpha", "otheralphabetic"], otherAlphabetic⟩,
   ⟨["odi", "otherdefaultignorablecodepoint"], otherDefaultIgnorableCodePoint⟩,
   ⟨["ogrext", "othergraphemeextend"], otherGraphemeExtend⟩,
   ⟨["oidc", "otheridcontinue"], otherIdContinue⟩,
   ⟨["oids", "otheridstart"], otherIdStart⟩,
   ⟨["olower", "otherlowercase"], otherLowercase⟩,
   ⟨["omath", "othermath"], otherMath⟩,
   ⟨["oupper", "otheruppercase"], otherUppercase⟩,
   ⟨["patsyn", "patternsyntax"], patternSyntax⟩,
   ⟨["patws", "patternwhitespace"], patternWhiteSpace⟩,
   ⟨["pcm", "prependedconcatenationmark"], prependedConcatenationMark⟩,
   ⟨["qmark", "quotationmark"], quotationMark⟩,
   ⟨["radical"], radical⟩,
   ⟨["ri", "regionalindicator"], regionalIndicator⟩,
   ⟨["sterm", "sentenceterminal"], sentenceTerminal⟩,
   ⟨["sd", "softdotted"], softDotted⟩,
   ⟨["term", "terminalpunctuation"], terminalPunctuation⟩,
   ⟨["uideo", "unifiedideograph"], unifiedIdeograph⟩,
   ⟨["upper", "uppercase"], uppercase⟩,
   ⟨["vs", "variationselector"], variationSelector⟩,
   ⟨["space", "wspace", "whitespace"], whiteSpace⟩,
   ⟨["xidc", "xidcontinue"], xidContinue⟩,
   ⟨["xids", "xidstart"], xidStart⟩]

end TypeGuard.Pattern.Property
