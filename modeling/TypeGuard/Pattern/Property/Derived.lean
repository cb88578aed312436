import TypeGuard.Pattern.Property.BreakData
import TypeGuard.Pattern.Property.Case
import TypeGuard.Pattern.Property.Category
import TypeGuard.Pattern.Property.Word

/-!
Properties of Unicode 16 that are put together from others.
-/

namespace TypeGuard.Pattern.Property

open CharSet (everySecond unionOf)

/-- Characters that may start identifiers but not after compatibility decomposition. -/
def unstableStarts : CharSet :=
  ⟨[(0x37A, 0x37A), (0xE33, 0xE33), (0xEB3, 0xEB3), (0x309B, 0x309C), (0xFC5E, 0xFC63),
    (0xFDFA, 0xFDFB)]
    ++ everySecond 0xFE70 0xFE7E
    ++ [(0xFF9E, 0xFF9F)]⟩

/-- Characters that may stand in identifiers but not after compatibility decomposition. -/
def unstableParts : CharSet :=
  ⟨[(0x37A, 0x37A), (0x309B, 0x309C), (0xFC5E, 0xFC63), (0xFDFA, 0xFDFB)]
    ++ everySecond 0xFE70 0xFE7E⟩

def alphabetic : CharSet :=
  unionOf [lowercase, uppercase, titlecaseLetter, modifierLetter, otherLetter, letterNumber,
    otherAlphabetic]

def caseIgnorable : CharSet :=
  unionOf [nonspacingMark, enclosingMark, format, modifierLetter, modifierSymbol, midLetter,
    midNumberOrLetter, .singleton 0x27]

def graphemeExtend : CharSet := unionOf [enclosingMark, nonspacingMark, otherGraphemeExtend]

def graphemeBase : CharSet :=
  (unionOf (setsOf (letterCategories ++ markCategories ++ numberCategories ++
    punctuationCategories ++ symbolCategories) ++ [spaceSeparator])).difference graphemeExtend

def math : CharSet := mathSymbol.union otherMath

def idStart : CharSet :=
  ((unionOf (setsOf letterCategories ++ [letterNumber, otherIdStart])).difference
    patternSyntax).difference patternWhiteSpace

def idContinue : CharSet :=
  ((unionOf [idStart, nonspacingMark, spacingMark, decimalNumber, connectorPunctuation,
    otherIdContinue]).difference patternSyntax).difference patternWhiteSpace

def xidStart : CharSet := idStart.difference unstableStarts

def xidContinue : CharSet := idContinue.difference unstableParts

def defaultIgnorableCodePoint : CharSet :=
  (unionOf [otherDefaultIgnorableCodePoint, format, variationSelector]).difference
    (unionOf [whiteSpace, .range 0xFFF9 0xFFFB, .range 0x13430 0x13440,
      prependedConcatenationMark])

end TypeGuard.Pattern.Property
