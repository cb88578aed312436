import TypeGuard.Pattern.Property.BreakData
import TypeGuard.Pattern.Property.Derived
import TypeGuard.Pattern.Property.Emoji
import TypeGuard.Pattern.Property.Script
import TypeGuard.Pattern.Property.Usage

/-!
The properties of Unicode 16 by which text is cut into clusters, words and sentences.
-/

namespace TypeGuard.Pattern.Property

open CharSet (unionOf)

/-- Characters that continue the one before them in a sentence. -/
def sentenceExtend : CharSet := (graphemeExtend.union spacingMark).union (.singleton 0x200D)

/-- Format characters inside a sentence. -/
def sentenceFormat : CharSet := (format.difference arabicNumberSigns).difference sentenceExtend

def sentenceSpace : CharSet :=
  ((whiteSpace.difference lineSeparators).difference (.singleton 0xA)).difference (.singleton 0xD)

def sentenceLower : CharSet := (lowercase.difference graphemeExtend).difference georgianLetters

def sentenceUpper : CharSet := (uppercase.union titlecaseLetter).difference georgianLetters

/-- Letters of a sentence without case. -/
def sentenceLetter : CharSet :=
  (((alphabetic.union (.singleton 0x5F3)).difference sentenceLower).difference
    sentenceUpper).difference sentenceExtend

def numeric : CharSet := (decimalNumber.union arabicNumberSigns).union otherNumeric

def sentenceClose : CharSet :=
  (((((openPunctuation.union closePunctuation).union initialPunctuation).union
    finalPunctuation).union quotationMark).union ornamentalQuotes).difference wideQuotes

/-- Characters that continue the one before them in a word. -/
def wordExtend : CharSet := (graphemeExtend.union spacingMark).union emojiModifier

/-- Characters of words in Katakana. -/
def katakanaWord : CharSet := (scriptSet "katakana").union katakanaLike

def hebrewLetter : CharSet := (scriptSet "hebrew").intersection otherLetter

/-- Characters of words in most other scripts. -/
def wordLetter : CharSet :=
  let apart := [ideographic, katakanaWord, scriptSet "hiragana", scriptSet "thai",
    scriptSet "lao", hebrewLetter, wordExtend, complexContext]
  (alphabetic.difference (unionOf apart)).union letterlikeMarks

/-- Spaces that may stand in a row. -/
def wordSpace : CharSet := spaceSeparator.difference noBreakSpaces

/-- Spacing marks that belong to a cluster. -/
def clusterSpacingMark : CharSet :=
  (((spacingMark.difference graphemeExtend).difference loneSpacingMarks).union
    (.singleton 0xE33)).union (.singleton 0xEB3)

/-- Syllables of Hangul without a trailing consonant: every 28th. -/
def openSyllables : CharSet :=
  ⟨(List.range 399).map fun k => (0xAC00 + 28 * k, 0xAC00 + 28 * k)⟩

/-- Syllables of Hangul with a trailing consonant. -/
def closedSyllables : CharSet :=
  ⟨(List.range 399).map fun k => (0xAC01 + 28 * k, 0xAC1B + 28 * k)⟩

def graphemeClusterBreaks : List Named :=
  [⟨["cr"], .singleton 0xD⟩,
   ⟨["lf"], .singleton 0xA⟩,
   ⟨["cn", "control"], clusterControl⟩,
   ⟨["ex", "extend"], graphemeExtend.union emojiModifier⟩,
   ⟨["zwj"], .singleton 0x200D⟩,
   ⟨["ri", "regionalindicator"], regionalIndicator⟩,
   ⟨["pp", "prepend"], clusterPrepend⟩,
   ⟨["sm", "spacingmark"], clusterSpacingMark⟩,
   ⟨["l"], leadingJamo⟩,
   ⟨["v"], vowelJamo⟩,
   ⟨["t"], trailingJamo⟩,
   ⟨["lv"], openSyllables⟩,
   ⟨["lvt"], closedSyllables⟩]

def sentenceBreaks : List Named :=
  [⟨["cr"], .singleton 0xD⟩,
   ⟨["lf"], .singleton 0xA⟩,
   ⟨["ex", "extend"], sentenceExtend⟩,
   ⟨["se", "sep"], lineSeparators⟩,
   ⟨["fo", "format"], sentenceFormat⟩,
   ⟨["sp"], sentenceSpace⟩,
   ⟨["lo", "lower"], sentenceLower⟩,
   ⟨["up", "upper"], sentenceUpper⟩,
   ⟨["le", "oletter"], sentenceLetter⟩,
   ⟨["nu", "numeric"], numeric⟩,
   ⟨["at", "aterm"], fullStops⟩,
   ⟨["sc", "scontinue"], sentenceContinue⟩,
   ⟨["st", "sterm"], sentenceTerminal.difference fullStops⟩,
   ⟨["cl", "close"], sentenceClose⟩]

def wordBreaks : List Named :=
  [⟨["cr"], .singleton 0xD⟩,
   ⟨["lf"], .singleton 0xA⟩,
   ⟨["nl", "newline"], newlines⟩,
   ⟨["extend"], wordExtend⟩,
   ⟨["zwj"], .singleton 0x200D⟩,
   ⟨["ri", "regionalindicator"], regionalIndicator⟩,
   ⟨["fo", "format"], wordFormat⟩,
   ⟨["ka", "katakana"], katakanaWord⟩,
   ⟨["hl", "hebrewletter"], hebrewLetter⟩,
   ⟨["le", "aletter"], wordLetter⟩,
   ⟨["sq", "singlequote"], .singleton 0x27⟩,
   ⟨["dq", "doublequote"], .singleton 0x22⟩,
   ⟨["mb", "midnumlet"], midNumberOrLetter⟩,
   ⟨["ml", "midletter"], midLetter⟩,
   ⟨["mn", "midnum"], midNumber⟩,
   ⟨["nu", "numeric"], numeric.difference (.singleton 0x66C)⟩,
   ⟨["ex", "extendnumlet"], connectorPunctuation.union (.singleton 0x202F)⟩,
   ⟨["wsegspace"], wordSpace⟩]

end TypeGuard.Pattern.Property
