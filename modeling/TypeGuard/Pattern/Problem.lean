/-!
Why the text of a pattern is refused.
-/

namespace TypeGuard.Pattern

inductive Problem where
  | unclosedGroup
  | unopenedGroup
  | lookAround
  | emptyGroupName
  | invalidGroupName
  | unclosedGroupName
  | repeatedGroupName (name : String)
  | unclosedFlags
  | unknownFlag (flag : Char)
  | repeatedFlag
  | danglingNegation
  | nothingToRepeat
  | unclosedCount
  | emptyCount
  | hugeCount
  | invertedCount
  | unclosedEscape
  | unknownEscape (letter : Char)
  | backReference
  | invalidHex
  | unknownProperty
  | unclosedBoundary
  | unknownBoundary
  | unclosedClass
  | notInClass
  | invalidRange
  | deepNesting
  | notUnicode
  | tooLarge
  deriving DecidableEq, Repr

def Problem.message : Problem → String
  | unclosedGroup => "unclosed group"
  | unopenedGroup => "unopened group"
  | lookAround => "look-around is not supported"
  | emptyGroupName => "empty group name"
  | invalidGroupName => "invalid character in a group name"
  | unclosedGroupName => "unclosed group name"
  | repeatedGroupName name => "group name '" ++ name ++ "' is used twice"
  | unclosedFlags => "unclosed group of flags"
  | unknownFlag flag => "unknown flag '" ++ flag.toString ++ "'"
  | repeatedFlag => "repeated flag"
  | danglingNegation => "negation without a flag"
  | nothingToRepeat => "repetition without an expression"
  | unclosedCount => "unclosed repetition count"
  | emptyCount => "repetition count without a number"
  | hugeCount => "repetition count is too large"
  | invertedCount => "repetition count ends below its start"
  | unclosedEscape => "incomplete escape"
  | unknownEscape letter => "unknown escape '" ++ letter.toString ++ "'"
  | backReference => "back-references are not supported"
  | invalidHex => "invalid code point"
  | unknownProperty => "unknown character property"
  | unclosedBoundary => "unclosed word boundary"
  | unknownBoundary => "unknown word boundary"
  | unclosedClass => "unclosed character class"
  | notInClass => "this escape has no meaning in a character class"
  | invalidRange => "invalid range in a character class"
  | deepNesting => "the parts are nested too deeply"
  | notUnicode => "this expression can match part of a character"
  | tooLarge => "the pattern is too large"

end TypeGuard.Pattern
