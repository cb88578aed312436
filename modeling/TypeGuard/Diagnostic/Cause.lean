import TypeGuard.Token.Basic

/-!
Why a schema is rejected. Every reason is a value with one wording; the four groups of reasons are
the categories under which they are reported.
-/

namespace TypeGuard

inductive Category where
  | lexical
  | structural
  | reference
  | conversion
  deriving DecidableEq, Repr, Inhabited

def Category.label : Category → String
  | .lexical => "LexicalError"
  | .structural => "StructuralError"
  | .reference => "ReferenceError"
  | .conversion => "TypeConversionError"

/-- The text cannot be cut into tokens. -/
inductive LexicalProblem where
  /-- No token starts with this character. -/
  | unexpectedSymbol (symbol : Char)
  /-- A token of this kind may not stand here. -/
  | misplaced (kind : Kind) (text : String)
  deriving DecidableEq, Repr

def LexicalProblem.message : LexicalProblem → String
  | unexpectedSymbol symbol => "Unexpected symbol '" ++ symbol.toString ++ "'"
  | misplaced .newline _ => "Unexpected newline"
  | misplaced .whitespace _ => "Unexpected whitespace"
  | misplaced _ text => "Unexpected token '" ++ text ++ "'"

/-- What a declaration needs at some place. -/
inductive Expectation where
  /-- The name behind a reserved word. -/
  | name (keyword : String)
  /-- The brace that opens the block of a declaration. -/
  | block (owner : String)
  deriving DecidableEq, Repr

def Expectation.text : Expectation → String
  | name keyword => keyword ++ " name"
  | block owner => "'\x7b' after '" ++ owner ++ "'"

/-- The tokens do not form declarations, or an expression is malformed. -/
inductive StructuralProblem where
  /-- A closer meets an opener of the other pair. -/
  | mismatched (closer : String) (opener : Token)
  | unmatched (closer : String)
  | unclosed (opener : String)
  /-- No declaration starts with this token. -/
  | notADeclaration (found : Token)
  | expected (what : Expectation) (found : Token)
  | endOfInput (what : Expectation)
  | emptyAlias (name : String)
  | notAPropertyName (found : Token)
  | unconstrained (property : String)
  | endlessBlock
  | nestedBlock
  /-- A configuration line is not a name and a value. -/
  | settingShape
  | settingName (text : String)
  | settingValue (text : String)
  /-- A term of an expression starts with this text. -/
  | unexpectedTerm (text : String)
  | endlessCall (callee : String)
  | expectedArgument (found : String)
  | expectedSeparator (found : String)
  deriving DecidableEq, Repr

def StructuralProblem.message : StructuralProblem → String
  | mismatched closer opener =>
    "Mismatched '" ++ closer ++ "', '" ++ opener.text ++ "' opened at "
      ++ toString opener.position.line ++ ":" ++ toString opener.position.column
      ++ " is not closed"
  | unmatched closer => "Unmatched '" ++ closer ++ "'"
  | unclosed opener => "Unclosed '" ++ opener ++ "'"
  | notADeclaration found => "Unexpected " ++ found.describe
  | expected what found => "Expected " ++ what.text ++ ", found " ++ found.describe
  | endOfInput what => "Unexpected end of input, expected " ++ what.text
  | emptyAlias name => "Alias '" ++ name ++ "' has an empty body"
  | notAPropertyName found => "Expected property name, found " ++ found.describe
  | unconstrained property => "Property '" ++ property ++ "' does not have any constraints"
  | endlessBlock => "Unexpected end of input, block is never closed"
  | nestedBlock => "Blocks cannot be nested"
  | settingShape => "Incorrect configuration syntax, expected `name value`"
  | settingName text => "Incorrect configuration syntax, '" ++ text ++ "' is not a name"
  | settingValue text => "Incorrect configuration syntax, '" ++ text ++ "' is not a literal"
  | unexpectedTerm text => "Unexpected token '" ++ text ++ "'"
  | endlessCall callee => "Argument list of '" ++ callee ++ "' is not closed"
  | expectedArgument found => "Expected an argument, found '" ++ found ++ "'"
  | expectedSeparator found => "Expected ',' or ')', found '" ++ found ++ "'"

/-- A name is used in a way that its declaration does not allow. -/
inductive ReferenceProblem where
  | redeclared (name : String)
  /-- Two declarations lead to the same name in the generated module. -/
  | taken (symbol owner previous : String)
  | repeatedProperty (property owner : String)
  | notAFactory (name : String)
  | uncalledFactory (name : String)
  | unknown (name : String)
  | severalConstraints (name : String)
  deriving DecidableEq, Repr

def ReferenceProblem.message : ReferenceProblem → String
  | redeclared name => "Identifier '" ++ name ++ "' has already been declared"
  | taken symbol owner previous =>
    "Generated name '" ++ symbol ++ "' of '" ++ owner ++ "' is already used by '" ++ previous ++ "'"
  | repeatedProperty property owner =>
    "Property '" ++ property ++ "' is declared twice in '" ++ owner ++ "'"
  | notAFactory name => "Identifier '" ++ name ++ "' is not a factory"
  | uncalledFactory name => "Factory '" ++ name ++ "' wasn't called"
  | unknown name => "Identifier '" ++ name ++ "' does not exist"
  | severalConstraints name =>
    "Cannot pass '" ++ name ++ "' as a parameter, it resolves to more than one constraint"

/-- What an argument of a call is, or should be. -/
inductive ArgumentKind where
  | number
  | string
  | boolean
  | constraint
  deriving DecidableEq, Repr

def ArgumentKind.label : ArgumentKind → String
  | number => "number"
  | string => "string"
  | boolean => "boolean"
  | constraint => "constraint"

/-- A literal does not convert, or a factory refuses its arguments. -/
inductive ConversionProblem where
  | notFinite (text : String)
  | notPrimitive (text : String)
  | arity (factory : String) (least most found : Nat)
  /-- The argument with this index, counted from zero, has the wrong kind. -/
  | argument (factory : String) (index : Nat) (expected found : ArgumentKind)
  /-- There is no argument with this index. -/
  | missing (factory : String) (index : Nat) (expected : ArgumentKind)
  | emptyPattern
  | repeatedFlag (flag : Char)
  | unknownFlag (flag : Char)
  | malformedPattern (reason : String)
  deriving DecidableEq, Repr

def ConversionProblem.message : ConversionProblem → String
  | notFinite text => "Cannot convert '" ++ text ++ "' to a finite number"
  | notPrimitive text => "Cannot convert '" ++ text ++ "' to a primitive"
  | arity factory least most found =>
    factory ++ " expects "
      ++ (if least = most then "exactly " ++ toString least
          else toString least ++ "-" ++ toString most)
      ++ " argument(s), found " ++ toString found
  | argument factory index expected found =>
    factory ++ " expects a " ++ expected.label ++ " as argument " ++ toString (index + 1)
      ++ ", got " ++ found.label
  | missing factory index expected =>
    factory ++ " expects a " ++ expected.label ++ " as argument " ++ toString (index + 1)
  | emptyPattern => "match expects a non-empty pattern"
  | repeatedFlag flag => "Duplicate regular expression flag '" ++ flag.toString ++ "'"
  | unknownFlag flag => "Invalid regular expression flag '" ++ flag.toString ++ "'"
  | malformedPattern reason => "Invalid regular expression: " ++ reason

/-- Why a schema is rejected. -/
inductive Cause where
  | lexical (problem : LexicalProblem)
  | structural (problem : StructuralProblem)
  | reference (problem : ReferenceProblem)
  | conversion (problem : ConversionProblem)
  /-- A reason stated from outside, by a factory that is not one of the standard ones. -/
  | reported (category : Category) (text : String)
  deriving DecidableEq, Repr

def Cause.category : Cause → Category
  | lexical _ => .lexical
  | structural _ => .structural
  | reference _ => .reference
  | conversion _ => .conversion
  | reported category _ => category

def Cause.message : Cause → String
  | lexical problem => problem.message
  | structural problem => problem.message
  | reference problem => problem.message
  | conversion problem => problem.message
  | reported _ text => text

end TypeGuard
