/-!
The lexical categories of the schema language, their names in messages, and the table that says
which of them may follow which.
-/

namespace TypeGuard

inductive Keyword where
  | config
  | typeAlias
  | define
  | model
  deriving DecidableEq, Repr, Inhabited

def Keyword.text : Keyword → String
  | .config => "config"
  | .typeAlias => "alias"
  | .define => "define"
  | .model => "model"

inductive Kind where
  | number
  | string
  | boolean
  | keyword (word : Keyword)
  | identifier
  | whitespace
  | newline
  | comment
  | openBrace
  | closeBrace
  | openParen
  | closeParen
  | comma
  deriving DecidableEq, Repr, Inhabited

namespace Kind

def isKeyword : Kind → Bool
  | keyword _ => true
  | _ => false

def isLiteral : Kind → Bool
  | number | string | boolean => true
  | _ => false

/-- Whether tokens of this kind are dropped before declarations are formed. Newlines are kept, as
they end lines. -/
def isLayout : Kind → Bool
  | whitespace | comment => true
  | _ => false

def label : Kind → String
  | number => "number"
  | string => "string"
  | boolean => "boolean"
  | keyword word => "'" ++ word.text ++ "'"
  | identifier => "identifier"
  | whitespace => "whitespace"
  | newline => "newline"
  | comment => "comment"
  | openBrace => "'\x7b'"
  | closeBrace => "'\x7d'"
  | openParen => "'('"
  | closeParen => "')'"
  | comma => "','"

def literals : List Kind := [number, string, boolean]

def keywords : List Kind := [keyword .config, keyword .typeAlias, keyword .define, keyword .model]

/-- The kinds that may follow a token of the given kind, or open a text when there is none. -/
def successors : Option Kind → List Kind
  | none => keywords ++ [newline, whitespace, comment]
  | some newline => keywords ++ [identifier, closeBrace, whitespace, comment]
  | some whitespace =>
    comma :: literals ++ keywords ++ [identifier, newline, openBrace, closeBrace, comment]
  | some comment => [newline]
  | some (keyword .config) => [newline, whitespace, openBrace]
  | some (keyword _) => [whitespace]
  | some identifier => [comma, newline, whitespace, openParen, closeParen]
  | some number | some string | some boolean => [newline, whitespace, closeParen, comma]
  | some openBrace | some closeBrace => [newline, whitespace]
  | some openParen => identifier :: literals ++ [whitespace, closeParen]
  | some closeParen => [identifier, whitespace, newline, comma, closeParen]
  | some comma => identifier :: literals ++ [whitespace]

def mayFollow (previous : Option Kind) (next : Kind) : Bool :=
  (successors previous).contains next

end Kind

end TypeGuard
