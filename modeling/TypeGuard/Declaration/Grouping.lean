import TypeGuard.Declaration.Basic
import TypeGuard.Declaration.Nesting
import TypeGuard.Literal
import TypeGuard.Token.Scan

/-!
Grouping tokens into declarations.

The nesting of brackets is checked first, on all tokens. White space and comments are then dropped,
and declarations are read off one after the other, with newlines between them.
-/

namespace TypeGuard.Grouping

def isNewline (t : Token) : Bool := t.kind = .newline

def isBrace (t : Token) : Bool := t.kind = .openBrace || t.kind = .closeBrace

/-- The first token, which must be of the given kind, and the tokens behind it. Where the tokens
have run out, the anchor is reported. -/
def expect (kind : Kind) (what : Expectation) (anchor : Token) :
    List Token → Except Diagnostic (Token × List Token)
  | [] => .error (anchor.malformed (.endOfInput what))
  | t :: rest =>
    if t.kind = kind then .ok (t, rest) else .error (t.malformed (.expected what t))

/-- The runs of tokens between newlines, empty ones included. -/
def splitRuns : List Token → List (List Token)
  | [] => [[]]
  | t :: rest =>
    if isNewline t then [] :: splitRuns rest
    else match splitRuns rest with
      | [] => [[t]]
      | run :: more => (t :: run) :: more

/-- The lines of a block: the runs of tokens between newlines that are not empty, each as its first
token and the tokens behind it. -/
def lines (body : List Token) : List (Token × List Token) :=
  (splitRuns body).filterMap fun
    | [] => none
    | first :: rest => some (first, rest)

/-- The lines up to the closing brace, and the tokens behind it. -/
def block (opener : Token) (tokens : List Token) :
    Except Diagnostic (List (Token × List Token) × List Token) :=
  match tokens.dropWhile (!isBrace ·) with
  | [] => .error (opener.malformed .endlessBlock)
  | brace :: rest =>
    if brace.kind = .closeBrace then .ok (lines (tokens.takeWhile (!isBrace ·)), rest)
    else .error (brace.malformed .nestedBlock)

/-- Whether a text stands between two quotes of the same sort. -/
def isQuoted (text : String) : Bool :=
  match text.toList with
  | first :: second :: rest =>
    (first = '"' || first = '\'') && (second :: rest).getLast? = some first
  | _ => false

/-- The kind that a configuration value has by its text alone. -/
def valueKind (t : Token) : Kind :=
  if t.text = "true" || t.text = "false" then .boolean
  else if (Literal.finite? t.text).isSome then .number
  else if isQuoted t.text then .string
  else t.kind

/-- A configuration line: a name and a value, and nothing else. -/
def setting : Token × List Token → Except Diagnostic Setting
  | (key, [value]) => .ok ⟨key, { value with kind := valueKind value }⟩
  | (first, _) => .error (first.malformed .settingShape)

/-- A property line: a name and at least one token of an expression. -/
def property : Token × List Token → Except Diagnostic PropertyLine
  | (name, expression) =>
    if name.kind ≠ .identifier then .error (name.malformed (.notAPropertyName name))
    else if expression.isEmpty then .error (name.malformed (.unconstrained name.text))
    else .ok ⟨name, expression⟩

def config (keyword : Token) (tokens : List Token) :
    Except Diagnostic (Declaration × List Token) := do
  let (opener, rest) ←
    expect .openBrace (.block "config") keyword (tokens.dropWhile isNewline)
  let (ls, rest) ← block opener rest
  let settings ← ls.mapM setting
  return (.config keyword settings, rest)

/-- Reads an alias behind its reserved word. Its body runs to the end of the line. -/
def typeAlias (keyword : Token) (tokens : List Token) :
    Except Diagnostic (Declaration × List Token) := do
  let (name, rest) ← expect .identifier (.name "alias") keyword tokens
  match rest.takeWhile (!isNewline ·) with
  | [] => throw (name.malformed (.emptyAlias name.text))
  | body => return (.typeAlias name body, (rest.dropWhile (!isNewline ·)).drop 1)

def record (sort : RecordSort) (keyword : Token) (tokens : List Token) :
    Except Diagnostic (Declaration × List Token) := do
  let (name, rest) ← expect .identifier (.name keyword.text) keyword tokens
  let (opener, rest) ← expect .openBrace (.block name.text) name (rest.dropWhile isNewline)
  let (ls, rest) ← block opener rest
  let properties ← ls.mapM property
  return (.record sort name properties, rest)

/-- Reads the declaration that starts with the given token, and returns the tokens behind it. -/
def declaration (first : Token) (rest : List Token) :
    Except Diagnostic (Declaration × List Token) :=
  match first.kind with
  | .keyword .config => config first rest
  | .keyword .typeAlias => typeAlias first rest
  | .keyword .define => record .definition first rest
  | .keyword .model => record .model first rest
  | _ => .error (first.malformed (.notADeclaration first))

/-- Reads declarations, with `skip` tokens of the last one still to pass. -/
def declarationsFrom : Nat → List Token → Except Diagnostic (List Declaration)
  | _, [] => .ok []
  | skip + 1, _ :: rest => declarationsFrom skip rest
  | 0, t :: rest =>
    if isNewline t then declarationsFrom 0 rest
    else match declaration t rest with
      | .error d => .error d
      | .ok (first, behind) =>
        match declarationsFrom (rest.length - behind.length) rest with
        | .error d => .error d
        | .ok more => .ok (first :: more)

theorem declarationsFrom_skip (skip : Nat) (tokens : List Token) :
    declarationsFrom skip tokens = declarationsFrom 0 (tokens.drop skip) := by
  induction skip generalizing tokens with
  | zero => simp
  | succ n ih =>
    cases tokens with
    | nil => simp [declarationsFrom]
    | cons t rest => simpa [declarationsFrom] using ih rest

end Grouping

def group (tokens : List Token) : Except Diagnostic (List Declaration) := do
  Nesting.check tokens
  Grouping.declarationsFrom 0 (tokens.filter (!·.kind.isLayout))

def parse (source : String) : Except Diagnostic (List Declaration) := do
  group (← tokenize source)

end TypeGuard
