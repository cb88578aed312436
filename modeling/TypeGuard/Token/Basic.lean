import TypeGuard.Text.Lines
import TypeGuard.Token.Kind

/-!
Tokens: a kind, the exact text, and the place where it starts.
-/

namespace TypeGuard

/-- A place in a source text. Lines and columns count from one, columns in characters. -/
structure Position where
  line : Nat
  column : Nat
  deriving DecidableEq, Repr, Inhabited

namespace Position

def start : Position := ⟨1, 1⟩

def step (p : Position) (c : Char) : Position :=
  if c = '\n' then ⟨p.line + 1, 1⟩ else ⟨p.line, p.column + 1⟩

def advance (p : Position) (cs : List Char) : Position :=
  cs.foldl step p

@[simp] theorem advance_nil (p : Position) : p.advance [] = p := rfl

@[simp] theorem advance_cons (p : Position) (c : Char) (cs : List Char) :
    p.advance (c :: cs) = (p.step c).advance cs := rfl

theorem advance_append (p : Position) (cs ds : List Char) :
    p.advance (cs ++ ds) = (p.advance cs).advance ds := by
  simp [advance, List.foldl_append]

end Position

/-- A stretch of one source line, which a message points at. -/
structure Span where
  position : Position
  /-- Length in characters. -/
  length : Nat
  deriving DecidableEq, Repr, Inhabited

/-- Number of characters to highlight, at least one. -/
def Span.width (s : Span) : Nat := max s.length 1

structure Token where
  kind : Kind
  text : String
  position : Position
  deriving DecidableEq, Repr, Inhabited

namespace Token

/-- The span of the first line of a token. -/
def span (t : Token) : Span :=
  ⟨t.position, (Text.firstLine t.text).length⟩

/-- A token as messages name it: with its text where the kind alone says too little. -/
def describe (t : Token) : String :=
  match t.kind with
  | .identifier | .number | .string | .boolean => t.kind.label ++ " '" ++ t.text ++ "'"
  | _ => t.kind.label

end Token

end TypeGuard
