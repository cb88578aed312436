import TypeGuard.Diagnostic.Basic
import TypeGuard.Token.Lexeme

/-!
Cutting a source text into tokens.

At every place the kinds are tried in a fixed order and the first one with a piece in front wins.
It must be a kind that may follow the one before. Inside a block the reserved words are not tried,
so there they are names.
-/

namespace TypeGuard

/-- The order in which kinds are tried. -/
def Kind.priority : List Kind :=
  [.newline, .whitespace, .comment] ++ Kind.keywords
    ++ [.boolean, .identifier, .number, .string,
        .openBrace, .closeBrace, .openParen, .closeParen, .comma]

namespace Scan

structure State where
  previous : Option Kind
  inBlock : Bool
  position : Position
  deriving DecidableEq, Repr

def State.initial : State := ⟨none, false, .start⟩

def State.next (s : State) (kind : Kind) (piece : List Char) : State where
  previous := some kind
  inBlock := match kind with
    | .openBrace => true
    | .closeBrace => false
    | _ => s.inBlock
  position := s.position.advance piece

/-- The first kind, in the order of priority, that has a piece in front of the characters. -/
def candidate (inBlock : Bool) (cs : List Char) : Option (Kind × List Char) :=
  Kind.priority.findSome? fun kind =>
    if inBlock && kind.isKeyword then none
    else match kind.lexeme cs with
      | [] => none
      | piece => some (kind, piece)

/-- The next token, if there is one and it may stand here. -/
def nextToken (s : State) (first : Char) (rest : List Char) :
    Except Diagnostic (Kind × List Char) :=
  match candidate s.inBlock (first :: rest) with
  | none => .error (.placed (.lexical (.unexpectedSymbol first)) ⟨s.position, 1⟩)
  | some (kind, piece) =>
    if Kind.mayFollow s.previous kind then .ok (kind, piece)
    else
      let token : Token := ⟨kind, String.ofList piece, s.position⟩
      .error (token.reject (.lexical (.misplaced kind token.text)))

/-- Cuts characters into tokens, with `skip` characters of the last token still to pass. -/
def tokensFrom (s : State) : Nat → List Char → Except Diagnostic (List Token)
  | _, [] => .ok []
  | skip + 1, _ :: rest => tokensFrom s skip rest
  | 0, c :: rest =>
    match nextToken s c rest with
    | .error d => .error d
    | .ok (kind, piece) =>
      match tokensFrom (s.next kind piece) (piece.length - 1) rest with
      | .error d => .error d
      | .ok tokens => .ok (⟨kind, String.ofList piece, s.position⟩ :: tokens)

theorem tokensFrom_skip (s : State) (skip : Nat) (cs : List Char) :
    tokensFrom s skip cs = tokensFrom s 0 (cs.drop skip) := by
  induction skip generalizing cs with
  | zero => simp
  | succ n ih =>
    cases cs with
    | nil => simp [tokensFrom]
    | cons c rest => simpa [tokensFrom] using ih rest

end Scan

/-- Cuts a source text into tokens, layout included. -/
def tokenize (source : String) : Except Diagnostic (List Token) :=
  Scan.tokensFrom .initial 0 source.toList

end TypeGuard
