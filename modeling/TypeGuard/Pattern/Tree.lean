import TypeGuard.Pattern.Property.Word

/-!
Patterns as trees. Only whether a text contains a match is of interest, so the tree keeps no
preferences between matches. Captures are kept, since they count towards the size of a pattern.
-/

namespace TypeGuard.Pattern

/-- The characters of words, among all characters or among the ASCII ones only. -/
def wordSet (unicode : Bool) : CharSet :=
  if unicode then Property.word
  else ⟨[(0x30, 0x39), (0x41, 0x5A), (0x5F, 0x5F), (0x61, 0x7A)]⟩

/-- A condition on the characters to both sides of a place in a text. -/
inductive Assertion where
  | textStart
  | textEnd
  | lineStart (crlf : Bool)
  | lineEnd (crlf : Bool)
  | wordBoundary (unicode : Bool)
  | notWordBoundary (unicode : Bool)
  | wordStart (unicode : Bool)
  | wordEnd (unicode : Bool)
  | wordStartHalf (unicode : Bool)
  | wordEndHalf (unicode : Bool)
  deriving DecidableEq, Repr

namespace Assertion

def inWord (unicode : Bool) (c : Option Char) : Bool := c.any (wordSet unicode).contains

def holds : Assertion → Option Char → Option Char → Bool
  | textStart, before, _ => before.isNone
  | textEnd, _, behind => behind.isNone
  | lineStart crlf, before, behind =>
    before.isNone || before = some '\n' || (crlf && before = some '\r' && behind ≠ some '\n')
  | lineEnd crlf, before, behind =>
    behind.isNone || (crlf && behind = some '\r')
      || (behind = some '\n' && !(crlf && before = some '\r'))
  | wordBoundary u, before, behind => inWord u before != inWord u behind
  | notWordBoundary u, before, behind => inWord u before == inWord u behind
  | wordStart u, before, behind => !inWord u before && inWord u behind
  | wordEnd u, before, behind => inWord u before && !inWord u behind
  | wordStartHalf u, before, _ => !inWord u before
  | wordEndHalf u, _, behind => !inWord u behind

end Assertion

inductive Atom where
  | one (set : CharSet)
  | assertion (a : Assertion)
  deriving DecidableEq, Repr

inductive Tree (α : Type) where
  | empty
  | atom (a : α)
  | sequence (first second : Tree α)
  | choice (first second : Tree α)
  /-- At least `least` times, and at most `most` times if a bound is given. -/
  | repetition (body : Tree α) (least : Nat) (most : Option Nat)
  | capture (body : Tree α)
  deriving DecidableEq, Repr

def Tree.map {α β : Type} (f : α → β) : Tree α → Tree β
  | empty => empty
  | atom a => atom (f a)
  | sequence s t => sequence (s.map f) (t.map f)
  | choice s t => choice (s.map f) (t.map f)
  | repetition s least most => repetition (s.map f) least most
  | capture s => capture (s.map f)

end TypeGuard.Pattern
