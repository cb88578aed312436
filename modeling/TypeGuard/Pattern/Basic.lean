import TypeGuard.Pattern.Footprint
import TypeGuard.Pattern.Reader
import TypeGuard.Pattern.Search

/-!
Patterns: a text and the tree that it was read as.
-/

namespace TypeGuard

structure Pattern where
  source : String
  tree : Pattern.Tree Pattern.Atom
  deriving DecidableEq, Repr

namespace Pattern

def ofText (flags : Flags) (source : String) : Except Problem Pattern := do
  let tree ← readTree flags source
  if tree.isSmall then return ⟨source, tree⟩ else throw .tooLarge

def foundIn (p : Pattern) (text : String) : Bool := p.tree.matchesIn text.toList

end Pattern

end TypeGuard
