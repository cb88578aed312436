import TypeGuard.Output.Files
import TypeGuard.Schema.Resolve

/-!
From a source text to the generated files.

Every stage may be followed by a hook, which sees its result and may replace it. A rejection at any
stage is shown with the source text.
-/

namespace TypeGuard

/-- The label of a source text that has no name. -/
def inlineLabel : String := "<inline>"

/-- What is done after each stage, in a monad of the caller's choice. -/
structure Hooks (m : Type → Type) where
  afterTokens : List Token → m (List Token)
  afterDeclarations : List Declaration → m (List Declaration)
  afterSchema : Schema → m Schema
  afterFiles : Files → m Files

def Hooks.none {m : Type → Type} [Pure m] : Hooks m := ⟨pure, pure, pure, pure⟩

/-- A source text is attached to a rejection. -/
def shown {α : Type} (source : Source) : Except Diagnostic α → Except Diagnostic α
  | .ok a => .ok a
  | .error d => .error (d.attach source.label source.text)

def resolveHooked {m : Type → Type} [Monad m] (hooks : Hooks m) (source : Source) :
    ExceptT Diagnostic m Schema := do
  let tokens ← hooks.afterTokens (← shown source (tokenize source.text))
  let declarations ← hooks.afterDeclarations (← shown source (group tokens))
  hooks.afterSchema (← shown source (resolve declarations))

def compileHooked {m : Type → Type} [Monad m] (hooks : Hooks m) (source : Source) :
    ExceptT Diagnostic m Files := do
  hooks.afterFiles (← resolveHooked hooks source).files

def resolveSource (text : String) : Except Diagnostic Schema :=
  Id.run (resolveHooked Hooks.none ⟨inlineLabel, text⟩).run

def compileAs (label text : String) : Except Diagnostic Files :=
  Id.run (compileHooked Hooks.none ⟨label, text⟩).run

def compile (text : String) : Except Diagnostic Files := compileAs inlineLabel text

end TypeGuard
