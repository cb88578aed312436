import TypeGuard.Compile
import TypeGuard.Declaration.Canonical

/-!
Runs in which partial operations are checked.

Five operations of the library have a natural domain that their callers must keep to: a text is cut
between two byte positions, the first entry is taken from a line of a block (in two places) and from
the arguments of a call, and the length of a name is subtracted from the width of its block. Here
each of them ends the run with a crash outside its domain. A stage that applies one is given again
with the checked operation in its place; every other stage is used as it stands, under `total`.
-/

namespace TypeGuard

inductive Failure where
  /-- An operation was applied outside its domain. -/
  | crash
  | rejection (d : Diagnostic)
  deriving DecidableEq, Repr

/-- A run in which partial operations are checked. -/
abbrev Checked (α : Type) := Except Failure α

namespace Checked

variable {α : Type}

/-- An operation is applied outside its domain. -/
def crash : Checked α := .error .crash

/-- A computation without partial operations, which can only be rejected. -/
def total (x : Except Diagnostic α) : Checked α := x.mapError .rejection

/-! ### Partial operations -/

/-- The difference of two numbers, the second of which must not exceed the first. -/
def sub (a b : Nat) : Checked Nat :=
  if b ≤ a then .ok (a - b) else crash

/-- The first entry of a list that must not be empty, and the entries behind it. -/
def takeFirst : List α → Checked (α × List α)
  | [] => crash
  | a :: rest => .ok (a, rest)

/-- The part of a text between two byte positions, which must be in order, lie in the text and not
fall inside a character. -/
def slice (text : String) (start stop : Nat) : Checked String :=
  if start ≤ stop ∧ String.Pos.Raw.isValid text ⟨start⟩ ∧ String.Pos.Raw.isValid text ⟨stop⟩ then
    .ok (String.Pos.Raw.extract text ⟨start⟩ ⟨stop⟩)
  else crash

/-- A text without its first and its last byte. -/
def interior (text : String) : Checked String := do
  slice text 1 (← sub text.utf8ByteSize 1)

/-! ### Declarations -/

def lines (body : List Token) : List (List Token) :=
  (Grouping.splitRuns body).filter (!·.isEmpty)

def block (opener : Token) (tokens : List Token) : Checked (List (List Token) × List Token) :=
  match tokens.dropWhile (!Grouping.isBrace ·) with
  | [] => total (.error (opener.malformed .endlessBlock))
  | brace :: rest =>
    if brace.kind = .closeBrace then
      .ok (lines (tokens.takeWhile (!Grouping.isBrace ·)), rest)
    else total (.error (brace.malformed .nestedBlock))

/-- A configuration line of another length is reported at its first token. -/
def settingLine : List Token → Checked Setting
  | [key, value] => .ok ⟨key, { value with kind := Grouping.valueKind value }⟩
  | line => do
    let (first, _) ← takeFirst line
    total (.error (first.malformed .settingShape))

/-- The name of a property is the first token of its line. -/
def propertyLine (line : List Token) : Checked PropertyLine := do
  total (Grouping.property (← takeFirst line))

def configBlock (keyword : Token) (tokens : List Token) : Checked (Declaration × List Token) := do
  let (opener, rest) ← total
    (Grouping.expect .openBrace (.block "config") keyword (tokens.dropWhile Grouping.isNewline))
  let (ls, rest) ← block opener rest
  let settings ← ls.mapM settingLine
  return (.config keyword settings, rest)

def recordBlock (sort : RecordSort) (keyword : Token) (tokens : List Token) :
    Checked (Declaration × List Token) := do
  let (name, rest) ← total (Grouping.expect .identifier (.name keyword.text) keyword tokens)
  let (opener, rest) ← total
    (Grouping.expect .openBrace (.block name.text) name (rest.dropWhile Grouping.isNewline))
  let (ls, rest) ← block opener rest
  let properties ← ls.mapM propertyLine
  return (.record sort name properties, rest)

def declaration (first : Token) (rest : List Token) : Checked (Declaration × List Token) :=
  match first.kind with
  | .keyword .config => configBlock first rest
  | .keyword .define => recordBlock .definition first rest
  | .keyword .model => recordBlock .model first rest
  | _ => total (Grouping.declaration first rest)

def declarationsFrom : Nat → List Token → Checked (List Declaration)
  | _, [] => .ok []
  | skip + 1, _ :: rest => declarationsFrom skip rest
  | 0, t :: rest =>
    if Grouping.isNewline t then declarationsFrom 0 rest
    else do
      let (first, behind) ← declaration t rest
      let more ← declarationsFrom (rest.length - behind.length) rest
      return first :: more

def group (tokens : List Token) : Checked (List Declaration) := do
  total (Nesting.check tokens)
  declarationsFrom 0 (tokens.filter (!·.kind.isLayout))

def parse (source : String) : Checked (List Declaration) := do
  group (← total (tokenize source))

/-! ### Canonical layout -/

/-- The padding of a name is what the width of the block leaves. -/
def row (width : Nat) (name value : String) : Checked String := do
  let padding ← sub width name.length
  return "    " ++ name ++ String.ofList (List.replicate padding ' ') ++ " " ++ value ++ "\n"

def printedBlock (head : String) (rows : List (String × String)) : Checked String := do
  let texts ← rows.mapM fun r => row (Canonical.width rows) r.1 r.2
  return head ++ " \x7b\n" ++ String.join texts ++ "\x7d"

def printed : Declaration → Checked String
  | .config _ settings => printedBlock "config" (settings.map fun s => (s.key.text, s.value.text))
  | .typeAlias name body => .ok (Canonical.declaration (.typeAlias name body))
  | .record sort name properties =>
    printedBlock (sort.keyword.text ++ " " ++ name.text)
      (properties.map fun p => (p.name.text, Canonical.expression p.expression))

def printedAfter (previous : Declaration) : List Declaration → Checked String
  | [] => .ok ""
  | d :: rest => do
    let text ← printed d
    let more ← printedAfter d rest
    return (if Canonical.isAlias previous && Canonical.isAlias d then "\n" else "\n\n") ++ text
      ++ more

def printedSchema (ds : List Declaration) : Checked String :=
  match Canonical.ordered ds with
  | [] => .ok ""
  | d :: rest => do
    let text ← printed d
    let more ← printedAfter d rest
    return text ++ more ++ "\n"

def format (source : String) : Checked String := do
  printedSchema (← parse source)

/-! ### Expressions -/

/-- The value of a quoted text lies between its quotes. -/
def literal (t : Token) : Checked Literal :=
  match t.kind with
  | .string => return .string (← interior t.text)
  | _ => total (Literal.ofToken t)

/-- The one argument is taken out of the list once the list is known to have one entry. -/
def optional (call : Call) (args : List Argument) : Checked Constraint := do
  total (call.checkArity args 1 1)
  let (first, _) ← takeFirst args
  total (Factory.optional call [first])

def build (factory : Factory) (call : Call) (args : List Argument) : Checked Constraint :=
  -- no other standard factory takes an argument out of the list
  if factory.name = "optional" then optional call args else total (factory.build call args)

section Expression

open Expression

def invoke (s : State) (frame : Frame) (outer : List Frame) : Checked State := do
  let id := s.calls + 1
  let c ← build frame.factory ⟨frame.callee, id⟩ frame.arguments
  total (State.deliver { s with frames := outer, calls := id } frame.callee (.constraint c))

def argument (scope : Scope) (s : State) (frame : Frame) (outer : List Frame) (t : Token)
    (called : Bool) : Checked State :=
  if t.kind.isLiteral then do
    let value ← literal t
    let frame := { frame with
      arguments := frame.arguments ++ [.literal value], phase := .separator }
    return { s with frames := frame :: outer }
  else total (s.argument scope frame outer t called)

def step (scope : Scope) (s : State) (t : Token) (called : Bool) : Checked State :=
  match s.frames with
  | [] => total (s.step scope t called)
  | frame :: outer =>
    match frame.phase with
    -- here and at the end no literal is read and no factory is invoked
    | .opening => total (s.step scope t called)
    | .first =>
      if t.kind = .closeParen then invoke s frame outer
      else argument scope s frame outer t called
    | .argument => argument scope s frame outer t called
    | .separator =>
      if t.kind = .closeParen then invoke s frame outer
      else total (s.step scope t called)

def run (scope : Scope) (s : State) : List Token → Checked State
  | [] => total (s.run scope [])
  | t :: rest => do
    let s ← step scope s t (opensNext rest)
    run scope s rest

def expression (scope : Scope) (calls : Nat) (tokens : List Token) : Checked Outcome := do
  let s ← run scope ⟨[], [], calls, []⟩ tokens
  return ⟨s.results, s.calls, s.references⟩

end Expression

/-! ### Schemas -/

section Resolution

open Resolution

def setting (c : Configuration) (s : Setting) : Checked Configuration :=
  if s.key.kind = .identifier ∧ s.value.kind.isLiteral then do
    let value ← literal s.value
    return c.insert s.key.text value
  else total (Resolution.setting c s)

def typeAlias (registry : Registry) (r : Resolution) (name : Token) (body : List Token) :
    Checked Resolution := do
  let scope : Scope := ⟨registry, r.bindings⟩
  total (checkFree scope name)
  let symbols ← total (reserve name.text (Role.typeAlias.symbol name.text) name r.symbols)
  let outcome ← expression scope r.calls body
  let constraints := outcome.terms.flatMap aliasConstraints
  return { r with
    aliases := r.aliases ++ [⟨name.text, constraints⟩]
    dependencies := r.dependencies ++ [(name.text, outcome.references.eraseDups)]
    bindings := r.bindings ++ [(name.text, Binding.typeAlias constraints)]
    symbols := symbols
    calls := outcome.calls }

def property (scope : Scope) (owner : String) (p : Progress) (line : PropertyLine) :
    Checked Progress := do
  let name := line.name.text
  if p.properties.any (·.name == name) then
    total (.error (line.name.reject (.reference (.repeatedProperty name owner))))
  let symbol := propertySymbol owner name
  let symbols ← total (reserve owner symbol line.name p.symbols)
  let outcome ← expression scope p.calls line.expression
  let constraints := outcome.terms.map Bound.toConstraint
  return {
    properties := p.properties ++ [⟨name, typeOf constraints, constraints⟩]
    statements := p.statements ++ constraints.flatMap (·.statements symbol)
      ++ [propertyStatement symbol constraints]
    references := p.references ++ outcome.references
    symbols := symbols
    calls := outcome.calls }

def record (registry : Registry) (r : Resolution) (sort : RecordSort) (name : Token)
    (lines : List PropertyLine) : Checked Resolution := do
  let scope : Scope := ⟨registry, r.bindings⟩
  total (checkFree scope name)
  let owner := name.text
  let symbols ← total (reserve owner ((Role.record sort).symbol owner) name r.symbols)
  let symbols ← total (reserve owner (membersSymbol owner) name symbols)
  let p ← lines.foldlM (property scope owner) ⟨[], [], [], symbols, r.calls⟩
  let resolved : Record := ⟨owner, p.properties⟩
  let r := { r with
    statements := r.statements ++ p.statements ++ [membersStatement owner p.properties]
    dependencies := r.dependencies ++ [(owner, p.references.eraseDups)]
    bindings := r.bindings ++ [(owner, Binding.record sort resolved)]
    symbols := p.symbols
    calls := p.calls }
  match sort with
  | .definition => return { r with definitions := r.definitions ++ [entry resolved] }
  | .model => return { r with models := r.models ++ [entry resolved] }

def resolved (registry : Registry) (r : Resolution) : Declaration → Checked Resolution
  | .config _ settings => do
    let config ← settings.foldlM setting r.config
    return { r with config := config }
  | .typeAlias name body => typeAlias registry r name body
  | .record sort name lines => record registry r sort name lines

def resolve (ds : List Declaration) : Checked Schema := do
  let r ← ds.foldlM (resolved .standard) .initial
  return r.schema

end Resolution

def shown (source : Source) : Checked α → Checked α
  | .error (.rejection d) => .error (.rejection (d.attach source.label source.text))
  | x => x

def resolveSource (text : String) : Checked Schema := do
  let source : Source := ⟨inlineLabel, text⟩
  let tokens ← shown source (total (tokenize text))
  let ds ← shown source (group tokens)
  shown source (resolve ds)

def compile (text : String) : Checked Files := do
  return (← resolveSource text).files

end Checked

end TypeGuard
