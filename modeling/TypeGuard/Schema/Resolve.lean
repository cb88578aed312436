import TypeGuard.Declaration.Grouping
import TypeGuard.Schema.Expression

/-!
Resolving declarations into a schema.

Declarations are taken in order, and an expression may only use names declared before it. Names in
generated code are reserved as declarations go by, so that no two of them clash.
-/

namespace TypeGuard

structure Resolution where
  config : Configuration
  aliases : List AliasEntry
  definitions : List RecordEntry
  models : List RecordEntry
  /-- Statements of the generated code, in order. -/
  statements : List String
  /-- Every declared name with the declared names that it refers to. -/
  dependencies : List (String × List String)
  bindings : List (String × Binding)
  /-- Every name of the generated code with the declaration that reserved it. -/
  symbols : List (String × String)
  /-- Number of calls so far. -/
  calls : Nat

namespace Resolution

def initial : Resolution := ⟨.empty, [], [], [], [], [], [], [], 0⟩

/-- The statements as text, each on a line of its own. -/
def preambleText (statements : List String) : String :=
  String.join (statements.map ("\n" ++ ·))

def schema (r : Resolution) : Schema where
  config := r.config
  aliases := r.aliases
  definitions := r.definitions
  models := r.models
  preamble := preambleText r.statements
  dependencies := r.dependencies

def checkFree (scope : Scope) (name : Token) : Except Diagnostic Unit :=
  if scope.contains name.text then
    .error (name.reject (.reference (.redeclared name.text)))
  else .ok ()

/-- Reserves a name of the generated code for a declaration. -/
def reserve (owner symbol : String) (anchor : Token) (symbols : List (String × String)) :
    Except Diagnostic (List (String × String)) :=
  match symbols.lookup symbol with
  | some previous => .error (anchor.reject (.reference (.taken symbol owner previous)))
  | none => .ok ((symbol, owner) :: symbols)

def setting (c : Configuration) (s : Setting) : Except Diagnostic Configuration :=
  if s.key.kind ≠ .identifier then .error (s.key.malformed (.settingName s.key.text))
  else if !s.value.kind.isLiteral then .error (s.value.malformed (.settingValue s.value.text))
  else (Literal.ofToken s.value).map (c.insert s.key.text)

/-- The constraints that a term contributes to an alias. -/
def aliasConstraints : Bound → List Constraint
  | .typeAlias _ constraints => constraints
  | other => [other.toConstraint]

def typeAlias (registry : Registry) (r : Resolution) (name : Token) (body : List Token) :
    Except Diagnostic Resolution := do
  let scope : Scope := ⟨registry, r.bindings⟩
  checkFree scope name
  let symbols ← reserve name.text (Role.typeAlias.symbol name.text) name r.symbols
  let outcome ← Expression.resolve scope r.calls body
  let constraints := outcome.terms.flatMap aliasConstraints
  return { r with
    aliases := r.aliases ++ [⟨name.text, constraints⟩]
    dependencies := r.dependencies ++ [(name.text, outcome.references.eraseDups)]
    bindings := r.bindings ++ [(name.text, Binding.typeAlias constraints)]
    symbols := symbols
    calls := outcome.calls }

/-- The name in generated code of the constraints of a property. -/
def propertySymbol (owner property : String) : String := owner ++ "$" ++ property

/-- The name in generated code of the list of checks of a record. -/
def membersSymbol (owner : String) : String := "members$" ++ owner

def memberCode (owner property : String) : String :=
  "(v) => " ++ propertySymbol owner property ++ ".every((fn) => wrap(fn(field(v, "
    ++ Text.quoted property ++ "))))"

def propertyStatement (symbol : String) (constraints : List Constraint) : String :=
  let codes := constraints.map (·.codeAs symbol)
  "const " ++ symbol ++ " = [" ++ String.intercalate ", " codes ++ "];"

def membersStatement (owner : String) (properties : List Property) : String :=
  "const " ++ membersSymbol owner ++ " = ["
    ++ String.intercalate ", " (properties.map fun p => memberCode owner p.name) ++ "];"

/-- A record under way. -/
structure Progress where
  properties : List Property
  statements : List String
  references : List String
  symbols : List (String × String)
  calls : Nat

def property (scope : Scope) (owner : String) (p : Progress) (line : PropertyLine) :
    Except Diagnostic Progress := do
  let name := line.name.text
  if p.properties.any (·.name == name) then
    throw (line.name.reject (.reference (.repeatedProperty name owner)))
  let symbol := propertySymbol owner name
  let symbols ← reserve owner symbol line.name p.symbols
  let outcome ← Expression.resolve scope p.calls line.expression
  let constraints := outcome.terms.map Bound.toConstraint
  return {
    properties := p.properties ++ [⟨name, typeOf constraints, constraints⟩]
    statements := p.statements ++ constraints.flatMap (·.statements symbol)
      ++ [propertyStatement symbol constraints]
    references := p.references ++ outcome.references
    symbols := symbols
    calls := outcome.calls }

def entry (record : Record) : RecordEntry where
  name := record.name
  record := record
  constraint := .plain (.record record) (.named record.name)
    ("(v) => " ++ membersSymbol record.name ++ ".every((fn) => fn(v))")

def record (registry : Registry) (r : Resolution) (sort : RecordSort) (name : Token)
    (lines : List PropertyLine) : Except Diagnostic Resolution := do
  let scope : Scope := ⟨registry, r.bindings⟩
  checkFree scope name
  let owner := name.text
  let symbols ← reserve owner ((Role.record sort).symbol owner) name r.symbols
  let symbols ← reserve owner (membersSymbol owner) name symbols
  let p ← lines.foldlM (property scope owner) ⟨[], [], [], symbols, r.calls⟩
  let resolved : Record := ⟨owner, p.properties⟩
  let r := { r with
    statements := r.statements ++ p.statements ++ [membersStatement owner p.properties]
    dependencies := r.dependencies ++ [(owner, p.references.eraseDups)]
    bindings := r.bindings ++ [(owner, Binding.record sort resolved)]
    symbols := p.symbols
    calls := p.calls }
  match sort with
  | .definition => return { r with definitions := r.definitions ++ [entry resolved] }
  | .model => return { r with models := r.models ++ [entry resolved] }

def declaration (registry : Registry) (r : Resolution) :
    Declaration → Except Diagnostic Resolution
  | .config _ settings => do return { r with config := ← settings.foldlM setting r.config }
  | .typeAlias name body => r.typeAlias registry name body
  | .record sort name lines => r.record registry sort name lines

end Resolution

/-- Resolves declarations, with the given names in place of the standard ones. -/
def resolveWith (registry : Registry) (ds : List Declaration) : Except Diagnostic Schema := do
  return (← ds.foldlM (Resolution.declaration registry) .initial).schema

def resolve (ds : List Declaration) : Except Diagnostic Schema :=
  resolveWith .standard ds

end TypeGuard
