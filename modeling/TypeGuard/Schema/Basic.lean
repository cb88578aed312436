import TypeGuard.Configuration
import TypeGuard.Constraint.Evaluate
import TypeGuard.Declaration.Basic

/-!
Resolved schemas: configuration, aliases, definitions and models with their constraints.
-/

namespace TypeGuard

inductive Role where
  | typeAlias
  | record (sort : RecordSort)
  deriving DecidableEq, Repr

/-- Whether a text is one or more lower-case letters. -/
def isLowerWord (text : List Char) : Bool :=
  !text.isEmpty && text.all fun c => 'a' ≤ c && c ≤ 'z'

/-- Whether a name consists of words of lower-case letters with single underscores between them. -/
def isSnakeCase (name : String) : Bool := (name.toList.splitOn '_').all isLowerWord

/-- The name of a declaration in generated code. -/
def Role.symbol : Role → String → String
  | typeAlias, name => "alias$" ++ name
  | record .definition, name => "def$" ++ name
  | record .model, name => if isSnakeCase name then "is_" ++ name else "is" ++ name

def Role.initial : Role → Char
  | typeAlias => 'a'
  | record .definition => 'd'
  | record .model => 'i'

theorem Role.head?_symbol (role : Role) (name : String) :
    (role.symbol name).toList.head? = some role.initial := by
  cases role with
  | typeAlias => simp [symbol, initial]
  | record sort =>
    cases sort with
    | definition => simp [symbol, initial]
    | model =>
      rw [symbol]
      split <;> simp [initial]

/-- A resolved alias. Aliases that it refers to are replaced by their constraints. -/
structure AliasEntry where
  name : String
  constraints : List Constraint

def AliasEntry.type (a : AliasEntry) : TypeUnion := typeOf a.constraints

def AliasEntry.test (a : AliasEntry) (v : Value) : Except Fault Bool :=
  holdAll "value" a.constraints (some v)

/-- A resolved definition or model, with the constraint that a value is one. -/
structure RecordEntry where
  name : String
  record : Record
  constraint : Constraint

def RecordEntry.validate (e : RecordEntry) (v : Value) : Except Fault Bool :=
  e.record.validate v

structure Schema where
  config : Configuration
  aliases : List AliasEntry
  definitions : List RecordEntry
  models : List RecordEntry
  /-- Statements for the generated code, each on a line of its own, possibly repeated. -/
  preamble : String
  /-- Every declared name with the declared names that it refers to. -/
  dependencies : List (String × List String)

namespace Schema

def alias? (s : Schema) (name : String) : Option AliasEntry :=
  s.aliases.find? (·.name == name)

def definition? (s : Schema) (name : String) : Option RecordEntry :=
  s.definitions.find? (·.name == name)

def model? (s : Schema) (name : String) : Option RecordEntry :=
  s.models.find? (·.name == name)

def sorted (names : List String) : List String :=
  names.mergeSort fun a b => !decide (b < a)

def declaredNames (s : Schema) : List String :=
  sorted (s.dependencies.map (·.1))

end Schema

end TypeGuard
