import TypeGuard.Token.Basic

/-!
The declarations of a schema, with their expressions still as tokens.
-/

namespace TypeGuard

/-- One line of a configuration block. -/
structure Setting where
  key : Token
  value : Token
  deriving DecidableEq, Repr

/-- One line of a record: a property and the expression that constrains it. -/
structure PropertyLine where
  name : Token
  expression : List Token
  deriving DecidableEq, Repr

/-- The two sorts of record: definitions are internal, models are exported. -/
inductive RecordSort where
  | definition
  | model
  deriving DecidableEq, Repr, Inhabited

def RecordSort.keyword : RecordSort → Keyword
  | definition => .define
  | model => .model

inductive Declaration where
  | config (keyword : Token) (settings : List Setting)
  | typeAlias (name : Token) (body : List Token)
  | record (sort : RecordSort) (name : Token) (properties : List PropertyLine)
  deriving DecidableEq, Repr

namespace Declaration

def keyword : Declaration → Keyword
  | config .. => .config
  | typeAlias .. => .typeAlias
  | record sort .. => sort.keyword

/-- The token of the declared name; a configuration block has none. -/
def nameToken? : Declaration → Option Token
  | config .. => none
  | typeAlias name _ => some name
  | record _ name _ => some name

end Declaration

end TypeGuard
