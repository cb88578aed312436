import TypeGuard.Pattern.Basic
import TypeGuard.TypeUnion

/-!
Constraints: a check that can be run on values, the type it narrows to, and the template of the code
that is generated for it.
-/

namespace TypeGuard

inductive Primitive where
  | string
  | number
  | boolean
  | bigint
  | symbol
  deriving DecidableEq, Repr

namespace Primitive

def all : List Primitive := [string, number, boolean, bigint, symbol]

def name : Primitive → String
  | string => "string"
  | number => "number"
  | boolean => "boolean"
  | bigint => "bigint"
  | symbol => "symbol"

end Primitive

/-- What a limit bounds: a number itself or the length of a text. -/
inductive Measure where
  | value
  | length
  deriving DecidableEq, Repr

inductive Side where
  | lower
  | upper
  deriving DecidableEq, Repr

structure Limit where
  bound : Float
  exclusive : Bool
  side : Side
  measure : Measure
  deriving Repr

mutual

/-- The part of a constraint that can be run on values. -/
inductive Check where
  | primitive (type : Primitive)
  /-- A range; its arguments are given from left to right. -/
  | range (start stop step : Option Float)
  | pattern (p : Pattern)
  | limit (l : Limit)
  /-- The inner constraint, or no value at all. -/
  | optional (inner : Constraint)
  /-- All constraints of an alias. -/
  | all (parts : List Constraint)
  | record (r : Record)

/-- A constraint with its type and its code. -/
structure Constraint where
  check : Check
  type : TypeUnion
  /-- A predicate on one line, possibly with the placeholder for the name it is bound to. -/
  code : String
  /-- A statement needed once before the predicate is used. -/
  preamble : Option String
  dependencies : List Dependency

/-- A value that generated code retrieves when it first needs it, under a symbol that may contain
the placeholder. -/
inductive Dependency where
  /-- A binding written elsewhere. -/
  | binding (symbol target : String)
  /-- A constraint written in place. -/
  | inline (symbol : String) (target : Constraint)

structure Property where
  name : String
  type : TypeUnion
  constraints : List Constraint

structure Record where
  name : String
  properties : List Property

end

namespace Constraint

/-- A constraint whose code needs nothing else. -/
def plain (check : Check) (type : TypeUnion) (code : String) : Constraint :=
  ⟨check, type, code, none, []⟩

end Constraint

def typeOf (constraints : List Constraint) : TypeUnion :=
  .union (constraints.map (·.type))

def Dependency.symbol : Dependency → String
  | binding symbol _ => symbol
  | inline symbol _ => symbol

end TypeGuard
