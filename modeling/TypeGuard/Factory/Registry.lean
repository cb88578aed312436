import TypeGuard.Factory.Standard

/-!
The names that need no declaration: primitive constraints and factories.
-/

namespace TypeGuard

/-- Primitive constraints and factories by name. The entry added last under a name counts. -/
structure Registry where
  primitives : List (String × Constraint)
  factories : List Factory

def Primitive.constraint (type : Primitive) : Constraint :=
  .plain (.primitive type) (.named type.name) ("(v) => " ++ Factory.typeTest type)

namespace Registry

def empty : Registry := ⟨[], []⟩

def addPrimitive (r : Registry) (name : String) (c : Constraint) : Registry :=
  { r with primitives := (name, c) :: r.primitives }

def addFactory (r : Registry) (f : Factory) : Registry :=
  { r with factories := f :: r.factories }

def standard : Registry :=
  ⟨Primitive.all.map fun type => (type.name, type.constraint), Factory.standard⟩

def primitive? (r : Registry) (name : String) : Option Constraint :=
  r.primitives.lookup name

def factory? (r : Registry) (name : String) : Option Factory :=
  r.factories.find? (·.name == name)

def contains (r : Registry) (name : String) : Bool :=
  (r.primitive? name).isSome || (r.factory? name).isSome

end Registry

end TypeGuard
