import TypeGuard.Constraint.Basic
import TypeGuard.Constraint.Verdict
import TypeGuard.Decimal.Magnitude
import TypeGuard.Value

/-!
Checking values. A value may be absent, which is what an optional property allows.
-/

namespace TypeGuard

/-- Whether a value has a primitive type. No JSON value is a big integer or a symbol. -/
def Primitive.accepts : Primitive → Option Value → Bool
  | string, some (.string _) => true
  | number, some (.number _) => true
  | boolean, some (.bool _) => true
  | _, _ => false

namespace Limit

def holds (l : Limit) (x : Float) : Bool :=
  match l.side, l.exclusive with
  | .lower, false => l.bound ≤ x
  | .lower, true => l.bound < x
  | .upper, false => x ≤ l.bound
  | .upper, true => x < l.bound

def measured (l : Limit) (v : Option Value) : Option Float :=
  match l.measure with
  | .value => Value.number? v
  | .length => Value.length? v

def admits (l : Limit) (v : Option Value) : Bool := (l.measured v).any l.holds

end Limit

/-- Checks a value against a range. With three arguments only multiples of the step above the start
pass; with two, numbers and lengths of texts between them; a single one is the end of a range from
zero, or, if negative, a lower bound for numbers. -/
def evaluateRange (start stop step : Option Float) (v : Option Value) : Except Fault Verdict :=
  let isString := (Value.string? v).isSome
  match start, stop, step with
  | some start, some stop, some step =>
    if isString then .ok (.diagnostic .stepOnString)
    else if stop ≤ start then .ok (.diagnostic .inverted)
    else if step ≤ 0 then .ok (.diagnostic .nonPositiveStep)
    else .ok (.ofBool ((Value.number? v).any fun x =>
      decide (start ≤ x) && decide (x ≤ stop) && Decimal.isMultipleOf (x - start) step))
  | some start, some stop, none =>
    if stop ≤ start then .ok (.diagnostic .inverted)
    else
      let measured := if isString then Value.length? v else Value.number? v
      .ok (.ofBool (measured.any fun x => decide (start ≤ x) && decide (x ≤ stop)))
  | some stop, none, none =>
    if stop < 0 then
      if isString then .error (.range .negativeOnString)
      else .ok (.ofBool ((Value.number? v).any fun x => decide (stop ≤ x)))
    else if isString then .ok (.ofBool ((Value.length? v).any fun x => decide (x ≤ stop)))
    else .ok (.ofBool ((Value.number? v).any fun x => decide (0 ≤ x) && decide (x ≤ stop)))
  | _, _, _ => .error (.conversion .noArguments)

mutual

def Check.evaluate : Check → Option Value → Except Fault Verdict
  | .primitive type, v => .ok (.ofBool (type.accepts v))
  | .range start stop step, v => evaluateRange start stop step v
  | .pattern p, v => .ok (.ofBool ((Value.string? v).any p.foundIn))
  | .limit l, v => .ok (.ofBool (l.admits v))
  | .optional inner, v =>
    match inner.evaluate v with
    | .ok .fail => .ok (.ofBool v.isNone)
    | outcome => outcome
  | .all parts, v => evaluateAll parts v
  | .record r, v => (r.evaluate v).map Verdict.ofBool

def Constraint.evaluate : Constraint → Option Value → Except Fault Verdict
  | ⟨check, _, _, _, _⟩, v => check.evaluate v

/-- The first outcome that is not a pass, or else a pass. -/
def evaluateAll : List Constraint → Option Value → Except Fault Verdict
  | [], _ => .ok .pass
  | c :: rest, v =>
    match c.evaluate v with
    | .ok .pass => evaluateAll rest v
    | outcome => outcome

/-- Whether a value has every property of a record. Properties of a value that is not an object
are absent. -/
def Record.evaluate : Record → Option Value → Except Fault Bool
  | ⟨name, properties⟩, v => evaluateProperties name properties v

/-- Whether a value has the given properties, checked in order up to the first one that fails. -/
def evaluateProperties (owner : String) : List Property → Option Value → Except Fault Bool
  | [], _ => .ok true
  | p :: rest, v =>
    match p.evaluate owner v with
    | .ok true => evaluateProperties owner rest v
    | outcome => outcome

def Property.evaluate (owner : String) : Property → Option Value → Except Fault Bool
  | ⟨name, _, constraints⟩, v =>
    holdAll (owner ++ "." ++ name) constraints (v.bind (·.field? name))

/-- Whether a value keeps all constraints. A diagnostic becomes a fault in the given context. -/
def holdAll (context : String) : List Constraint → Option Value → Except Fault Bool
  | [], _ => .ok true
  | c :: rest, v =>
    match c.evaluate v with
    | .ok .pass => holdAll context rest v
    | .ok .fail => .ok false
    | .ok (.diagnostic misuse) => .error (.diagnostic context misuse)
    | .error fault => .error fault

end

def Constraint.test (c : Constraint) (v : Value) : Except Fault Bool :=
  holdAll "value" [c] (some v)

def Record.validate (r : Record) (v : Value) : Except Fault Bool :=
  r.evaluate (some v)

end TypeGuard
