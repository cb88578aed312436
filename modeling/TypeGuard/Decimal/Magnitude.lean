/-!
Binary floating-point values as exact integers: a finite value is `mantissa * 2 ^ exponent`.
-/

namespace TypeGuard.Decimal

/-- The magnitude of a finite value, `mantissa * 2 ^ exponent`. -/
structure Magnitude where
  mantissa : Nat
  exponent : Int
  /-- The gap to the value below is half the gap to the value above. -/
  tightBelow : Bool
  deriving DecidableEq, Repr

/-- What the bits of a floating-point number stand for. -/
inductive Decoded where
  | nan
  | infinite (negative : Bool)
  | finite (negative : Bool) (magnitude : Magnitude)
  deriving DecidableEq, Repr

/-- Reads sign, exponent and mantissa off the bits. -/
def decode (x : Float) : Decoded :=
  let bits : Nat := x.toBits.toNat
  let negative := decide (Nat.pow 2 63 ≤ bits)
  let biased : Nat := bits / Nat.pow 2 52 % Nat.pow 2 11
  let fraction : Nat := bits % Nat.pow 2 52
  if biased = 2047 then
    if fraction = 0 then .infinite negative else .nan
  else if biased = 0 then
    .finite negative ⟨fraction, -1074, false⟩
  else
    .finite negative
      ⟨Nat.pow 2 52 + fraction, (biased : Int) - 1075,
        decide (fraction = 0) && decide (1 < biased)⟩

/-- Whether a number is neither infinite nor undefined. -/
def isFinite (x : Float) : Bool :=
  match decode x with
  | .finite .. => true
  | _ => false

/-- The integer equal to a magnitude, if it is one. -/
def Magnitude.toNat? (x : Magnitude) : Option Nat :=
  let scale := Nat.pow 2 (-x.exponent).toNat
  if x.mantissa % scale = 0 then
    some (x.mantissa / scale * Nat.pow 2 x.exponent.toNat)
  else
    none

def toInt? (x : Float) : Option Int :=
  match decode x with
  | .finite negative magnitude =>
    magnitude.toNat?.map fun n => if negative then -(n : Int) else n
  | _ => none

def Magnitude.isMultipleOf (x step : Magnitude) : Bool :=
  let shift := min x.exponent step.exponent
  let scaled (b : Magnitude) := b.mantissa * Nat.pow 2 (b.exponent - shift).toNat
  scaled x % scaled step = 0

/-- Whether the remainder of `x` on division by `step` is zero. An undefined or infinite `x` has no
such remainder, nor has a zero or undefined `step`; an infinite `step` leaves `x` itself. -/
def isMultipleOf (x step : Float) : Bool :=
  match decode x, decode step with
  | .finite _ a, .finite _ b => b.mantissa != 0 && a.isMultipleOf b
  | .finite _ a, .infinite _ => a.mantissa = 0
  | _, _ => false

end TypeGuard.Decimal
