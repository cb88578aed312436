import TypeGuard.Decimal.Magnitude

/-!
The shortest decimal that reads back as a given binary value.

The value is written out exactly, as a natural number times a power of ten. Rounding it to one
digit, two digits and so on gives two neighbours each time; the first count of digits with a
neighbour inside the rounding interval wins. The last count is that of the exact decimal, which lies
in its own interval, so the search always ends with a hit.
-/

namespace TypeGuard.Decimal

/-- A decimal number, `digits * 10 ^ exponent`. -/
structure Numeral where
  digits : Nat
  exponent : Int
  deriving DecidableEq, Repr

/-- Which of two equally near decimals is taken. -/
inductive Tie where
  | toEven
  | upward
  deriving DecidableEq, Repr

/-- The gap above a value, in units of ten to the power of `Magnitude.scale`. -/
def Magnitude.gap (x : Magnitude) : Nat :=
  if x.exponent < 0 then Nat.pow 5 (-x.exponent).toNat else Nat.pow 2 x.exponent.toNat

/-- The power of ten in which value and gap are natural numbers. -/
def Magnitude.scale (x : Magnitude) : Int :=
  min x.exponent 0

/-- The value itself, in units of ten to the power of `Magnitude.scale`. -/
def Magnitude.amount (x : Magnitude) : Nat :=
  x.mantissa * x.gap

/-- Whether `n`, in units of ten to the power of `Magnitude.scale`, lies among the numbers that
round to this value. The ends of that interval belong to it when the mantissa is even. -/
def Magnitude.covers (x : Magnitude) (n : Nat) : Bool :=
  let below := if x.tightBelow then x.gap else 2 * x.gap
  let above := 2 * x.gap
  if x.mantissa % 2 = 0 then
    4 * x.amount ≤ 4 * n + below && 4 * n ≤ 4 * x.amount + above
  else
    4 * x.amount < 4 * n + below && 4 * n < 4 * x.amount + above

def digitCount (n : Nat) : Nat :=
  (Nat.toDigits 10 n).length

/-- The better of the two neighbours of the value on the grid of multiples of `grid`, if one of
them reads back; the neighbours are given as multiples. -/
def Magnitude.nearest? (tie : Tie) (x : Magnitude) (grid : Nat) : Option Nat :=
  let low := x.amount / grid
  let high := low + 1
  match x.covers (low * grid), x.covers (high * grid) with
  | true, false => some low
  | false, true => some high
  | false, false => none
  | true, true =>
    if 2 * x.amount < (low + high) * grid then some low
    else if (low + high) * grid < 2 * x.amount then some high
    else match tie with
      | .upward => some high
      | .toEven => some (if low % 2 = 0 then low else high)

/-- Moves trailing zeros into the exponent, at most `fuel` of them. -/
def Numeral.strip : Nat → Numeral → Numeral
  | 0, d => d
  | fuel + 1, d =>
    if d.digits % 10 = 0 then Numeral.strip fuel ⟨d.digits / 10, d.exponent + 1⟩ else d

/-- The shortest decimal that reads back as a value other than zero. -/
def Magnitude.shortest (tie : Tie) (x : Magnitude) : Numeral :=
  let length := digitCount x.amount
  let candidate := (List.range length).findSome? fun dropped =>
    let rest := length - 1 - dropped
    (x.nearest? tie (Nat.pow 10 rest)).map fun n => (⟨n, x.scale + rest⟩ : Numeral)
  (candidate.getD ⟨x.amount, x.scale⟩).strip length

end TypeGuard.Decimal
