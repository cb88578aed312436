import TypeGuard.Decimal.Shortest

/-!
How a number is written out once its digits are known.

A layout says for which exponents of the leading digit the number is written positionally, whether
an integral number keeps a zero behind its point, and which way ties between digits go.
-/

namespace TypeGuard.Decimal

/-- The decisions of one way of writing numbers. -/
structure Layout where
  /-- Which of two equally near decimals is written. -/
  tie : Tie
  /-- Least and greatest exponent of the leading digit that is written positionally; without
  bounds every number is. -/
  positional : Option (Int × Int)
  /-- Whether an integral number written positionally ends in a point and a zero. -/
  pointZero : Bool
  /-- Texts of an undefined number and of positive infinity. -/
  nan : String
  infinity : String

def zeros (n : Nat) : List Char := List.replicate n '0'

def positionalText (pointZero : Bool) (d : Numeral) : List Char :=
  let digits := Nat.toDigits 10 d.digits
  if 0 ≤ d.exponent then
    digits ++ zeros d.exponent.toNat ++ (if pointZero then ['.', '0'] else [])
  else
    let places := (-d.exponent).toNat
    if places < digits.length then
      digits.take (digits.length - places) ++ '.' :: digits.drop (digits.length - places)
    else
      '0' :: '.' :: zeros (places - digits.length) ++ digits

/-- A decimal with its leading digit before the point and a signed exponent. -/
def exponentText (leading : Int) (d : Numeral) : List Char :=
  let digits := Nat.toDigits 10 d.digits
  let fraction := if digits.length = 1 then [] else '.' :: digits.drop 1
  let sign := if leading < 0 then '-' else '+'
  digits.take 1 ++ fraction ++ 'e' :: sign :: Nat.toDigits 10 leading.natAbs

def Layout.magnitudeText (layout : Layout) (x : Magnitude) : List Char :=
  if x.mantissa = 0 then
    positionalText layout.pointZero ⟨0, 0⟩
  else
    let d := x.shortest layout.tie
    let leading := (digitCount d.digits : Int) + d.exponent - 1
    let positional := match layout.positional with
      | none => true
      | some (least, greatest) => decide (least ≤ leading) && decide (leading ≤ greatest)
    if positional then positionalText layout.pointZero d else exponentText leading d

def Layout.render (layout : Layout) (x : Float) : String :=
  match decode x with
  | .nan => layout.nan
  | .infinite negative => if negative then "-" ++ layout.infinity else layout.infinity
  | .finite negative magnitude =>
    String.ofList ((if negative then ['-'] else []) ++ layout.magnitudeText magnitude)

end TypeGuard.Decimal
