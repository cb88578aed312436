/-!
Reading a number from text.

A numeral is an optional sign followed by digits with an optional point among or around them, and
an optional exponent; at least one digit is needed. The words `inf`, `infinity` and `nan`, in any
mix of cases, are read as well.
-/

namespace TypeGuard.Decimal

/-- What a text read as a number stands for. -/
inductive Reading where
  | nan
  | infinite (negative : Bool)
  | finite (negative : Bool) (mantissa : Nat) (exponent : Int)
  deriving DecidableEq, Repr

def digitsValue (ds : List Char) : Nat :=
  ds.foldl (fun n d => 10 * n + (d.toNat - 48)) 0

/-- Splits off a sign; no sign means a positive number. -/
def readSign : List Char → Bool × List Char
  | '-' :: rest => (true, rest)
  | '+' :: rest => (false, rest)
  | cs => (false, cs)

/-- The exponent written at the end of a numeral, zero when nothing is left. -/
def readExponent : List Char → Option Int
  | [] => some 0
  | c :: rest =>
    if c = 'e' || c = 'E' then
      let (negative, ds) := readSign rest
      if ds.isEmpty || !ds.all Char.isDigit then none
      else some (if negative then -(digitsValue ds : Int) else digitsValue ds)
    else none

def readNumeral (negative : Bool) (cs : List Char) : Option Reading :=
  let whole := cs.takeWhile Char.isDigit
  let rest := cs.dropWhile Char.isDigit
  let (fraction, rest) := match rest with
    | '.' :: more => (more.takeWhile Char.isDigit, more.dropWhile Char.isDigit)
    | _ => ([], rest)
  if whole.isEmpty && fraction.isEmpty then none
  else (readExponent rest).map fun e =>
    .finite negative (digitsValue (whole ++ fraction)) (e - fraction.length)

def read? (text : String) : Option Reading :=
  let (negative, cs) := readSign text.toList
  let word := cs.map Char.toLower
  if word = "nan".toList then some .nan
  else if word = "inf".toList || word = "infinity".toList then some (.infinite negative)
  else readNumeral negative cs

/-- The nearest floating-point number. A decimal whose leading digit is far outside the range of
exponents is zero or infinite without being computed. -/
def Reading.toFloat : Reading → Float
  | .nan => 0.0 / 0.0
  | .infinite negative => if negative then -(1.0 / 0.0) else 1.0 / 0.0
  | .finite negative mantissa exponent =>
    let leading := ((Nat.toDigits 10 mantissa).length : Int) + exponent
    let magnitude : Float :=
      if mantissa = 0 || leading < -400 then 0.0
      else if 400 < leading then 1.0 / 0.0
      else Float.ofScientific mantissa (decide (exponent < 0)) exponent.natAbs
    if negative then -magnitude else magnitude

def parse? (text : String) : Option Float :=
  (read? text).map Reading.toFloat

end TypeGuard.Decimal
