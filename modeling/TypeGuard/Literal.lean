import TypeGuard.Decimal.Layout
import TypeGuard.Decimal.Reader
import TypeGuard.Diagnostic.Basic
import TypeGuard.Text.Inspect

/-!
Literal values: numbers, quoted texts and truth values, and the ways they are written out.
-/

namespace TypeGuard

inductive Literal where
  | number (value : Float)
  | string (value : String)
  | boolean (value : Bool)
  deriving Repr

namespace Literal

/-- Numbers in messages and generated code are positional, whatever their size. -/
def numberLayout : Decimal.Layout where
  tie := .upward
  positional := none
  pointZero := false
  nan := "NaN"
  infinity := "inf"

/-- Numbers in configuration headers keep a fraction digit, and take an exponent from sixteen
digits before the point and from five zeros behind it. -/
def headerLayout : Decimal.Layout where
  tie := .toEven
  positional := some (-5, 15)
  pointZero := true
  nan := "null"
  infinity := "null"

def numberText (x : Float) : String := numberLayout.render x

/-- Integers below this bound are written without a fraction in configuration headers. -/
def integerBound : Nat := 9000000000000000

/-- The JSON text of a number. Integers of moderate size have no fraction, and numbers that are not
finite become null. -/
def numberJson (x : Float) : String :=
  if !Decimal.isFinite x then "null"
  else match Decimal.toInt? x with
    | some n => if n.natAbs < integerBound then toString n else headerLayout.render x
    | none => headerLayout.render x

def json : Literal → String
  | number x => numberJson x
  | string s => Text.quoted s
  | boolean b => if b then "true" else "false"

def inspect : Literal → String
  | number x => numberText x
  | string s => Text.inspect s
  | boolean b => if b then "true" else "false"

def argumentKind : Literal → ArgumentKind
  | number _ => .number
  | string _ => .string
  | boolean _ => .boolean

/-- The characters between the first and the last one. -/
def unquoted (text : String) : String :=
  String.ofList (text.toList.drop 1).dropLast

/-- The number that a text spells, if it is finite. -/
def finite? (text : String) : Option Float :=
  (Decimal.parse? text).filter Decimal.isFinite

/-- The value of a literal token. Escapes in a quoted text are kept as they stand. -/
def ofToken (t : Token) : Except Diagnostic Literal :=
  match t.kind with
  | .boolean => .ok (boolean (t.text == "true"))
  | .number =>
    match finite? t.text with
    | some x => .ok (number x)
    | none => .error (t.reject (.conversion (.notFinite t.text)))
  | .string => .ok (string (unquoted t.text))
  | _ => .error (t.reject (.conversion (.notPrimitive t.text)))

end Literal

end TypeGuard
