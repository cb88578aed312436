import TypeGuard.Text.Units

/-!
The values that are checked: JSON data.
-/

namespace TypeGuard

/-- A JSON value. An object lists its entries, and the first one with a key counts. -/
inductive Value where
  | null
  | bool (value : Bool)
  | number (value : Float)
  | string (value : String)
  | array (items : List Value)
  | object (entries : List (String × Value))
  deriving Inhabited

namespace Value

/-- The entry of an object under a key; other values have none. -/
def field? : Value → String → Option Value
  | object entries, key => entries.lookup key
  | _, _ => none

def number? : Option Value → Option Float
  | some (number x) => some x
  | _ => none

def string? : Option Value → Option String
  | some (string s) => some s
  | _ => none

/-- The length of a text in 16-bit units, if the value is present and a text. -/
def length? (v : Option Value) : Option Float :=
  (string? v).map fun s => Float.ofNat (Text.units s)

end Value

end TypeGuard
