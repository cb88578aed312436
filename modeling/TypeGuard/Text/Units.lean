/-!
The length of a text in 16-bit units: a character beyond the basic plane takes two of them.
-/

namespace TypeGuard.Text

/-- Number of 16-bit units that one character takes. -/
def unitsOf (c : Char) : Nat :=
  if c.toNat < 0x10000 then 1 else 2

def units (text : String) : Nat :=
  text.toList.foldr (fun c n => unitsOf c + n) 0

end TypeGuard.Text
