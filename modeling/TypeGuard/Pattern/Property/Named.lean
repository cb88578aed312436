import TypeGuard.CharSet

/-!
Sets of characters under names. Names are compared loosely: case, blanks, underscores and hyphens
make no difference, and neither does an `is` in front.
-/

namespace TypeGuard.Pattern.Property

/-- A set of characters and its names in loose form. -/
structure Named where
  names : List String
  set : CharSet
  deriving DecidableEq, Repr

/-- What loose comparison keeps of a name. A single `c` behind `is` is a name of its own. -/
def looseName (name : List Char) : String :=
  let kept (cs : List Char) := (cs.filter fun c =>
    decide (c.toNat < 128) && c ≠ ' ' && c ≠ '_' && c ≠ '-').map Char.toLower
  match name with
  | i :: s :: rest =>
    if i.toLower = 'i' && s.toLower = 's' then
      if kept rest = ['c'] then "isc" else String.ofList (kept rest)
    else String.ofList (kept name)
  | _ => String.ofList (kept name)

def find? (entries : List Named) (name : String) : Option CharSet :=
  (entries.find? (·.names.contains name)).map (·.set)

def setsOf (entries : List Named) : List CharSet := entries.map (·.set)

end TypeGuard.Pattern.Property
