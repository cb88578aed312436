/-!
Replacing every occurrence of a fixed piece of text, from left to right.
-/

namespace TypeGuard.Text

/-- Replaces `target` by `value`, with `skip` characters of the last occurrence still to pass. -/
def substituteFrom (target value : List Char) : Nat → List Char → List Char
  | _, [] => []
  | skip + 1, _ :: rest => substituteFrom target value skip rest
  | 0, c :: rest =>
    if target.isPrefixOf (c :: rest) then
      value ++ substituteFrom target value (target.length - 1) rest
    else
      c :: substituteFrom target value 0 rest

def substitute (target value text : String) : String :=
  String.ofList (substituteFrom target.toList value.toList 0 text.toList)

theorem substituteFrom_skip (target value : List Char) (skip : Nat) (cs : List Char) :
    substituteFrom target value skip cs = substituteFrom target value 0 (cs.drop skip) := by
  induction skip generalizing cs with
  | zero => simp
  | succ n ih =>
    cases cs with
    | nil => simp [substituteFrom]
    | cons c rest => simpa [substituteFrom] using ih rest

end TypeGuard.Text
