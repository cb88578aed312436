/-!
Outcomes of checking a value: a verdict, or a fault that ends the check.
-/

namespace TypeGuard

/-- The ways in which a range does not fit its arguments or the value. -/
inductive RangeMisuse where
  | stepOnString
  | inverted
  | nonPositiveStep
  | negativeOnString
  | noArguments
  deriving DecidableEq, Repr

def RangeMisuse.message : RangeMisuse → String
  | stepOnString => "String values cannot use the step parameter for the range factory."
  | inverted => "Stop parameter must be greater than the start parameter in the range factory."
  | nonPositiveStep => "Step parameter for the range factory must be positive."
  | negativeOnString =>
    "String values cannot use a negative end parameter in the range factory."
  | noArguments => "Expected 1-3 arguments for the range factory, got none."

/-- The outcome of one constraint on one value. -/
inductive Verdict where
  | pass
  | fail
  /-- The constraint does not apply; where constraints are combined this becomes a fault. -/
  | diagnostic (misuse : RangeMisuse)
  deriving DecidableEq, Repr

def Verdict.ofBool (passed : Bool) : Verdict := if passed then .pass else .fail

/-- A fault that ends a check. -/
inductive Fault where
  | diagnostic (context : String) (misuse : RangeMisuse)
  | range (misuse : RangeMisuse)
  | conversion (misuse : RangeMisuse)
  deriving DecidableEq, Repr

def Fault.message : Fault → String
  | diagnostic context misuse => context ++ ": " ++ misuse.message
  | range misuse => "RangeError: " ++ misuse.message
  | conversion misuse => "TypeError: " ++ misuse.message

end TypeGuard
