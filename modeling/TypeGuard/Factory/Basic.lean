import TypeGuard.Constraint.Basic
import TypeGuard.Literal

/-!
Factories: named ways to build a constraint from arguments, and the place of a call to one.
-/

namespace TypeGuard

inductive Argument where
  | literal (value : Literal)
  | constraint (c : Constraint)

def Argument.kind : Argument → ArgumentKind
  | literal value => value.argumentKind
  | constraint _ => .constraint

/-- A call: the token of the factory's name, and the rank of the call among all calls. -/
structure Call where
  token : Token
  id : Nat
  deriving Repr

namespace Call

def name (call : Call) : String := call.token.text

/-- A rejection of the call, in the words of the factory. -/
def reject (call : Call) (message : String) : Diagnostic :=
  call.token.reject (.reported .conversion message)

def refuse (call : Call) (problem : ConversionProblem) : Diagnostic :=
  call.token.reject (.conversion problem)

def checkArity (call : Call) (args : List Argument) (least most : Nat) :
    Except Diagnostic Unit :=
  if least ≤ args.length ∧ args.length ≤ most then .ok ()
  else .error (call.refuse (.arity call.name least most args.length))

def wrongKind (call : Call) (index : Nat) (expected : ArgumentKind) (found : Argument) :
    Diagnostic :=
  call.refuse (.argument call.name index expected found.kind)

def number (call : Call) (args : List Argument) (index : Nat) :
    Except Diagnostic (Option Float) :=
  match args[index]? with
  | none => .ok none
  | some (.literal (.number x)) => .ok (some x)
  | some other => .error (call.wrongKind index .number other)

def boolean (call : Call) (args : List Argument) (index : Nat) :
    Except Diagnostic (Option Bool) :=
  match args[index]? with
  | none => .ok none
  | some (.literal (.boolean b)) => .ok (some b)
  | some other => .error (call.wrongKind index .boolean other)

def string (call : Call) (args : List Argument) (index : Nat) :
    Except Diagnostic (Option String) :=
  match args[index]? with
  | none => .ok none
  | some (.literal (.string s)) => .ok (some s)
  | some other => .error (call.wrongKind index .string other)

end Call

structure Factory where
  name : String
  build : Call → List Argument → Except Diagnostic Constraint

end TypeGuard
