import TypeGuard.Factory.Registry
import TypeGuard.Schema.Basic

/-!
Resolving the expressions of a schema.

An expression is a sequence of terms. A term is a name, or a call of a factory with literals and
terms as arguments. The tokens are read from left to right with a stack of the calls that are still
open; a factory is invoked at the closing parenthesis of its call.
-/

namespace TypeGuard

/-- What a declared name stands for. -/
inductive Binding where
  | typeAlias (constraints : List Constraint)
  | record (sort : RecordSort) (r : Record)

/-- The names that an expression may use. -/
structure Scope where
  registry : Registry
  bindings : List (String × Binding)

/-- Whether a name is taken by a declaration or needs none. -/
def Scope.contains (s : Scope) (name : String) : Bool :=
  (s.bindings.lookup name).isSome || s.registry.contains name

/-- What one term resolves to. -/
inductive Bound where
  /-- A primitive constraint or the result of a call. -/
  | constraint (c : Constraint)
  | typeAlias (name : String) (constraints : List Constraint)
  /-- A record and the name it has in generated code. -/
  | record (r : Record) (binding : String)

namespace Bound

def count : Bound → Nat
  | typeAlias _ constraints => constraints.length
  | _ => 1

/-- A term as a single constraint. The code for an alias or a record reaches its binding when it
runs. -/
def toConstraint : Bound → Constraint
  | constraint c => c
  | typeAlias name constraints =>
    let symbol := "dep$" ++ name
    { check := .all constraints
      type := typeOf constraints
      code := "(v) => " ++ symbol ++ "().every((fn) => wrap(fn(v)))"
      preamble := none
      dependencies := [.binding symbol (Role.typeAlias.symbol name)] }
  | record r binding =>
    let symbol := "dep$" ++ r.name
    { check := .record r
      type := .named r.name
      code := "(v) => " ++ symbol ++ "()(v)"
      preamble := none
      dependencies := [.binding symbol binding] }

end Bound

namespace Expression

/-- What the next token of an open call may be. -/
inductive Phase where
  /-- The opening parenthesis. -/
  | opening
  /-- The first argument, or the end. -/
  | first
  /-- A further argument. -/
  | argument
  /-- A comma, or the end. -/
  | separator
  deriving DecidableEq, Repr

structure Frame where
  callee : Token
  factory : Factory
  arguments : List Argument
  phase : Phase

structure State where
  /-- The open calls, the innermost first. -/
  frames : List Frame
  /-- The terms that are complete. -/
  results : List Bound
  /-- Number of calls so far, over all expressions. -/
  calls : Nat
  /-- Declared names that were referred to. -/
  references : List String

def unresolved (t : Token) (problem : ReferenceProblem) : Diagnostic :=
  t.reject (.reference problem)

/-- Hands the result of a term to the call around it, or to the results. -/
def State.deliver (s : State) (t : Token) (b : Bound) : Except Diagnostic State :=
  match s.frames with
  | [] => .ok { s with results := s.results ++ [b] }
  | frame :: outer =>
    if 1 < b.count then .error (unresolved t (.severalConstraints t.text))
    else
      let frame := { frame with
        arguments := frame.arguments ++ [.constraint b.toConstraint], phase := .separator }
      .ok { s with frames := frame :: outer }

def State.invoke (s : State) (frame : Frame) (outer : List Frame) : Except Diagnostic State := do
  let id := s.calls + 1
  let c ← frame.factory.build ⟨frame.callee, id⟩ frame.arguments
  State.deliver { s with frames := outer, calls := id } frame.callee (.constraint c)

/-- Resolves a name that is not called. -/
def State.reference (scope : Scope) (s : State) (t : Token) : Except Diagnostic State :=
  match scope.bindings.lookup t.text with
  | some binding =>
    let s := { s with references := s.references ++ [t.text] }
    match binding with
    | .typeAlias constraints => s.deliver t (.typeAlias t.text constraints)
    | .record sort r => s.deliver t (.record r ((Role.record sort).symbol t.text))
  | none =>
    match scope.registry.primitive? t.text with
    | some c => s.deliver t (.constraint c)
    | none =>
      if (scope.registry.factory? t.text).isSome then
        .error (unresolved t (.uncalledFactory t.text))
      else .error (unresolved t (.unknown t.text))

def State.call (scope : Scope) (s : State) (t : Token) : Except Diagnostic State :=
  match scope.registry.factory? t.text with
  | some factory => .ok { s with frames := ⟨t, factory, [], .opening⟩ :: s.frames }
  | none =>
    if scope.contains t.text then .error (unresolved t (.notAFactory t.text))
    else .error (unresolved t (.unknown t.text))

/-- Starts a term at a name, which is called if a parenthesis follows. -/
def State.term (scope : Scope) (s : State) (t : Token) (called : Bool) : Except Diagnostic State :=
  if called then s.call scope t else s.reference scope t

def State.argument (scope : Scope) (s : State) (frame : Frame) (outer : List Frame) (t : Token)
    (called : Bool) : Except Diagnostic State :=
  if t.kind.isLiteral then do
    let value ← Literal.ofToken t
    let frame := { frame with
      arguments := frame.arguments ++ [.literal value], phase := .separator }
    return { s with frames := frame :: outer }
  else if t.kind = .identifier then s.term scope t called
  else .error (t.malformed (.expectedArgument t.text))

/-- Reads one token; the flag says whether an opening parenthesis follows it. -/
def State.step (scope : Scope) (s : State) (t : Token) (called : Bool) : Except Diagnostic State :=
  match s.frames with
  | [] =>
    if t.kind = .identifier then s.term scope t called
    else .error (t.malformed (.unexpectedTerm t.text))
  | frame :: outer =>
    match frame.phase with
    | .opening => .ok { s with frames := { frame with phase := .first } :: outer }
    | .first =>
      if t.kind = .closeParen then s.invoke frame outer
      else s.argument scope frame outer t called
    | .argument => s.argument scope frame outer t called
    | .separator =>
      if t.kind = .comma then .ok { s with frames := { frame with phase := .argument } :: outer }
      else if t.kind = .closeParen then s.invoke frame outer
      else .error (t.malformed (.expectedSeparator t.text))

def opensNext (tokens : List Token) : Bool := tokens.head?.any (·.kind = .openParen)

/-- Reads tokens up to the end of the expression, where no call may be open. -/
def State.run (scope : Scope) (s : State) : List Token → Except Diagnostic State
  | [] =>
    match s.frames with
    | [] => .ok s
    | frame :: _ => .error (frame.callee.malformed (.endlessCall frame.callee.text))
  | t :: rest =>
    match s.step scope t (opensNext rest) with
    | .error d => .error d
    | .ok s => State.run scope s rest

structure Outcome where
  terms : List Bound
  calls : Nat
  references : List String

/-- Resolves an expression, given the number of calls in the expressions before it. -/
def resolve (scope : Scope) (calls : Nat) (tokens : List Token) : Except Diagnostic Outcome := do
  let s ← State.run scope ⟨[], [], calls, []⟩ tokens
  return ⟨s.results, s.calls, s.references⟩

end Expression

end TypeGuard
