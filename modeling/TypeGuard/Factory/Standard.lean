import TypeGuard.Constraint.Template
import TypeGuard.Constraint.Verdict
import TypeGuard.Factory.Basic

/-!
The standard factories, with the code that is generated for their constraints.
-/

namespace TypeGuard.Factory

def returned (misuse : RangeMisuse) : String :=
  "return new RangeError(\"" ++ misuse.message ++ "\");"

def typeTest (type : Primitive) : String := "typeof v === \"" ++ type.name ++ "\""

def rangeCode (start stop step : Option Float) : String :=
  let text := Literal.numberText
  match start, stop, step with
  | some start, some stop, some step =>
    "(v) => \x7b if (" ++ typeTest .string ++ ") " ++ returned .stepOnString
      ++ " if (" ++ text stop ++ " <= " ++ text start ++ ") " ++ returned .inverted
      ++ " if (" ++ text step ++ " <= 0) " ++ returned .nonPositiveStep
      ++ " return " ++ typeTest .number ++ " && v >= " ++ text start ++ " && v <= " ++ text stop
      ++ " && (v - " ++ text start ++ ") % " ++ text step ++ " === 0; \x7d"
  | some start, some stop, none =>
    "(v) => \x7b if (" ++ text stop ++ " <= " ++ text start ++ ") " ++ returned .inverted
      ++ " if (" ++ typeTest .string ++ ") return v.length >= " ++ text start
      ++ " && v.length <= " ++ text stop ++ ";"
      ++ " return " ++ typeTest .number ++ " && v >= " ++ text start ++ " && v <= " ++ text stop
      ++ "; \x7d"
  | some stop, none, none =>
    if stop < 0 then
      "(v) => \x7b if (" ++ typeTest .string ++ ") throw new RangeError(\""
        ++ RangeMisuse.negativeOnString.message ++ "\"); return " ++ typeTest .number
        ++ " && v >= " ++ text stop ++ "; \x7d"
    else
      "(v) => \x7b if (" ++ typeTest .string ++ ") return v.length <= " ++ text stop
        ++ "; return " ++ typeTest .number ++ " && v >= 0 && v <= " ++ text stop ++ "; \x7d"
  | _, _, _ =>
    "(v) => \x7b throw new TypeError(\"" ++ RangeMisuse.noArguments.message ++ "\"); \x7d"

/-- Ranges of numbers and of lengths of texts. -/
def range (call : Call) (args : List Argument) : Except Diagnostic Constraint := do
  call.checkArity args 0 3
  let start ← call.number args 0
  let stop ← call.number args 1
  let step ← call.number args 2
  return .plain (.range start stop step) (.ofList ["string", "number"]) (rangeCode start stop step)

/-- How a pattern is read under the flags of a call. Flags that only matter to repeated searches
are accepted and have no effect. -/
def patternFlags (call : Call) (seen : List Char) (flags : Pattern.Flags) :
    List Char → Except Diagnostic Pattern.Flags
  | [] => .ok flags
  | c :: rest =>
    if seen.contains c then .error (call.refuse (.repeatedFlag c))
    else match c with
      | 'i' => patternFlags call (c :: seen) { flags with ignoreCase := true } rest
      | 'm' => patternFlags call (c :: seen) { flags with multiLine := true } rest
      | 's' => patternFlags call (c :: seen) { flags with dotAll := true } rest
      | 'g' | 'y' | 'u' => patternFlags call (c :: seen) flags rest
      | c => .error (call.refuse (.unknownFlag c))

/-- The flags that reach the generated code: those that would make a search depend on earlier ones
are left out. -/
def emittedFlags (flags : String) : String :=
  String.ofList (flags.toList.filter fun c => c ≠ 'g' && c ≠ 'y')

def patternSymbol (call : Call) : String := "pattern$" ++ toString call.id

def patternStatement (call : Call) (source flags : String) : String :=
  "const " ++ patternSymbol call ++ " = new RegExp(" ++ Text.quoted source ++ ", "
    ++ Text.quoted (emittedFlags flags) ++ ");"

/-- Texts that contain a match of a pattern. -/
def pattern (call : Call) (args : List Argument) : Except Diagnostic Constraint := do
  call.checkArity args 1 2
  let source := (← call.string args 0).getD ""
  if source.isEmpty then throw (call.refuse .emptyPattern)
  let flags := (← call.string args 1).getD ""
  let reading ← patternFlags call [] {} flags.toList
  match Pattern.ofText reading source with
  | .error problem => throw (call.refuse (.malformedPattern problem.message))
  | .ok p =>
    return {
      check := .pattern p
      type := .named "string"
      code := "(v) => " ++ typeTest .string ++ " && " ++ patternSymbol call ++ ".test(v)"
      preamble := some (patternStatement call source flags)
      dependencies := [] }

def operator : Side → Bool → String
  | .lower, false => ">="
  | .lower, true => ">"
  | .upper, false => "<="
  | .upper, true => "<"

def limitType : Measure → Primitive
  | .value => .number
  | .length => .string

def measureCode : Measure → String
  | .value => "v"
  | .length => "v.length"

def limitCode (l : Limit) : String :=
  "(v) => " ++ typeTest (limitType l.measure) ++ " && " ++ measureCode l.measure ++ " "
    ++ operator l.side l.exclusive ++ " " ++ Literal.numberText l.bound

/-- Bounds on numbers or on lengths of texts. -/
def limit (side : Side) (measure : Measure) (call : Call) (args : List Argument) :
    Except Diagnostic Constraint := do
  call.checkArity args 1 2
  match ← call.number args 0 with
  | none => throw (call.refuse (.missing call.name 0 .number))
  | some bound =>
    let exclusive := (← call.boolean args 1).getD false
    let l : Limit := ⟨bound, exclusive, side, measure⟩
    return .plain (.limit l) (.named (limitType measure).name) (limitCode l)

/-- The symbol under which the code of an optional constraint reaches the inner one. -/
def optionalSymbol (call : Call) : String := placeholder ++ "$optional" ++ toString call.id

def optionalCode (symbol : String) : String :=
  "(v) => \x7b const result = " ++ symbol
    ++ "()(v); return result === false && v === undefined ? true : result; \x7d"

/-- A constraint that also allows the value to be absent. -/
def optional (call : Call) (args : List Argument) : Except Diagnostic Constraint := do
  call.checkArity args 1 1
  match args with
  | .constraint inner :: _ =>
    return {
      check := .optional inner
      type := inner.type.extend (.named "undefined")
      code := optionalCode (optionalSymbol call)
      preamble := none
      dependencies := [.inline (optionalSymbol call) inner] }
  | other :: _ => throw (call.wrongKind 0 .constraint other)
  | [] => throw (call.refuse (.arity call.name 1 1 0))

def standard : List Factory :=
  [⟨"range", range⟩, ⟨"match", pattern⟩,
   ⟨"min", limit .lower .value⟩, ⟨"max", limit .upper .value⟩,
   ⟨"minlength", limit .lower .length⟩, ⟨"maxlength", limit .upper .length⟩,
   ⟨"optional", optional⟩]

end TypeGuard.Factory
