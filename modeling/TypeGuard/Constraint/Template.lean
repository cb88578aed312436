import TypeGuard.Constraint.Basic
import TypeGuard.Text.Substitution

/-!
The code of a constraint under the name it is bound to.

The placeholder is replaced by the name. Preambles are hoisted out of the code, as statements of
their own. A constraint with dependencies becomes a function of their retrievals, with one accessor
for each that retrieves its value once.
-/

namespace TypeGuard

/-- The placeholder for the name that a constraint is bound to. -/
def placeholder : String := "\x7b\x7b name \x7d\x7d"

def fill (name text : String) : String := Text.substitute placeholder name text

mutual

/-- The statements that the code of a constraint needs, its own one first. -/
def Constraint.statements (name : String) : Constraint → List String
  | ⟨_, _, _, preamble, dependencies⟩ =>
    (preamble.map (fill name)).toList ++ dependencyStatements name dependencies

def dependencyStatements (name : String) : List Dependency → List String
  | [] => []
  | d :: rest => d.statements name ++ dependencyStatements name rest

def Dependency.statements (name : String) : Dependency → List String
  | .binding _ _ => []
  | .inline _ target => target.statements name

end

def retrieval (symbol : String) : String := "retrieve$" ++ symbol

/-- The accessor of a dependency: it retrieves the value once and keeps it. -/
def accessor (symbol : String) : String :=
  "let cached$" ++ symbol ++ "; const " ++ symbol ++ " = () => cached$" ++ symbol
    ++ " ?? (cached$" ++ symbol ++ " = " ++ retrieval symbol ++ "()); "

mutual

/-- The code of a constraint, with its type in a comment behind it. -/
def Constraint.codeAs (name : String) : Constraint → String
  | ⟨_, type, code, _, dependencies⟩ =>
    match dependencies with
    | [] => "(" ++ fill name code ++ ")/* " ++ type.text ++ " */"
    | dependencies =>
      let symbols := dependencies.map fun d => fill name d.symbol
      "((" ++ String.intercalate ", " (symbols.map retrieval) ++ ") => \x7b "
        ++ String.join (symbols.map accessor) ++ "return (" ++ fill name code ++ "); \x7d)("
        ++ String.intercalate ", " (retrievals name dependencies) ++ ")/* " ++ type.text ++ " */"

def retrievals (name : String) : List Dependency → List String
  | [] => []
  | d :: rest => d.retrieved name :: retrievals name rest

def Dependency.retrieved (name : String) : Dependency → String
  | .binding _ target => "() => " ++ target
  | .inline _ target => "() => " ++ target.codeAs name

end

end TypeGuard
