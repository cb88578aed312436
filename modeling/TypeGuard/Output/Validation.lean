import TypeGuard.Constraint.Template
import TypeGuard.Output.Sections
import TypeGuard.Schema.Basic
import TypeGuard.Text.Lines

/-!
The file of checks: for every declaration the code that tests a value at run time.
-/

namespace TypeGuard.Output

/-- The two functions that all checks use: one throws a diagnostic, one reads a property. -/
def runtimeHelpers : String :=
  "const wrap = (e) => \x7b\n    if (e instanceof Error) throw e;\n\n    return e;\n\x7d;\n"
    ++ "const field = (v, k) =>\n    v !== null && typeof v === \"object\" && !Array.isArray(v)"
    ++ " && Object.hasOwn(v, k) ? v[k] : undefined;"

def aliasStatements (a : AliasEntry) : List String :=
  a.constraints.flatMap (·.statements (Role.typeAlias.symbol a.name))

def aliasLine (a : AliasEntry) : String :=
  let binding := Role.typeAlias.symbol a.name
  let codes := a.constraints.map (·.codeAs binding)
  "var " ++ binding ++ " = [" ++ String.intercalate ", " codes ++ "];"

/-- The text of all global statements: those of the schema, then those of its aliases. -/
def globalsText (s : Schema) : String :=
  s.preamble ++ String.join ((s.aliases.flatMap aliasStatements).map ("\n" ++ ·))

def globals (s : Schema) : List String :=
  ((Text.lines (globalsText s)).filter (!·.isEmpty)).eraseDups

def recordLine (declare : String) (sort : RecordSort) (e : RecordEntry) : String :=
  declare ++ " " ++ (Role.record sort).symbol e.name ++ " = " ++ e.constraint.code ++ ";"

def validation (s : Schema) : String :=
  file
    [banner, configComment s.config, runtimeHelpers,
     titled "globals" (globals s),
     titled "aliases" (s.aliases.map aliasLine),
     titled "definitions" (s.definitions.map (recordLine "var" .definition)),
     titled "models" (s.models.map (recordLine "export var" .model))]

end TypeGuard.Output
