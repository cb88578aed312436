import TypeGuard.Output.Declarations
import TypeGuard.Output.Validation

/-!
The generated files of a schema and the manifest of the package that they make up.
-/

namespace TypeGuard

structure Files where
  validation : String
  declarations : String
  deriving DecidableEq, Repr

namespace Output

def validationFile : String := "index.js"

def declarationFile : String := "index.d.ts"

def manifestLine (key value : String) : String :=
  "  " ++ Text.quoted key ++ ": " ++ Text.quoted value

def manifest : String :=
  "\x7b\n"
    ++ String.intercalate ",\n"
      [manifestLine "name" ("." ++ programName),
       manifestLine "version" programVersion,
       manifestLine "description" "Generated type guards",
       manifestLine "main" validationFile,
       manifestLine "typings" declarationFile]
    ++ "\n\x7d"

end Output

def Schema.files (s : Schema) : Files := ⟨Output.validation s, Output.declarations s⟩

end TypeGuard
