import TypeGuard.Configuration

/-!
The parts that both generated files are made of: the banner, the configuration header and titled
sections, with a blank line between them.
-/

namespace TypeGuard.Output

def programName : String := "guardc"

def programVersion : String := "0.1.0"

def banner : String :=
  "/**\n * " ++ programName ++ " - Type Guard Compiler\n *\n * version " ++ programVersion
    ++ "\n *\n * AUTO-GENERATED FILE DO NOT EDIT DIRECTLY\n */"

def configComment (c : Configuration) : String :=
  "/**\n * config\n" ++ String.join (c.jsonLines.map fun line => " * " ++ line ++ "\n") ++ " */"

/-- A section: its title in a comment, and its lines. -/
def titled (title : String) (lines : List String) : String :=
  "/**\n * " ++ title ++ "\n */" ++ String.join (lines.map ("\n" ++ ·))

def file (parts : List String) : String := String.intercalate "\n\n" parts ++ "\n"

end TypeGuard.Output
