import TypeGuard.Output.Sections
import TypeGuard.Schema.Basic

/-!
The file of types: a type or an interface for every declaration, and a guard for every model.
-/

namespace TypeGuard.Output

def aliasType (a : AliasEntry) : String := "type " ++ a.name ++ " = " ++ a.type.text ++ ";"

def propertyType (p : Property) : String := "    " ++ p.name ++ ": " ++ p.type.text ++ ";\n"

def interface (declare : String) (e : RecordEntry) : String :=
  declare ++ " " ++ e.name ++ " \x7b\n" ++ String.join (e.record.properties.map propertyType)
    ++ "\x7d"

def guardLine (e : RecordEntry) : String :=
  "export declare const " ++ (Role.record .model).symbol e.name
    ++ ": (v: unknown) => v is " ++ e.name ++ ";"

/-- The file of types. -/
def declarations (s : Schema) : String :=
  file
    [banner, configComment s.config,
     titled "type aliases" (s.aliases.map aliasType),
     titled "interfaces" (s.definitions.map (interface "interface")),
     titled "exported interfaces" (s.models.map (interface "export interface")),
     titled "type guards" (s.models.map guardLine)]

end TypeGuard.Output
