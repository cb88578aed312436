import TypeGuard.Pattern.Property.Age
import TypeGuard.Pattern.Property.Binary
import TypeGuard.Pattern.Property.Break
import TypeGuard.Pattern.Property.SharedScript

/-!
Sets of characters that a pattern names by a property of Unicode.

A query is the name of a property, a category or a script on its own, or a kind of property and one
of its values with a sign between them.
-/

namespace TypeGuard.Pattern.Property

open CharSet (unionOf)

/-- Cuts a text at the first place where a separator stands. -/
def cutAt? (separator : List Char) : List Char → Option (List Char × List Char)
  | [] => none
  | c :: rest =>
    if separator.isPrefixOf (c :: rest) then some ([], (c :: rest).drop separator.length)
    else (cutAt? separator rest).map fun (before, behind) => (c :: before, behind)

/-- The characters that are used with a script: its own, less those of which the scripts that use
them are known, and those that it shares with other scripts. -/
def extensionSet? (name : String) : Option CharSet :=
  (find? scripts name).map fun s =>
    match name with
    | "zyyy" | "common" => s.difference sharedCommon
    | "zinh" | "qaai" | "inherited" => s.difference sharedInherited
    | _ => s.union ((find? shared name).getD .empty)

def ageSet? (name : String) : Option CharSet :=
  (ages.findIdx? (·.names.contains name)).map fun i => unionOf (setsOf (ages.take (i + 1)))

/-- The characters with a given value of a kind of property. -/
def valueSet? (kind value : String) : Option CharSet :=
  match kind with
  | "gc" | "generalcategory" => find? categories value
  | "sc" | "script" => find? scripts value
  | "scx" | "scriptextensions" => extensionSet? value
  | "age" => ageSet? value
  | "gcb" | "graphemeclusterbreak" => find? graphemeClusterBreaks value
  | "sb" | "sentencebreak" => find? sentenceBreaks value
  | "wb" | "wordbreak" => find? wordBreaks value
  | _ => none

/-- The characters that a query asks for, and whether it asks for all others instead. -/
def query? (text : List Char) : Option (CharSet × Bool) :=
  match cutAt? ['!', '='] text with
  | some (kind, value) => (valueSet? (looseName kind) (looseName value)).map (·, true)
  | none =>
    match cutAt? [':'] text <|> cutAt? ['='] text with
    | some (kind, value) => (valueSet? (looseName kind) (looseName value)).map (·, false)
    | none => (find? (binaryProperties ++ categories ++ scripts) (looseName text)).map (·, false)

end TypeGuard.Pattern.Property
