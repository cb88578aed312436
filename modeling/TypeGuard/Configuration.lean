import TypeGuard.Literal

/-!
Configuration: literals under names, in the order in which the names first appeared. A later value
takes the place of an earlier one.
-/

namespace TypeGuard

/-- Literals under names. -/
structure Configuration where
  entries : List (String × Literal)
  deriving Repr

namespace Configuration

def empty : Configuration := ⟨[]⟩

/-- Sets a name in a list of entries, in place if it is there and else at the end. -/
def setEntry (key : String) (value : Literal) :
    List (String × Literal) → List (String × Literal)
  | [] => [(key, value)]
  | (k, v) :: rest => if k = key then (k, value) :: rest else (k, v) :: setEntry key value rest

def insert (c : Configuration) (key : String) (value : Literal) : Configuration :=
  ⟨setEntry key value c.entries⟩

def get? (c : Configuration) (key : String) : Option Literal :=
  (c.entries.find? (·.1 == key)).map (·.2)

def keys (c : Configuration) : List String := c.entries.map (·.1)

def size (c : Configuration) : Nat := c.entries.length

def isEmpty (c : Configuration) : Bool := c.entries.isEmpty

/-- The JSON text on one line, without spaces. -/
def json (c : Configuration) : String :=
  "\x7b"
    ++ String.intercalate "," (c.entries.map fun (k, v) => Text.quoted k ++ ":" ++ v.json)
    ++ "\x7d"

def entryLines : List (String × Literal) → List String
  | [] => []
  | [(k, v)] => ["    " ++ Text.quoted k ++ ": " ++ v.json]
  | (k, v) :: next :: rest =>
    ("    " ++ Text.quoted k ++ ": " ++ v.json ++ ",") :: entryLines (next :: rest)

/-- The lines of the JSON text with one entry on a line. -/
def jsonLines (c : Configuration) : List String :=
  match c.entries with
  | [] => ["\x7b\x7d"]
  | entries => "\x7b" :: entryLines entries ++ ["\x7d"]

end Configuration

end TypeGuard
