import TypeGuard.Declaration.Grouping

/-!
The canonical layout of a schema.

Configuration blocks come first, the other declarations follow in their order. Aliases that follow
one another stay together; everything else is set apart by a blank line. Inside a block the names
are padded to the longest one, and comments are lost.
-/

namespace TypeGuard.Canonical

/-- Whether a token is set apart from the one before it. -/
def isSpaced (previous next : Kind) : Bool :=
  previous ≠ .openParen && next ≠ .openParen && next ≠ .closeParen && next ≠ .comma

def expressionAfter (previous : Kind) : List Token → String
  | [] => ""
  | t :: rest =>
    (if isSpaced previous t.kind then " " else "") ++ t.text ++ expressionAfter t.kind rest

/-- An expression: single spaces between terms and behind commas, none inside parentheses. -/
def expression : List Token → String
  | [] => ""
  | t :: rest => t.text ++ expressionAfter t.kind rest

/-- The length of the longest name. -/
def width (rows : List (String × String)) : Nat :=
  (rows.map (·.1.length)).foldl max 0

/-- One line of a block, its name padded to the given width. -/
def row (width : Nat) (name value : String) : String :=
  "    " ++ name ++ String.ofList (List.replicate (width - name.length) ' ') ++ " " ++ value ++ "\n"

def block (head : String) (rows : List (String × String)) : String :=
  head ++ " \x7b\n" ++ String.join (rows.map fun (name, value) => row (width rows) name value)
    ++ "\x7d"

def declaration : Declaration → String
  | .config _ settings => block "config" (settings.map fun s => (s.key.text, s.value.text))
  | .typeAlias name body => "alias " ++ name.text ++ " " ++ expression body
  | .record sort name properties =>
    block (sort.keyword.text ++ " " ++ name.text)
      (properties.map fun p => (p.name.text, expression p.expression))

def isConfig : Declaration → Bool
  | .config .. => true
  | _ => false

def isAlias : Declaration → Bool
  | .typeAlias .. => true
  | _ => false

/-- The texts of declarations, each with the gap that sets it apart from the one before. -/
def declarationsAfter (previous : Declaration) : List Declaration → String
  | [] => ""
  | d :: rest =>
    (if isAlias previous && isAlias d then "\n" else "\n\n") ++ declaration d
      ++ declarationsAfter d rest

/-- The declarations of a schema in the order of the canonical layout. -/
def ordered (ds : List Declaration) : List Declaration :=
  ds.filter isConfig ++ ds.filter (!isConfig ·)

def schema (ds : List Declaration) : String :=
  match ordered ds with
  | [] => ""
  | d :: rest => declaration d ++ declarationsAfter d rest ++ "\n"

end Canonical

/-- Sets a source text in its canonical layout. -/
def format (source : String) : Except Diagnostic String := do
  return Canonical.schema (← parse source)

end TypeGuard
