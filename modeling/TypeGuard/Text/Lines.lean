/-!
The lines of a text.

A line feed ends a line, and one carriage return right before it belongs to the line end.
What follows the last line feed is a line of its own only if it is not empty.
-/

namespace TypeGuard.Text

def splitLines : List Char → List (List Char)
  | [] => []
  | '\r' :: '\n' :: rest => [] :: splitLines rest
  | '\n' :: rest => [] :: splitLines rest
  | c :: rest =>
    match splitLines rest with
    | [] => [[c]]
    | line :: more => (c :: line) :: more

/-- The lines of a text, without their line ends. -/
def lines (text : String) : List String :=
  (splitLines text.toList).map String.ofList

/-- The first line of a text, empty if the text has no line. -/
def firstLine (text : String) : String :=
  (lines text).headD ""

@[simp] theorem splitLines_nil : splitLines [] = [] := rfl

@[simp] theorem splitLines_newline (rest : List Char) :
    splitLines ('\n' :: rest) = [] :: splitLines rest := by
  simp [splitLines]

end TypeGuard.Text
