import TypeGuard.Diagnostic.Cause

/-!
Diagnostics: a reason, the place it points at, and the source text it is shown with.

Once a source is attached, the diagnostic shows the line of its place and, below it, carets under
the characters concerned.
-/

namespace TypeGuard

/-- A source text under the label by which messages name it. -/
structure Source where
  label : String
  text : String
  deriving DecidableEq, Repr

structure Diagnostic where
  cause : Cause
  span : Option Span
  source : Option Source
  deriving DecidableEq, Repr

namespace Diagnostic

def unplaced (cause : Cause) : Diagnostic := ⟨cause, none, none⟩

def placed (cause : Cause) (span : Span) : Diagnostic := ⟨cause, some span, none⟩

/-- Attaches a source, in place of any attached before. -/
def attach (d : Diagnostic) (label text : String) : Diagnostic :=
  { d with source := some ⟨label, text⟩ }

/-- The label of the attached source, empty without one. -/
def file (d : Diagnostic) : String := (d.source.map (·.label)).getD ""

/-- The line pointed at, zero if there is none. -/
def line (d : Diagnostic) : Nat := (d.span.map (·.position.line)).getD 0

def column (d : Diagnostic) : Nat := (d.span.map (·.position.column)).getD 0

/-- Whether the place is one of a text: lines and columns count from one. -/
def isPlaced (d : Diagnostic) : Bool := d.line != 0 && d.column != 0

/-- The source line pointed at, empty where the source has no such line. -/
def snippet (d : Diagnostic) : String :=
  match d.source with
  | some source =>
    if d.isPlaced then (Text.lines source.text)[d.line - 1]?.getD "" else ""
  | none => ""

/-- Carets under `width` characters from `column` of a line with `length` characters. They never
run past the end of the line, except for a single one right behind it. -/
def carets (length column width : Nat) : String :=
  let indent := min (column - 1) length
  String.ofList
    (List.replicate indent ' ' ++ List.replicate (min width (max (length - indent) 1)) '^')

def pointer (d : Diagnostic) : String :=
  match d.source, d.span with
  | some _, some span =>
    if d.isPlaced then carets d.snippet.length span.position.column span.width else ""
  | _, _ => ""

def location (d : Diagnostic) : String :=
  if d.file.isEmpty then
    "line " ++ toString d.line ++ ", column " ++ toString d.column
  else
    d.file ++ ":" ++ toString d.line ++ ":" ++ toString d.column

/-- A line number, set to the right in three columns. -/
def gutter (line : Nat) : String :=
  let digits := toString line
  String.ofList (List.replicate (3 - digits.length) ' ') ++ digits

def render (d : Diagnostic) : String :=
  let head := d.cause.category.label ++ ": " ++ d.cause.message
  if !d.isPlaced then
    if d.file.isEmpty then head else head ++ " (" ++ d.file ++ ")"
  else if d.snippet.isEmpty then
    head ++ "\n --> " ++ d.location
  else
    head ++ "\n --> " ++ d.location ++ "\n  |\n" ++ gutter d.line ++ " | " ++ d.snippet
      ++ "\n  | " ++ d.pointer

end Diagnostic

def Token.reject (t : Token) (cause : Cause) : Diagnostic := .placed cause t.span

def Token.malformed (t : Token) (problem : StructuralProblem) : Diagnostic :=
  t.reject (.structural problem)

end TypeGuard
