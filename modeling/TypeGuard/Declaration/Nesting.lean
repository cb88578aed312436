import TypeGuard.Diagnostic.Basic

/-!
Whether the braces and parentheses of a token list are well nested.
-/

namespace TypeGuard.Nesting

/-- The opener that a closer belongs to. -/
def opener? : Kind → Option Kind
  | .closeBrace => some .openBrace
  | .closeParen => some .openParen
  | _ => none

def isOpener : Kind → Bool
  | .openBrace | .openParen => true
  | _ => false

/-- Reads one token, given the openers that are still open, the last one first. -/
def step (opened : List Token) (t : Token) : Except Diagnostic (List Token) :=
  if isOpener t.kind then .ok (t :: opened)
  else match opener? t.kind, opened with
    | none, _ => .ok opened
    | some _, [] => .error (t.malformed (.unmatched t.text))
    | some kind, last :: outer =>
      if last.kind = kind then .ok outer
      else .error (t.malformed (.mismatched t.text last))

/-- Reads tokens from left to right and returns the openers left open. -/
def run (opened : List Token) : List Token → Except Diagnostic (List Token)
  | [] => .ok opened
  | t :: rest =>
    match step opened t with
    | .error d => .error d
    | .ok opened => run opened rest

/-- Checks the nesting of a token list. The first closer without its opener is reported, or else the
last opener that is never closed. -/
def check (tokens : List Token) : Except Diagnostic Unit :=
  match run [] tokens with
  | .error d => .error d
  | .ok [] => .ok ()
  | .ok (last :: _) => .error (last.malformed (.unclosed last.text))

@[simp] theorem run_nil (opened : List Token) : run opened [] = .ok opened := rfl

theorem run_append (opened : List Token) (front back : List Token) :
    run opened (front ++ back) =
      match run opened front with
      | .error d => .error d
      | .ok left => run left back := by
  induction front generalizing opened with
  | nil => rfl
  | cons t rest ih =>
    simp only [List.cons_append, run]
    cases step opened t with
    | error d => rfl
    | ok left => exact ih left

end TypeGuard.Nesting
