import TypeGuard.Pattern.Tree

/-!
Building trees in a simplified form.

Sequences hold no empty parts, repetitions that change nothing are dropped, alternatives of single
characters become one set, and alternatives that start alike share their start. The size of a
pattern is measured in this form.
-/

namespace TypeGuard.Pattern.Tree

def isEmptyOnly : Tree Atom → Bool
  | empty => true
  | atom (.one _) => false
  | atom (.assertion _) => true
  | sequence s t => s.isEmptyOnly && t.isEmptyOnly
  | choice s t => s.isEmptyOnly && t.isEmptyOnly
  | repetition s _ most => s.isEmptyOnly && most.isSome
  | capture s => s.isEmptyOnly

/-- A repetition. What matches the empty text only is repeated once at most. -/
def repeated (body : Tree Atom) (least : Nat) (most : Option Nat) : Tree Atom :=
  let (least, most) :=
    if body.isEmptyOnly then (min least 1, some ((most.map (min · 1)).getD 1)) else (least, most)
  if least = 0 && most = some 0 then empty
  else if least = 1 && most = some 1 then body
  else repetition body least most

def items : Tree Atom → List (Tree Atom)
  | empty => []
  | sequence s t => s.items ++ t.items
  | t => [t]

def ofItems : List (Tree Atom) → Tree Atom
  | [] => empty
  | [t] => t
  | t :: rest => sequence t (ofItems rest)

def alternatives {α : Type} : Tree α → List (Tree α)
  | choice s t => s.alternatives ++ t.alternatives
  | t => [t]

def ofAlternatives : List (Tree Atom) → Tree Atom
  | [] => atom (.one .empty)
  | [t] => t
  | t :: rest => choice t (ofAlternatives rest)

/-- The set of characters that a tree stands for, if it is a single one. -/
def set? : Tree Atom → Option CharSet
  | atom (.one s) => some s
  | _ => none

def isLiteral : Tree Atom → Bool
  | atom (.one ⟨[(first, last)]⟩) => first = last
  | _ => false

def hasCapture : Tree Atom → Bool
  | empty => false
  | atom _ => false
  | sequence s t => s.hasCapture || t.hasCapture
  | choice s t => s.hasCapture || t.hasCapture
  | repetition s _ _ => s.hasCapture
  | capture _ => true

/-- Cuts a sequence into pieces: fixed characters in a row are one piece. -/
def pieces : List (Tree Atom) → List (List (Tree Atom))
  | [] => []
  | t :: rest =>
    match pieces rest with
    | (u :: us) :: more =>
      if t.isLiteral && u.isLiteral then (t :: u :: us) :: more else [t] :: (u :: us) :: more
    | more => [t] :: more

/-- The pieces that two sequences start with. Captures are never the same. -/
def sharedStart : List (List (Tree Atom)) → List (List (Tree Atom)) → List (List (Tree Atom))
  | p :: ps, q :: qs => if p = q && !p.any hasCapture then p :: sharedStart ps qs else []
  | _, _ => []

/-- A choice between alternatives in simplified form. The rounds are bounded by the number of
pieces of the first alternative, since each takes a shared start away from it. -/
def alternationFrom : Nat → List (Tree Atom) → Tree Atom
  | 0, ts => ofAlternatives ts
  | fuel + 1, ts =>
    let ts := ts.flatMap alternatives
    match ts.mapM set? with
    | some sets => if sets.length ≤ 1 then ofAlternatives ts else atom (.one (.unionOf sets))
    | none =>
      match ts.map fun t => pieces t.items with
      | [] => ofAlternatives ts
      | row :: rows =>
        let start := rows.foldl sharedStart row
        if rows.isEmpty || start.isEmpty || (row :: rows).any (·.length < 2) then ofAlternatives ts
        else
          let rests := (row :: rows).map fun r => ofItems (r.drop start.length).flatten
          ofItems (start.flatten ++ (alternationFrom fuel rests).items)

def alternation (ts : List (Tree Atom)) : Tree Atom :=
  match ts with
  | [] => ofAlternatives ts
  | t :: _ => alternationFrom (t.items.length + 1) ts

end TypeGuard.Pattern.Tree
