import TypeGuard.Pattern.Tree

/-!
Whether a text contains a match of a pattern.

A set of places in a text is a natural number whose bit `i` says whether place `i`, in front of
character `i`, belongs to it. A pattern takes the set of places where a match may start to the set
of places where it may end, so one run over all places decides the search.
-/

namespace TypeGuard.Pattern

/-- What a part of a pattern does on one text: from some of the places it goes on, by one character
or by none. -/
structure Gate where
  places : Nat
  advances : Bool
  deriving DecidableEq, Repr

/-- A bit in front of a row of bits. -/
def withBit (b : Bool) (rest : Nat) : Nat := 2 * rest + if b then 1 else 0

/-- The places in front of characters with a property. -/
def placesBefore (p : Char → Bool) : List Char → Nat
  | [] => 0
  | c :: rest => withBit (p c) (placesBefore p rest)

/-- The places between characters with a property of both neighbours, given the character before
the first place. -/
def placesBetween (p : Option Char → Option Char → Bool) (before : Option Char) :
    List Char → Nat
  | [] => withBit (p before none) 0
  | c :: rest => withBit (p before (some c)) (placesBetween p (some c) rest)

def Atom.gate (text : List Char) : Atom → Gate
  | one set => ⟨placesBefore set.contains text, true⟩
  | assertion a => ⟨placesBetween a.holds none text, false⟩

/-- Applies a step a number of times, or until nothing changes any more. -/
def iterate (step : Nat → Nat) : Nat → Nat → Nat
  | 0, places => places
  | n + 1, places =>
    let next := step places
    if next = places then places else iterate step n next

/-- The places where a match may end, for the places where it may start. Repetitions are cut off at
`bound` rounds, one more than the text has characters: by then a further round changes nothing. -/
def Tree.run (bound : Nat) : Tree Gate → Nat → Nat
  | empty, places => places
  | atom gate, places =>
    let passed := places &&& gate.places
    if gate.advances then 2 * passed else passed
  | sequence s t, places => t.run bound (s.run bound places)
  | choice s t, places => s.run bound places ||| t.run bound places
  | repetition s least most, places =>
    let required := iterate (fun ps => s.run bound ps) (min least bound) places
    let rounds := match most with
      | none => bound
      | some m => min (m - least) bound
    iterate (fun ps => ps ||| s.run bound ps) rounds required
  | capture s, places => s.run bound places

def Tree.matchesIn (t : Tree Atom) (text : List Char) : Bool :=
  let gates := t.map (Atom.gate text)
  gates.run (text.length + 1) ((1 <<< (text.length + 1)) - 1) != 0

end TypeGuard.Pattern
