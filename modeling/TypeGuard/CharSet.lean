/-!
Sets of characters as closed ranges of code points, in ascending order and apart from each other.
-/

namespace TypeGuard

structure CharSet where
  ranges : List (Nat × Nat)
  deriving DecidableEq, Repr

namespace CharSet

def hasPoint (s : CharSet) (n : Nat) : Bool :=
  s.ranges.any fun (first, last) => first ≤ n && n ≤ last

def contains (s : CharSet) (c : Char) : Bool := s.hasPoint c.toNat

def empty : CharSet := ⟨[]⟩

def range (first last : Nat) : CharSet := ⟨[(first, last)]⟩

def singleton (n : Nat) : CharSet := range n n

def isAscii (s : CharSet) : Bool := s.ranges.all fun (_, last) => last < 128

/-- Every second code point, for tables in which two kinds of characters alternate. -/
def everySecond (first last : Nat) : List (Nat × Nat) :=
  (List.range ((last - first) / 2 + 1)).map fun i => (first + 2 * i, first + 2 * i)

/-- Joins ranges that overlap or touch, given the one under way and those behind it, in the order
of their starts. -/
def joinFrom (first last : Nat) : List (Nat × Nat) → List (Nat × Nat)
  | [] => [(first, last)]
  | (a, b) :: rest =>
    if a ≤ last + 1 then joinFrom first (max last b) rest else (first, last) :: joinFrom a b rest

/-- Merges two lists of ranges by their starts. The rounds are bounded by the number of ranges. -/
def mergeFrom : Nat → List (Nat × Nat) → List (Nat × Nat) → List (Nat × Nat)
  | 0, xs, ys => xs ++ ys
  | _, [], ys => ys
  | _, xs, [] => xs
  | fuel + 1, x :: xs, y :: ys =>
    if x.1 ≤ y.1 then x :: mergeFrom fuel xs (y :: ys) else y :: mergeFrom fuel (x :: xs) ys

def union (s t : CharSet) : CharSet :=
  match mergeFrom (s.ranges.length + t.ranges.length) s.ranges t.ranges with
  | [] => empty
  | (first, last) :: rest => ⟨joinFrom first last rest⟩

/-- The common parts of two lists of ranges. The rounds are bounded by the number of ranges. -/
def overlapFrom : Nat → List (Nat × Nat) → List (Nat × Nat) → List (Nat × Nat)
  | 0, _, _ => []
  | _, [], _ => []
  | _, _, [] => []
  | fuel + 1, (a, b) :: xs, (c, d) :: ys =>
    let rest :=
      if b < d then overlapFrom fuel xs ((c, d) :: ys) else overlapFrom fuel ((a, b) :: xs) ys
    if max a c ≤ min b d then (max a c, min b d) :: rest else rest

def intersection (s t : CharSet) : CharSet :=
  ⟨overlapFrom (s.ranges.length + t.ranges.length) s.ranges t.ranges⟩

/-- The gaps between ranges, from a code point on. -/
def gapsFrom (next : Nat) : List (Nat × Nat) → List (Nat × Nat)
  | [] => if next ≤ 0x10FFFF then [(next, 0x10FFFF)] else []
  | (first, last) :: rest =>
    if next < first then (next, first - 1) :: gapsFrom (last + 1) rest
    else gapsFrom (last + 1) rest

/-- A range whose ends are characters. The code points between the two parts of the range of
characters are surrogates. -/
def trim? (r : Nat × Nat) : Option (Nat × Nat) :=
  let first := if 0xD800 ≤ r.1 && r.1 < 0xE000 then 0xE000 else r.1
  let last := if 0xD800 ≤ r.2 && r.2 < 0xE000 then 0xD7FF else r.2
  if first ≤ last then some (first, last) else none

def complement (s : CharSet) : CharSet := ⟨(gapsFrom 0 s.ranges).filterMap trim?⟩

def difference (s t : CharSet) : CharSet := s.intersection t.complement

def symmetricDifference (s t : CharSet) : CharSet := (s.difference t).union (t.difference s)

def unionOf (sets : List CharSet) : CharSet := sets.foldr union empty

end CharSet

end TypeGuard
