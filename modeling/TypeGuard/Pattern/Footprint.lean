import TypeGuard.Pattern.Problem
import TypeGuard.Pattern.Simplify
import TypeGuard.Text.Encoding

/-!
The size of a pattern, and the limit on it.

A pattern is measured by the two machines that would run it byte by byte, one from left to right and
one from right to left. A machine has states of 32 bytes; a state takes eight more for each range of
bytes it tells apart, and four more for each state it may go on to without reading. Captures take
two states, in the first machine only. Repetition counts are written out, so the size of a short
pattern can be large.
-/

namespace TypeGuard.Pattern

inductive Direction where
  | forward
  | backward
  deriving DecidableEq, Repr

/-- What a part of a pattern is to a machine. -/
inductive Shape where
  | place
  /-- A fixed character by its bytes. -/
  | fixed (bytes : List Nat)
  /-- One byte, with the number of ranges to tell apart. -/
  | byte (ranges : Nat)
  /-- A character from sequences of ranges of bytes, with the number of the states that read it
  forward and of the ranges that they tell apart. -/
  | encoded (sequences : List (List (Nat × Nat))) (states ranges : Nat)
  deriving DecidableEq, Repr

/-- Groups sequences that start with the same range, without that range. -/
def groupByStart : List (List (Nat × Nat)) → List ((Nat × Nat) × List (List (Nat × Nat)))
  | [] => []
  | [] :: rest => groupByStart rest
  | (r :: tail) :: rest =>
    match groupByStart rest with
    | (r', tails) :: more =>
      if r = r' then (r, tail :: tails) :: more else (r, [tail]) :: (r', tails) :: more
    | [] => [(r, [tail])]

/-- The states that read one of the given sequences, each with the number of ranges that it tells
apart. A state is known by the sequences still to be read. Sequences have four ranges at most. -/
def forwardStates : Nat → List (List (Nat × Nat)) → List (List (List (Nat × Nat)) × Nat)
  | 0, _ => []
  | fuel + 1, sequences =>
    let groups := groupByStart sequences
    if groups.isEmpty then []
    else (sequences, groups.length) :: groups.flatMap fun (_, tails) => forwardStates fuel tails

/-- States without repeats. States with as many ranges and sequences left are compared. -/
def distinct (states : List (List (List (Nat × Nat)) × Nat)) :
    List (List (List (Nat × Nat)) × Nat) :=
  states.foldl (fun seen s => if seen.contains s then seen else s :: seen) []

def Atom.shape : Atom → Shape
  | assertion _ => .place
  | one s =>
    match s.ranges with
    | [(first, last)] =>
      if first = last then .fixed (Text.encode first)
      else if s.isAscii then .byte 1
      else encodedShape s.ranges
    | ranges => if s.isAscii then .byte ranges.length else encodedShape ranges
where
  encodedShape (ranges : List (Nat × Nat)) : Shape :=
    let sequences := ranges.flatMap Text.byteRanges
    let states := distinct (forwardStates 5 sequences)
    .encoded sequences states.length (states.foldl (fun n s => n + s.2) 0)

/-- A place in the table of states that sequences with the same start share, with the use of the
table that it dates from. -/
structure Slot where
  use : Nat
  next : Nat
  first : Nat
  last : Nat
  state : Nat
  deriving DecidableEq, Repr

def slotCount : Nat := 1000

/-- The slot for a range of bytes in front of a state, by multiplicative hashing. -/
def slotOf (next first last : Nat) : Nat :=
  let step (h : UInt64) (n : Nat) : UInt64 := (h ^^^ n.toUInt64) * 1099511628211
  ((step (step (step 14695981039346656037 next) first) last) % slotCount.toUInt64).toNat

/-- The machine so far: its states, the bytes that they take beyond their own size, and the table of
shared states. -/
structure Machine where
  states : Nat
  extra : Nat
  uses : Nat
  slots : Array Slot

namespace Machine

/-- A machine may take this many bytes. -/
def limit : Nat := 10 * 1024 * 1024

def add (states extra : Nat) (m : Machine) : Machine :=
  { m with states := m.states + states, extra := m.extra + extra }

def check (m : Machine) : Option Machine :=
  if 32 * m.states + m.extra ≤ limit then some m else none

/-- Adds the states of a sequence in front of a given state. A range that the table knows in front
of the same state adds none. Returns the first state to be entered. -/
def addSequence (m : Machine) (next : Nat) : List (Nat × Nat) → Machine × Nat
  | [] => (m, next)
  | (first, last) :: rest =>
    let i := slotOf next first last
    match m.slots[i]? with
    | some slot =>
      if slot.use = m.uses && slot.next = next && slot.first = first && slot.last = last then
        addSequence m slot.state rest
      else
        let state := m.states
        let slots := m.slots.set! i ⟨m.uses, next, first, last, state⟩
        addSequence { m with states := state + 1, slots := slots } state rest
    | none => (m, next)

/-- Adds the states that read a character backward: one to choose between the sequences, one behind
them, and those of the sequences. -/
def addSequences (m : Machine) (sequences : List (List (Nat × Nat))) : Machine :=
  let behind := m.states + 1
  let start := { m with states := m.states + 2, uses := m.uses + 1 }
  let m := sequences.foldl (fun m s => (m.addSequence behind s).1) start
  m.add 0 (4 * sequences.length)

def addShape (d : Direction) (m : Machine) : Shape → Machine
  | .place => m.add 1 0
  | .fixed bytes => m.add bytes.length 0
  | .byte ranges => m.add 2 (8 * ranges)
  | .encoded sequences states ranges =>
    match d with
    | .forward => m.add (states + 1) (8 * ranges)
    | .backward => m.addSequences sequences

/-- Applies a step a number of times, or until it fails. -/
def times (step : Machine → Option Machine) : Nat → Machine → Option Machine
  | 0, m => some m
  | n + 1, m =>
    match step m with
    | none => none
    | some m => times step n m

end Machine

namespace Tree

/-- The bytes of a tree that is a fixed text. -/
def fixedBytes? : Tree Shape → Option (List Nat)
  | atom (.fixed bytes) => some bytes
  | sequence s t => do return (← s.fixedBytes?) ++ (← t.fixedBytes?)
  | _ => none

/-- The fixed texts that a choice is between, if all alternatives are. -/
def fixedTexts? : Tree Shape → Option (List (List Nat))
  | choice s t => do return (← s.fixedTexts?) ++ (← t.fixedTexts?)
  | t => (t.fixedBytes?).map ([·])

/-- The length in bytes that every match has at least, if there can be a match; only whether it is
positive matters. -/
def leastLength : Tree Shape → Option Nat
  | empty => some 0
  | atom .place => some 0
  | atom (.byte ranges) => if ranges = 0 then none else some 1
  | atom _ => some 1
  | sequence s t => do return (← s.leastLength) + (← t.leastLength)
  | choice s t => do return min (← s.leastLength) (← t.leastLength)
  | repetition s least _ => s.leastLength.map (least * ·)
  | capture s => s.leastLength

end Tree

/-- Cuts a list of texts at each empty one, given those since the last cut in reverse order. -/
def cutAtEmpty (chunk : List (List Nat)) : List (List Nat) → List (List (List Nat))
  | [] => [chunk.reverse]
  | [] :: rest => chunk.reverse :: cutAtEmpty [] rest
  | text :: rest => cutAtEmpty (text :: chunk) rest

/-- Cuts a list of texts at each empty one. Empty texts in front of all others are one cut. -/
def chunks : List (List Nat) → List (List (List Nat))
  | [] :: rest => [] :: cutAtEmpty [] (rest.dropWhile (·.isEmpty))
  | texts => cutAtEmpty [] texts

/-- The states of the tree of fixed texts, and what they take beyond their own size. At a place
where a text ends, those behind it in the list are looked at after it. -/
def textStates : Nat → List (List Nat) → Nat × Nat
  | 0, _ => (0, 0)
  | fuel + 1, texts =>
    let parts := chunks texts
    let filled := parts.filter (!·.isEmpty)
    let branches := filled.map fun part => (part.filterMap List.head?).eraseDups
    let below := (filled.zip branches).flatMap fun (part, firsts) => firsts.map fun b =>
      let tails := (part.filter (·.head? = some b)).map List.tail
      if tails.all (·.isEmpty) then (0, 0) else textStates fuel tails
    let own := branches.map fun firsts => if firsts.length = 1 then 0 else 8 * firsts.length
    (1 + filled.length + (below.map (·.1)).sum,
      4 * (filled.length + (parts.length - 1)) + own.sum + (below.map (·.2)).sum)

namespace Tree

/-- Adds the states of a tree. The number says how many alternatives of the same choice stand in
front of it: behind the second one come the state that chooses and the state where all meet. -/
def grow (d : Direction) : Tree Shape → Nat → Machine → Option Machine
  | empty, k, m => meet k (m.add 1 0)
  | atom a, k, m => meet k (m.addShape d a)
  | sequence s t, k, m => do
    match d with
    | .forward => meet k (← t.grow d 0 (← s.grow d 0 m))
    | .backward => meet k (← s.grow d 0 (← t.grow d 0 m))
  | choice s t, k, m => do
    match k, (choice s t).fixedTexts? with
    | 0, some texts =>
      let texts := if d = .backward then texts.map List.reverse else texts
      let fuel := (texts.map List.length).foldl max 0
      let (states, extra) := textStates (fuel + 1) texts
      (m.add (states + 1) extra).check
    | 0, none => t.grow d 1 (← s.grow d 0 m)
    | k + 1, _ => t.grow d (k + 2) (← meet (k + 1) (← s.grow d 0 m))
  | repetition s least most, k, m => do
    let once := s.grow d 0
    let optional (m : Machine) : Option Machine := once (m.add 1 8)
    match least, most with
    | 0, some 1 => meet k ((← optional m).add 1 0)
    | 0, none =>
      if 0 < s.leastLength.getD 0 then meet k (← optional m)
      else meet k ((← once m).add 3 16)
    | least, none => meet k ((← Machine.times once least m).add 1 8)
    | 0, some most => meet k (← Machine.times optional most (m.add 2 0))
    | least, some most =>
      let m ← Machine.times once least m
      if least = most then meet k m
      else meet k (← Machine.times optional (most - least) (m.add 1 0))
  | capture s, k, m =>
    match d with
    | .forward => do meet k ((← s.grow d 0 (m.add 1 0)).add 1 0)
    | .backward => s.grow d 0 m >>= meet k
where
  meet (k : Nat) (m : Machine) : Option Machine :=
    match k with
    | 0 => m.check
    | 1 => (m.add 2 8).check
    | _ => (m.add 0 4).check

/-- Whether a match can only start at the start of the text, or end at its end. -/
def isAnchored (d : Direction) : Tree Atom → Bool
  | empty => false
  | atom (.one _) => false
  | atom (.assertion a) => a = match d with
    | .forward => .textStart
    | .backward => .textEnd
  | sequence s t =>
    match d with
    | .forward => s.isAnchored d || (s.isEmptyOnly && t.isAnchored d)
    | .backward => t.isAnchored d || (t.isEmptyOnly && s.isAnchored d)
  | choice s t => s.isAnchored d && t.isAnchored d
  | repetition s least _ => 0 < least && s.isAnchored d
  | capture s => s.isAnchored d

/-- The machine before anything is read: unless matches are anchored, three states pass over what
stands in front of a match. -/
def start (d : Direction) (t : Tree Atom) : Machine :=
  let m : Machine := ⟨0, 0, 0, Array.replicate slotCount ⟨0, 0, 0, 0, 0⟩⟩
  if t.isAnchored d then m.add 1 0 else m.add 3 16

/-- Whether the machines for a pattern keep within the limit. The whole match is a capture of its
own, and one more state reports it. -/
def isSmall (t : Tree Atom) : Bool :=
  let fits (d : Direction) :=
    (((t.map Atom.shape).capture.grow d 0 (t.start d)).bind fun m => (m.add 1 0).check).isSome
  fits .backward && fits .forward

end Tree

end TypeGuard.Pattern
