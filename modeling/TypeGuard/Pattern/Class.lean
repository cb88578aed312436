import TypeGuard.Pattern.Problem
import TypeGuard.Pattern.Property.CaseFold
import TypeGuard.Pattern.Property.Query
import TypeGuard.Pattern.Tree
import TypeGuard.Unicode.Space

/-!
Escapes and bracketed classes of characters.

Readers take the characters still to be read and return what they found with the characters behind
it. In verbose patterns, white space and comments between the parts are passed over. In patterns
that are not about Unicode, sets hold ASCII characters only.
-/

namespace TypeGuard.Pattern

/-- How the parts of a pattern are to be read. -/
structure Flags where
  ignoreCase : Bool := false
  multiLine : Bool := false
  dotAll : Bool := false
  crlf : Bool := false
  unicode : Bool := true
  verbose : Bool := false
  deriving DecidableEq, Repr

/-- Passes over white space, and over comments from a number sign to the end of the line. -/
def skipBlank (inComment : Bool) : List Char → List Char
  | [] => []
  | c :: rest =>
    if inComment then skipBlank (c != '\n') rest
    else if Unicode.isSpace c then skipBlank false rest
    else if c = '#' then skipBlank true rest
    else c :: rest

namespace Flags

def skip (flags : Flags) (cs : List Char) : List Char :=
  if flags.verbose then skipBlank false cs else cs

def take? (flags : Flags) : Nat → List Char → Option (List Char × List Char)
  | 0, cs => some ([], cs)
  | n + 1, cs =>
    match flags.skip cs with
    | [] => none
    | c :: rest => (flags.take? n rest).map fun (taken, behind) => (c :: taken, behind)

/-- The character that decides whether a hyphen in front of it makes a range. In a verbose pattern
this is the first one that is neither white space nor a number sign in front of all others. -/
def peek? (flags : Flags) (cs : List Char) : Option Char :=
  if flags.verbose then
    match cs.filter (!Unicode.isSpace ·) with
    | '#' :: c :: _ => some c
    | ['#'] => cs.head?
    | c :: _ => some c
    | [] => cs.head?
  else cs.head?

/-- A set closed under case where the flags ask for it. -/
def fold (flags : Flags) (s : CharSet) : CharSet :=
  if !flags.ignoreCase then s else if flags.unicode then s.folded else s.foldedAscii

/-- A set as the flags want it, or what is outside of it. -/
def close (flags : Flags) (negated : Bool) (s : CharSet) : Except Problem CharSet :=
  if !negated then .ok (flags.fold s)
  else if flags.unicode then .ok (flags.fold s).complement
  else .error .notUnicode

end Flags

/-- The longest run of characters with a property, and what stands behind it. In a verbose pattern
the run may be broken by white space and comments, which are left out. -/
def runOf (verbose : Bool) (p : Char → Bool) (inComment : Bool) :
    List Char → List Char × List Char
  | [] => ([], [])
  | c :: rest =>
    if inComment then runOf verbose p (c != '\n') rest
    else if verbose && Unicode.isSpace c then runOf verbose p false rest
    else if verbose && c = '#' then runOf verbose p true rest
    else if p c then
      let (run, behind) := runOf verbose p false rest
      (c :: run, behind)
    else ([], c :: rest)

def readBraced (flags : Flags) (cs : List Char) : Except Problem (List Char × List Char) :=
  match runOf flags.verbose (· != '\x7d') false cs with
  | (_, []) => .error .unclosedEscape
  | (inner, _ :: behind) => .ok (inner, behind)

/-- What an escape or a plain character stands for. -/
inductive Item where
  | literal (c : Char)
  | set (s : CharSet)
  | assertion (a : Assertion)
  deriving DecidableEq, Repr

def hexValue? (c : Char) : Option Nat :=
  if c.isDigit then some (c.toNat - 48)
  else if 'a' ≤ c && c ≤ 'f' then some (c.toNat - 87)
  else if 'A' ≤ c && c ≤ 'F' then some (c.toNat - 55)
  else none

def hexChar (digits : List Char) : Except Problem Char :=
  match digits.mapM hexValue? with
  | none => .error .invalidHex
  | some values =>
    let n := values.foldl (fun n d => 16 * n + d) 0
    if n.isValidChar then .ok (Char.ofNat n) else .error .invalidHex

/-- A code point: a fixed number of digits, or any number of them between braces. Two digits stand
for a byte where the pattern is not about Unicode, and a byte beyond ASCII is not a character. -/
def readHex (flags : Flags) (count : Nat) (cs : List Char) : Except Problem (Item × List Char) :=
  match flags.skip cs with
  | '\x7b' :: rest => do
    let (digits, behind) ← readBraced flags rest
    if digits.isEmpty then throw .invalidHex
    return (.literal (← hexChar digits), behind)
  | cs => do
    match flags.take? count cs with
    | none => throw .unclosedEscape
    | some (digits, behind) =>
      let c ← hexChar digits
      if count = 2 && !flags.unicode && 128 ≤ c.toNat then throw .notUnicode
      return (.literal c, behind)

/-- The characters of ASCII that may be escaped to stand for themselves. -/
def isEscapable (c : Char) : Bool :=
  decide (c.toNat < 128) && !c.isAlphanum && c ≠ '<' && c ≠ '>'

def namedBoundary? (unicode : Bool) : String → Option Assertion
  | "start" => some (.wordStart unicode)
  | "end" => some (.wordEnd unicode)
  | "start-half" => some (.wordStartHalf unicode)
  | "end-half" => some (.wordEndHalf unicode)
  | _ => none

/-- A word boundary, possibly with a name between braces. What stands between the braces is a name
if it starts with a letter or a hyphen, and else a repetition count that is read later. -/
def readBoundary (flags : Flags) (cs : List Char) : Except Problem (Item × List Char) :=
  let plain : Item := .assertion (.wordBoundary flags.unicode)
  match cs with
  | '\x7b' :: rest =>
    match flags.skip rest with
    | [] => .error .unclosedBoundary
    | rest =>
      match runOf flags.verbose (fun c => c.isAlpha || c = '-') false rest with
      | ([], _) => .ok (plain, cs)
      | (name, '\x7d' :: behind) =>
        match namedBoundary? flags.unicode (String.ofList name) with
        | some a => .ok (.assertion a, behind)
        | none => .error .unknownBoundary
      | _ => .error .unclosedBoundary
  | _ => .ok (plain, cs)

/-- The classes of characters that have an escape of their own. -/
inductive CharClass where
  | digit
  | space
  | word
  deriving DecidableEq, Repr

def CharClass.set (unicode : Bool) : CharClass → CharSet
  | digit => if unicode then Property.decimalNumber else .range 0x30 0x39
  | space => if unicode then Property.whiteSpace else ⟨[(0x9, 0xD), (0x20, 0x20)]⟩
  | word => wordSet unicode

/-- A class with an escape of its own, or what is outside of it. It is closed under case. -/
def classEscape (flags : Flags) (k : CharClass) (negated : Bool) : Except Problem Item :=
  ({ flags with ignoreCase := false }.close negated (k.set flags.unicode)).map .set

/-- The characters with a property: its name is a single letter or stands between braces. -/
def readProperty (flags : Flags) (negated : Bool) (cs : List Char) :
    Except Problem (Item × List Char) := do
  let (query, behind) ← match flags.skip cs with
    | [] => throw .unclosedEscape
    | '\x7b' :: rest => readBraced flags rest
    | c :: rest => pure ([c], rest)
  if !flags.unicode then throw .notUnicode
  match Property.query? query with
  | some (s, others) => return (.set (← flags.close (negated != others) s), behind)
  | none => throw .unknownProperty

/-- What stands behind a backslash. -/
def readEscape (flags : Flags) : List Char → Except Problem (Item × List Char)
  | [] => .error .unclosedEscape
  | c :: rest =>
    let literal (d : Char) : Except Problem (Item × List Char) := .ok (.literal d, rest)
    let place (a : Assertion) : Except Problem (Item × List Char) := .ok (.assertion a, rest)
    let named (k : CharClass) (negated : Bool) : Except Problem (Item × List Char) :=
      (classEscape flags k negated).map (·, rest)
    if isEscapable c then literal c
    else if c.isDigit then .error .backReference
    else match c with
      | 'a' => literal '\x07'
      | 'f' => literal '\x0c'
      | 't' => literal '\t'
      | 'n' => literal '\n'
      | 'r' => literal '\r'
      | 'v' => literal '\x0b'
      | 'x' => readHex flags 2 rest
      | 'u' => readHex flags 4 rest
      | 'U' => readHex flags 8 rest
      | 'd' => named .digit false
      | 'D' => named .digit true
      | 's' => named .space false
      | 'S' => named .space true
      | 'w' => named .word false
      | 'W' => named .word true
      | 'p' => readProperty flags false rest
      | 'P' => readProperty flags true rest
      | 'A' => place .textStart
      | 'z' => place .textEnd
      | 'b' => readBoundary flags rest
      | 'B' => place (.notWordBoundary flags.unicode)
      | '<' => place (.wordStart flags.unicode)
      | '>' => place (.wordEnd flags.unicode)
      | _ => .error (.unknownEscape c)

def namedSet? : String → Option CharSet
  | "alnum" => some ⟨[(0x30, 0x39), (0x41, 0x5A), (0x61, 0x7A)]⟩
  | "alpha" => some ⟨[(0x41, 0x5A), (0x61, 0x7A)]⟩
  | "ascii" => some (.range 0x0 0x7F)
  | "blank" => some ⟨[(0x9, 0x9), (0x20, 0x20)]⟩
  | "cntrl" => some ⟨[(0x0, 0x1F), (0x7F, 0x7F)]⟩
  | "digit" => some (.range 0x30 0x39)
  | "graph" => some (.range 0x21 0x7E)
  | "lower" => some (.range 0x61 0x7A)
  | "print" => some (.range 0x20 0x7E)
  | "punct" => some ⟨[(0x21, 0x2F), (0x3A, 0x40), (0x5B, 0x60), (0x7B, 0x7E)]⟩
  | "space" => some ⟨[(0x9, 0xD), (0x20, 0x20)]⟩
  | "upper" => some (.range 0x41 0x5A)
  | "word" => some (wordSet false)
  | "xdigit" => some ⟨[(0x30, 0x39), (0x41, 0x46), (0x61, 0x66)]⟩
  | _ => none

/-- A named class such as `[:alpha:]`, behind its first bracket, and whether it is negated. -/
def namedClass? : List Char → Option ((CharSet × Bool) × List Char)
  | ':' :: rest =>
    let (negated, rest) := match rest with
      | '^' :: more => (true, more)
      | _ => (false, rest)
    let name := rest.takeWhile (· != ':')
    match rest.drop name.length with
    | ':' :: ']' :: behind =>
      (namedSet? (String.ofList name)).map fun s => ((s, negated), behind)
    | _ => none
  | _ => none

inductive SetOperation where
  | intersection
  | difference
  | symmetricDifference
  deriving DecidableEq, Repr

/-- Applies an operation; both sides are closed under case first where the flags ask for it. -/
def SetOperation.apply (flags : Flags) (op : SetOperation) (s t : CharSet) : CharSet :=
  let s := flags.fold s
  let t := flags.fold t
  match op with
  | intersection => s.intersection t
  | difference => s.difference t
  | symmetricDifference => s.symmetricDifference t

/-- A set and how deep its parts are nested. -/
structure NestedSet where
  set : CharSet
  nesting : Nat
  deriving DecidableEq, Repr

structure OpenClass where
  negated : Bool
  /-- The left side and the operation that waits for its right side. -/
  pending : Option (NestedSet × SetOperation)
  /-- The union of the items since the last operation. -/
  items : CharSet
  /-- The number of these items. -/
  count : Nat
  /-- How deep the deepest of them is nested. -/
  nesting : Nat
  deriving DecidableEq, Repr

namespace OpenClass

def add (o : OpenClass) (s : CharSet) (nesting : Nat) : OpenClass :=
  { o with items := o.items.union s, count := o.count + 1, nesting := max o.nesting nesting }

/-- The set so far, with the pending operation applied. A union of several items is a level of
nesting, and so is an operation. -/
def current (flags : Flags) (o : OpenClass) : NestedSet :=
  let nesting := if 1 < o.count then o.nesting + 1 else o.nesting
  match o.pending with
  | none => ⟨o.items, nesting⟩
  | some (left, op) => ⟨op.apply flags left.set o.items, max left.nesting nesting + 1⟩

def operate (flags : Flags) (o : OpenClass) (op : SetOperation) : OpenClass :=
  { o with pending := some (o.current flags, op), items := .empty, count := 0, nesting := 0 }

def close (flags : Flags) (o : OpenClass) : Except Problem NestedSet :=
  let s := o.current flags
  (flags.close o.negated s.set).map (⟨·, s.nesting + 1⟩)

end OpenClass

/-- Hyphens at the start of a class stand for themselves. Also says how many there are. -/
def leadingHyphens (flags : Flags) : Nat → List Char → Nat × List Char
  | 0, cs => (0, cs)
  | fuel + 1, cs =>
    match cs with
    | '-' :: rest =>
      let (count, behind) := leadingHyphens flags fuel (flags.skip rest)
      (count + 1, behind)
    | _ => (0, cs)

/-- Opens a class behind its bracket: an optional negation, hyphens, and, if there are none, a
closing bracket, which then stands for itself. -/
def openClass (flags : Flags) (cs : List Char) : Except Problem (OpenClass × List Char) :=
  let cs := flags.skip cs
  let (negated, cs) := match cs with
    | '^' :: rest => (true, flags.skip rest)
    | _ => (false, cs)
  let (hyphens, cs) := leadingHyphens flags cs.length cs
  let start : OpenClass :=
    ⟨negated, none, if hyphens = 0 then .empty else .singleton 0x2D, hyphens, 0⟩
  match cs with
  | [] => .error .unclosedClass
  | ']' :: rest =>
    if hyphens ≠ 0 then .ok (start, cs)
    else
      let rest := flags.skip rest
      if rest.isEmpty then .error .unclosedClass else .ok (start.add (.singleton 0x5D) 0, rest)
  | _ => .ok (start, cs)

def classItem (flags : Flags) : List Char → Except Problem (Item × List Char)
  | [] => .error .unclosedClass
  | '\\' :: rest => readEscape flags rest
  | c :: rest => .ok (.literal c, rest)

/-- The character of an item that is the end of a range. -/
def Item.toChar (flags : Flags) : Item → Except Problem Char
  | literal c => if !flags.unicode && 128 ≤ c.toNat then .error .notUnicode else .ok c
  | _ => .error .invalidRange

/-- The set of an item that stands alone. -/
def Item.toSet (flags : Flags) : Item → Except Problem CharSet
  | literal c => do return .singleton (← (Item.literal c).toChar flags).toNat
  | set s => .ok s
  | assertion _ => .error .notInClass

/-- An item of a class, or a range between two of them. A hyphen in front of a closing bracket or
of another hyphen does not make a range. -/
def classRange (flags : Flags) (cs : List Char) : Except Problem (CharSet × List Char) := do
  let (first, behind) ← classItem flags cs
  match flags.skip behind with
  | [] => throw .unclosedClass
  | '-' :: rest =>
    if flags.peek? rest = some ']' || flags.peek? rest = some '-' then
      return (← first.toSet flags, '-' :: rest)
    match flags.skip rest with
    | [] => throw .unclosedClass
    | next =>
      let (second, behind) ← classItem flags next
      let low ← first.toChar flags
      let high ← second.toChar flags
      if high < low then throw .invalidRange
      return (.range low.toNat high.toNat, behind)
  | behind => return (← first.toSet flags, behind)

/-- Reads the rest of a class, given the classes that are open, the innermost first. Every round
reads at least one character, so the number of characters bounds the rounds. -/
def classFrom (flags : Flags) :
    Nat → List OpenClass → List Char → Except Problem (NestedSet × List Char)
  | 0, _, _ => .error .unclosedClass
  | _, [], _ => .error .unclosedClass
  | fuel + 1, o :: outer, cs => do
    match flags.skip cs with
    | [] => throw .unclosedClass
    | '[' :: rest =>
      match namedClass? rest with
      | some ((s, negated), behind) =>
        classFrom flags fuel (o.add (← flags.close negated s) 0 :: outer) behind
      | none =>
        let (inner, behind) ← openClass flags rest
        classFrom flags fuel (inner :: o :: outer) behind
    | ']' :: rest =>
      let closed ← o.close flags
      match outer with
      | [] => return (closed, rest)
      | parent :: more =>
        classFrom flags fuel (parent.add closed.set closed.nesting :: more) rest
    | '&' :: '&' :: rest => classFrom flags fuel (o.operate flags .intersection :: outer) rest
    | '-' :: '-' :: rest => classFrom flags fuel (o.operate flags .difference :: outer) rest
    | '~' :: '~' :: rest =>
      classFrom flags fuel (o.operate flags .symmetricDifference :: outer) rest
    | cs =>
      let (s, behind) ← classRange flags cs
      classFrom flags fuel (o.add s 0 :: outer) behind

def readClass (flags : Flags) (cs : List Char) : Except Problem (NestedSet × List Char) := do
  let (o, behind) ← openClass flags cs
  classFrom flags (behind.length + 1) [o] behind

end TypeGuard.Pattern
