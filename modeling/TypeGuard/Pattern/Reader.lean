import TypeGuard.Pattern.Class
import TypeGuard.Pattern.Simplify
import TypeGuard.Unicode.Alphabetic
import TypeGuard.Unicode.Number

/-!
The text of a pattern as a tree.

The text is read from left to right with a stack of open groups. A level of the stack holds the
alternatives that are complete, the items of the one under way, and the flags that come back into
force when its group closes.
-/

namespace TypeGuard.Pattern

/-- A part of a pattern and how deep its own parts are nested. -/
structure Part where
  /-- Absent for a change of flags, which cannot be repeated. -/
  tree? : Option (Tree Atom)
  nesting : Nat
  deriving DecidableEq, Repr

/-- How deep a row of parts is nested. A single part is no level of its own. -/
def rowNesting : List Part → Nat
  | [] => 0
  | [p] => p.nesting
  | ps => ps.foldl (fun n p => max n p.nesting) 0 + 1

/-- An open group, or the pattern as a whole. Items and alternatives stand in reverse order. -/
structure Level where
  alternatives : List Part
  items : List Part
  outerFlags : Flags
  captures : Bool
  deriving DecidableEq, Repr

namespace Level

def sequence (l : Level) : Part :=
  ⟨some (.ofItems ((l.items.reverse.filterMap (·.tree?)).flatMap (·.items))), rowNesting l.items⟩

def push (l : Level) (t : Tree Atom) (nesting : Nat) : Level :=
  { l with items := ⟨some t, nesting⟩ :: l.items }

def endAlternative (l : Level) : Level :=
  { l with alternatives := l.sequence :: l.alternatives, items := [] }

def close (l : Level) : Tree Atom × Nat :=
  let parts := l.sequence :: l.alternatives
  let tree := Tree.alternation (parts.reverse.filterMap (·.tree?))
  (if l.captures then tree.capture else tree, rowNesting parts)

def repeatLast (l : Level) (least : Nat) (most : Option Nat) : Except Problem Level :=
  match l.items with
  | ⟨some t, nesting⟩ :: rest =>
    .ok { l with items := ⟨some (t.repeated least most), nesting + 1⟩ :: rest }
  | _ => .error .nothingToRepeat

end Level

/-- What is known while a pattern is read. -/
structure State where
  flags : Flags
  level : Level
  /-- The levels around, the innermost first. -/
  outer : List Level
  /-- Names of the groups so far. -/
  names : List String
  deriving DecidableEq, Repr

/-- Groups, repetitions, sequences, alternatives and bracketed classes may be nested this deep. -/
def nestLimit : Nat := 250

def literalTree (flags : Flags) (c : Char) : Tree Atom :=
  .atom (.one (flags.fold (.singleton c.toNat)))

/-- Any character, up to the line ends that the flags keep out. -/
def dotSet (flags : Flags) : Except Problem CharSet :=
  if !flags.unicode then .error .notUnicode
  else if flags.dotAll then .ok (.range 0 0x10FFFF)
  else if flags.crlf then .ok ⟨[(0, 0x9), (0xB, 0xC), (0xE, 0x10FFFF)]⟩
  else .ok ⟨[(0, 0x9), (0xB, 0x10FFFF)]⟩

def Item.tree (flags : Flags) : Item → Tree Atom
  | literal c => literalTree flags c
  | set s => .atom (.one s)
  | assertion a => .atom (.assertion a)

/-- The number in front, with white space around it. -/
def readCount (flags : Flags) (cs : List Char) : Except Problem Nat × List Char :=
  let (digits, behind) := runOf flags.verbose Char.isDigit false (cs.dropWhile Unicode.isSpace)
  let behind := behind.dropWhile Unicode.isSpace
  if digits.isEmpty then (.error .emptyCount, behind)
  else
    let n := digits.foldl (fun n d => 10 * n + (d.toNat - 48)) 0
    (if n < UInt32.size then .ok n else .error .hugeCount, behind)

/-- A repetition count behind its opening brace: one number, a least number, or two bounds. -/
def readCounts (flags : Flags) (cs : List Char) :
    Except Problem ((Nat × Option Nat) × List Char) := do
  let cs := flags.skip cs
  if cs.isEmpty then throw .unclosedCount
  let (first, behind) := readCount flags cs
  match flags.skip behind with
  | [] => throw .unclosedCount
  | ',' :: rest =>
    match flags.skip rest with
    | [] => throw .unclosedCount
    | '\x7d' :: behind => return ((← first, none), behind)
    | rest =>
      let least ← first
      let (second, behind) := readCount flags rest
      let most ← second
      match flags.skip behind with
      | '\x7d' :: behind =>
        if most < least then throw .invertedCount
        return ((least, some most), behind)
      | _ => throw .unclosedCount
  | '\x7d' :: behind =>
    let n ← first
    return ((n, some n), behind)
  | _ => do
    let _ ← first
    throw .unclosedCount

/-- Passes over the mark of a repetition that prefers fewer rounds. -/
def skipLazy : List Char → List Char
  | '?' :: rest => rest
  | cs => cs

def Flags.set (flags : Flags) (value : Bool) : Char → Except Problem Flags
  | 'i' => .ok { flags with ignoreCase := value }
  | 'm' => .ok { flags with multiLine := value }
  | 's' => .ok { flags with dotAll := value }
  | 'R' => .ok { flags with crlf := value }
  | 'u' => .ok { flags with unicode := value }
  | 'x' => .ok { flags with verbose := value }
  | 'U' => .ok flags
  | c => .error (.unknownFlag c)

/-- Reads the flags of a group up to the colon or parenthesis that ends them, with the characters
seen so far; the last one is in front. Also says which character ended them. -/
def readFlags (flags : Flags) (seen : List Char) :
    List Char → Except Problem ((Flags × List Char × Char) × List Char)
  | [] => .error .unclosedFlags
  | c :: rest =>
    if c = ':' || c = ')' then
      if seen.head? = some '-' then .error .danglingNegation else .ok ((flags, seen, c), rest)
    else if seen.contains c then .error .repeatedFlag
    else if c = '-' then readFlags flags (c :: seen) rest
    else do
      let flags ← flags.set (!seen.contains '-') c
      readFlags flags (c :: seen) rest

/-- Whether a character may stand in the name of a group, at its start or later. -/
def isGroupNameChar (first : Bool) (c : Char) : Bool :=
  c = '_' || Unicode.isAlphabetic c
    || (!first && (c = '.' || c = '[' || c = ']' || Unicode.isNumeric c))

/-- The name of a group up to its closing angle. -/
def readGroupName (names : List String) (cs : List Char) : Except Problem (String × List Char) :=
  let name := cs.takeWhile (· != '>')
  let isName := match name with
    | [] => true
    | c :: rest => isGroupNameChar true c && rest.all (isGroupNameChar false)
  if !isName then .error .invalidGroupName
  else match cs.drop name.length with
    | [] => .error .unclosedGroupName
    | _ :: behind =>
      let name := String.ofList name
      if name.isEmpty then .error .emptyGroupName
      else if names.contains name then .error (.repeatedGroupName name)
      else .ok (name, behind)

def State.openGroup (s : State) (flags : Flags) (captures : Bool) : State :=
  { s with flags := flags, level := ⟨[], [], s.flags, captures⟩, outer := s.level :: s.outer }

/-- Reads what stands behind an opening parenthesis. -/
def readGroup (s : State) (cs : List Char) : Except Problem (State × List Char) := do
  match s.flags.skip cs with
  | '?' :: '=' :: _ | '?' :: '!' :: _ | '?' :: '<' :: '=' :: _ | '?' :: '<' :: '!' :: _ =>
    throw .lookAround
  | '?' :: 'P' :: '<' :: rest | '?' :: '<' :: rest =>
    let (name, behind) ← readGroupName s.names rest
    let s := s.openGroup s.flags true
    return ({ s with names := name :: s.names }, behind)
  | '?' :: rest =>
    if rest.isEmpty then throw .unclosedGroup
    let ((flags, seen, terminator), behind) ← readFlags s.flags [] rest
    if terminator = ':' then return (s.openGroup flags false, behind)
    if seen.isEmpty then throw .nothingToRepeat
    let level := { s.level with items := ⟨none, 0⟩ :: s.level.items }
    return ({ s with flags := flags, level := level }, behind)
  | rest => return (s.openGroup s.flags true, rest)

def State.step (s : State) (c : Char) (rest : List Char) : Except Problem (State × List Char) := do
  let push (t : Tree Atom) (behind : List Char) : Except Problem (State × List Char) :=
    .ok ({ s with level := s.level.push t 0 }, behind)
  let repeatItem (least : Nat) (most : Option Nat) (behind : List Char) :
      Except Problem (State × List Char) := do
    return ({ s with level := ← s.level.repeatLast least most }, skipLazy behind)
  match c with
  | '(' => readGroup s rest
  | ')' =>
    match s.outer with
    | [] => throw .unopenedGroup
    | parent :: outer =>
      let (t, nesting) := s.level.close
      let level := parent.push t (nesting + 1)
      return ({ s with flags := s.level.outerFlags, level := level, outer := outer }, rest)
  | '|' => return ({ s with level := s.level.endAlternative }, rest)
  | '[' =>
    let (⟨set, nesting⟩, behind) ← readClass s.flags rest
    return ({ s with level := s.level.push (.atom (.one set)) nesting }, behind)
  | '?' => repeatItem 0 (some 1) rest
  | '*' => repeatItem 0 none rest
  | '+' => repeatItem 1 none rest
  | '\x7b' =>
    let _ ← s.level.repeatLast 0 none
    let ((least, most), behind) ← readCounts s.flags rest
    repeatItem least most (s.flags.skip behind)
  | '\\' =>
    let (p, behind) ← readEscape s.flags rest
    push (p.tree s.flags) behind
  | '.' => push (.atom (.one (← dotSet s.flags))) rest
  | '^' =>
    push (.atom (.assertion (if s.flags.multiLine then .lineStart s.flags.crlf else .textStart)))
      rest
  | '$' =>
    push (.atom (.assertion (if s.flags.multiLine then .lineEnd s.flags.crlf else .textEnd))) rest
  | c => push (literalTree s.flags c) rest

def State.finish (s : State) : Except Problem (Tree Atom) :=
  if !s.outer.isEmpty then .error .unclosedGroup
  else
    let (t, nesting) := s.level.close
    if nestLimit < nesting then .error .deepNesting else .ok t

/-- Reads items until the text ends. Every item takes at least one character, so the number of
characters bounds the rounds. -/
def State.readAll : Nat → State → List Char → Except Problem (Tree Atom)
  | 0, s, _ => s.finish
  | fuel + 1, s, cs =>
    match s.flags.skip cs with
    | [] => s.finish
    | c :: rest => do
      let (s, behind) ← s.step c rest
      s.readAll fuel behind

def readTree (flags : Flags) (text : String) : Except Problem (Tree Atom) :=
  let cs := text.toList
  State.readAll (cs.length + 1) ⟨flags, ⟨[], [], flags, false⟩, [], []⟩ cs

end TypeGuard.Pattern
