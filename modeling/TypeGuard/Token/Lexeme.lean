import TypeGuard.Token.Kind

/-!
The spelling of each kind of token: for every kind, the longest piece at the front of the given
characters that belongs to it.
-/

namespace TypeGuard.Lexeme

def isNameStart (c : Char) : Bool :=
  c = '_' || c = '$' || c.isAlpha || (decide (0xA0 ≤ c.toNat) && decide (c.toNat ≤ 0xFFFF))

def isNameRest (c : Char) : Bool :=
  isNameStart c || c.isDigit

/-- Horizontal white space. -/
def isBlank (c : Char) : Bool :=
  c = ' ' || c = '\t' || c = '\r' || c = '\x0b' || c = '\x0c'

/-- A given word, if it stands in front as a whole word. -/
def word (w : List Char) (cs : List Char) : List Char :=
  if w.isPrefixOf cs && !(cs.drop w.length).head?.any isNameRest then w else []

/-- A comment: two slashes and everything up to the end of the line. -/
def comment : List Char → List Char
  | '/' :: '/' :: rest => '/' :: '/' :: rest.takeWhile (· != '\n')
  | _ => []

def boolean (cs : List Char) : List Char :=
  match word "true".toList cs with
  | [] => word "false".toList cs
  | w => w

def identifier : List Char → List Char
  | c :: rest => if isNameStart c then c :: rest.takeWhile isNameRest else []
  | [] => []

/-- Digits with an optional point and more digits behind them. -/
def wholeNumber (cs : List Char) : List Char :=
  match cs.takeWhile Char.isDigit, cs.dropWhile Char.isDigit with
  | [], _ => []
  | digits, '.' :: rest => digits ++ '.' :: rest.takeWhile Char.isDigit
  | digits, _ => digits

/-- A number: an optional sign and digits with an optional fraction, or an unsigned fraction. -/
def number : List Char → List Char
  | '.' :: rest =>
    match rest.takeWhile Char.isDigit with
    | [] => []
    | digits => '.' :: digits
  | c :: rest =>
    if c = '+' || c = '-' then
      match wholeNumber rest with
      | [] => []
      | digits => c :: digits
    else wholeNumber (c :: rest)
  | [] => []

/-- What follows an opening quote, up to and with the closing one. A backslash takes the next
character along, whatever it is. -/
def quotedRest (quote : Char) : List Char → Option (List Char)
  | [] => none
  | '\\' :: c :: rest => (quotedRest quote rest).map ('\\' :: c :: ·)
  | c :: rest =>
    if c = quote then some [c]
    else if c = '\\' then none
    else (quotedRest quote rest).map (c :: ·)

def string : List Char → List Char
  | c :: rest =>
    if c = '"' || c = '\'' then
      match quotedRest c rest with
      | some inner => c :: inner
      | none => []
    else []
  | [] => []

def symbol (s : Char) : List Char → List Char
  | c :: _ => if c = s then [c] else []
  | [] => []

end Lexeme

/-- The piece of this kind in front of the given characters, empty if there is none. -/
def Kind.lexeme : Kind → List Char → List Char
  | .newline, cs => cs.takeWhile (· == '\n')
  | .whitespace, cs => cs.takeWhile Lexeme.isBlank
  | .comment, cs => Lexeme.comment cs
  | .keyword w, cs => Lexeme.word w.text.toList cs
  | .boolean, cs => Lexeme.boolean cs
  | .identifier, cs => Lexeme.identifier cs
  | .number, cs => Lexeme.number cs
  | .string, cs => Lexeme.string cs
  | .openBrace, cs => Lexeme.symbol '\x7b' cs
  | .closeBrace, cs => Lexeme.symbol '\x7d' cs
  | .openParen, cs => Lexeme.symbol '(' cs
  | .closeParen, cs => Lexeme.symbol ')' cs
  | .comma, cs => Lexeme.symbol ',' cs

end TypeGuard
