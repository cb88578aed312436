import TypeGuard.Declaration.Canonical
import TypeGuard.Proofs.Phases
import TypeGuard.Proofs.Placing

/-!
The tokens of the canonical layout.

The canonical layout is written once more, as a list of tokens. These tokens spell its text, and
apart from white space they are the declarations that were laid out.
-/

namespace TypeGuard

namespace Canonical

open Scan

/-! ### Tokens -/

def blanks (n : Nat) : Token := ⟨.whitespace, String.ofList (List.replicate n ' '), .start⟩

def newlines (n : Nat) : Token := ⟨.newline, String.ofList (List.replicate n '\n'), .start⟩

def opener : Token := ⟨.openBrace, "\x7b", .start⟩

def closer : Token := ⟨.closeBrace, "\x7d", .start⟩

def reserved (word : Keyword) : Token := ⟨.keyword word, word.text, .start⟩

def expressionTokensAfter (previous : Kind) : List Token → List Token
  | [] => []
  | t :: rest =>
    (if isSpaced previous t.kind then [blanks 1] else []) ++ t :: expressionTokensAfter t.kind rest

def expressionTokens : List Token → List Token
  | [] => []
  | t :: rest => t :: expressionTokensAfter t.kind rest

/-- A line of a block: its name and the tokens of its value. -/
abbrev Row := Token × List Token

def rowWidth (rows : List Row) : Nat := (rows.map (·.1.text.length)).foldl max 0

def rowTokens (width : Nat) (r : Row) : List Token :=
  blanks 4 :: r.1 :: blanks (width - r.1.text.length + 1) :: (r.2 ++ [newlines 1])

/-- The tokens of a block behind its head. -/
def blockTokens (rows : List Row) : List Token :=
  blanks 1 :: opener :: newlines 1 :: (rows.flatMap (rowTokens (rowWidth rows)) ++ [closer])

/-- The value of a setting as it is found in a text: its kind is the one that its characters
have. -/
def valueToken (value : Token) : Token :=
  { value with kind := ((candidate true value.text.toList).map (·.1)).getD .identifier }

def settingRow (s : Setting) : Row := (s.key, [valueToken s.value])

def propertyRow (p : PropertyLine) : Row := (p.name, expressionTokens p.expression)

def declarationTokens : Declaration → List Token
  | .config _ settings => reserved .config :: blockTokens (settings.map settingRow)
  | .typeAlias name body =>
    reserved .typeAlias :: blanks 1 :: name :: blanks 1 :: expressionTokens body
  | .record sort name lines =>
    reserved sort.keyword :: blanks 1 :: name :: blockTokens (lines.map propertyRow)

/-- The tokens of declarations behind another one, up to the end of the text. -/
def declarationsTokensAfter (previous : Declaration) : List Declaration → List Token
  | [] => [newlines 1]
  | d :: rest =>
    newlines (if isAlias previous && isAlias d then 1 else 2) ::
      (declarationTokens d ++ declarationsTokensAfter d rest)

def schemaTokens (ds : List Declaration) : List Token :=
  match ordered ds with
  | [] => []
  | d :: rest => declarationTokens d ++ declarationsTokensAfter d rest

/-! ### Texts -/

lemma characters_nil : characters [] = [] := rfl

lemma characters_cons (t : Token) (ts : List Token) :
    characters (t :: ts) = t.text.toList ++ characters ts := by
  simp [characters]

lemma characters_append (ts us : List Token) :
    characters (ts ++ us) = characters ts ++ characters us := by
  simp [characters]

lemma characters_expressionAfter (previous : Kind) (tokens : List Token) :
    characters (expressionTokensAfter previous tokens) =
      (expressionAfter previous tokens).toList := by
  induction tokens generalizing previous with
  | nil => rfl
  | cons t rest ih =>
    rw [expressionTokensAfter, expressionAfter, characters_append, characters_cons, ih]
    split <;> simp [characters, blanks]

lemma characters_expression (tokens : List Token) :
    characters (expressionTokens tokens) = (expression tokens).toList := by
  cases tokens with
  | nil => rfl
  | cons t rest =>
    rw [expressionTokens, expression, characters_cons, characters_expressionAfter]
    simp

lemma characters_row (width : Nat) (r : Row) {value : String}
    (hvalue : characters r.2 = value.toList) :
    characters (rowTokens width r) = (row width r.1.text value).toList := by
  simp [rowTokens, row, characters_cons, characters_append, characters_nil, hvalue, blanks,
    newlines, List.replicate_succ']

lemma characters_block {α : Type} {f : α → Row} {g : α → String × String}
    (hname : ∀ a, (f a).1.text = (g a).1) (hvalue : ∀ a, characters (f a).2 = (g a).2.toList)
    (head : String) (as : List α) :
    head.toList ++ characters (blockTokens (as.map f)) = (block head (as.map g)).toList := by
  have hwidth : rowWidth (as.map f) = width (as.map g) := by
    simp [rowWidth, width, Function.comp_def, hname]
  have hrows : ∀ w, characters ((as.map f).flatMap (rowTokens w)) =
      (String.join ((as.map g).map fun r => row w r.1 r.2)).toList := by
    intro w
    clear hwidth
    induction as with
    | nil => rfl
    | cons a as ih =>
      rw [List.map_cons, List.flatMap_cons, characters_append, ih,
        characters_row w (f a) (hvalue a), hname a]
      simp
  rw [blockTokens, characters_cons, characters_cons, characters_cons, characters_append, hrows,
    hwidth, block]
  simp [blanks, opener, newlines, closer, characters]

lemma characters_declaration (d : Declaration) :
    characters (declarationTokens d) = (declaration d).toList := by
  cases d with
  | config keyword settings =>
    rw [declarationTokens, declaration, characters_cons]
    refine characters_block (fun s => rfl) (fun s => ?_) "config" settings
    simp [settingRow, characters, valueToken]
  | typeAlias name body =>
    simp [declarationTokens, declaration, characters_cons, characters_expression, reserved,
      Keyword.text, blanks]
  | record sort name lines =>
    have hblock := characters_block (f := propertyRow)
      (g := fun p => (p.name.text, expression p.expression)) (fun p => rfl)
      (fun p => characters_expression p.expression) (sort.keyword.text ++ " " ++ name.text) lines
    rw [declarationTokens, declaration, ← hblock]
    simp [characters_cons, reserved, blanks]

lemma characters_declarationsAfter (previous : Declaration) (ds : List Declaration) :
    characters (declarationsTokensAfter previous ds) =
      (declarationsAfter previous ds ++ "\n").toList := by
  induction ds generalizing previous with
  | nil => simp [declarationsTokensAfter, declarationsAfter, characters, newlines]
  | cons d rest ih =>
    rw [declarationsTokensAfter, declarationsAfter, characters_cons, characters_append,
      characters_declaration, ih]
    split <;> simp [newlines]

/-- **The tokens of a schema spell its layout.** -/
lemma characters_schema (ds : List Declaration) :
    characters (schemaTokens ds) = (schema ds).toList := by
  unfold schemaTokens schema
  cases ordered ds with
  | nil => rfl
  | cons d rest =>
    rw [characters_append, characters_declaration, characters_declarationsAfter]
    simp

/-! ### Proper tokens -/

/-- A token that is read as a name, inside a block or outside. -/
structure IsName (inBlock : Bool) (t : Token) : Prop where
  kind : t.kind = .identifier
  proper : Proper inBlock t

lemma valueToken_eq {value : Token} {kind : Kind} (h : Proper true { value with kind := kind }) :
    valueToken value = { value with kind := kind } := by
  have hcandidate := candidate_complete h.spelling h.word Lexeme.stops_nil
  rw [List.append_nil] at hcandidate
  simp only at hcandidate
  rw [valueToken, hcandidate]
  rfl

lemma proper_blanks (inBlock : Bool) (n : Nat) : Proper inBlock (blanks (n + 1)) := by
  have hword : ¬ (blanks (n + 1)).kind.isWord = true := by simp [blanks, Kind.isWord]
  refine ⟨⟨by simp [blanks], fun c hc => ?_⟩, fun h => absurd h hword⟩
  obtain rfl : c = ' ' := by simpa [blanks] using hc
  decide

lemma proper_newlines (inBlock : Bool) (n : Nat) : Proper inBlock (newlines (n + 1)) := by
  have hword : ¬ (newlines (n + 1)).kind.isWord = true := by simp [newlines, Kind.isWord]
  refine ⟨⟨by simp [newlines], fun c hc => ?_⟩, fun h => absurd h hword⟩
  simpa [newlines] using hc

lemma proper_opener (inBlock : Bool) : Proper inBlock opener := ⟨rfl, by simp [opener, Kind.isWord]⟩

lemma proper_closer (inBlock : Bool) : Proper inBlock closer := ⟨rfl, by simp [closer, Kind.isWord]⟩

lemma proper_reserved (word : Keyword) : Proper false (reserved word) := by
  refine ⟨rfl, fun _ => ?_⟩
  cases word <;> decide

lemma mem_ordered {d : Declaration} {ds : List Declaration} : d ∈ ordered ds ↔ d ∈ ds := by
  cases hd : isConfig d <;> simp [ordered, hd]

end Canonical

end TypeGuard
