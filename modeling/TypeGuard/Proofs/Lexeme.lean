import Mathlib.Data.List.TakeWhile
import Mathlib.Tactic.Lemma
import TypeGuard.Token.Lexeme

/-!
The spelling of each kind of token, apart from the way in which a piece of it is found.

A piece in front of a text is spelled as its kind asks. Conversely a piece that is spelled so is
found again in front of every text that does not go on with it. The first character of a piece says
of which kind it is, except that reserved words, truth values and names share theirs.
-/

namespace TypeGuard

namespace Lexeme

/-- What may stand between two quotes. A backslash takes the next character along, and the quote
does not stand alone. -/
inductive QuotedBody (quote : Char) : List Char → Prop where
  | nil : QuotedBody quote []
  | escape (c : Char) {rest : List Char} :
      QuotedBody quote rest → QuotedBody quote ('\\' :: c :: rest)
  | plain {c : Char} {rest : List Char} :
      c ≠ quote → c ≠ '\\' → QuotedBody quote rest → QuotedBody quote (c :: rest)

/-- Digits with an optional point and more digits behind them. -/
inductive WholeNumber : List Char → Prop where
  | whole {digits : List Char} :
      digits ≠ [] → (∀ c ∈ digits, c.isDigit = true) → WholeNumber digits
  | decimal {digits fraction : List Char} :
      digits ≠ [] → (∀ c ∈ digits, c.isDigit = true) → (∀ c ∈ fraction, c.isDigit = true) →
      WholeNumber (digits ++ '.' :: fraction)

/-- An optional sign and a whole number with an optional fraction, or a fraction alone. -/
inductive Number : List Char → Prop where
  | unsigned {digits : List Char} : WholeNumber digits → Number digits
  | signed {sign : Char} {digits : List Char} :
      sign = '+' ∨ sign = '-' → WholeNumber digits → Number (sign :: digits)
  | fraction {digits : List Char} :
      digits ≠ [] → (∀ c ∈ digits, c.isDigit = true) → Number ('.' :: digits)

end Lexeme

namespace Kind

/-- The pieces of text of a kind. -/
def Spelling : Kind → List Char → Prop
  | newline, piece => piece ≠ [] ∧ ∀ c ∈ piece, c = '\n'
  | whitespace, piece => piece ≠ [] ∧ ∀ c ∈ piece, Lexeme.isBlank c = true
  | comment, piece => ∃ rest, piece = '/' :: '/' :: rest ∧ '\n' ∉ rest
  | keyword word, piece => piece = word.text.toList
  | boolean, piece => piece = "true".toList ∨ piece = "false".toList
  | identifier, piece =>
    ∃ c rest, piece = c :: rest ∧ Lexeme.isNameStart c = true ∧
      ∀ d ∈ rest, Lexeme.isNameRest d = true
  | number, piece => Lexeme.Number piece
  | string, piece =>
    ∃ quote body, piece = quote :: body ++ [quote] ∧ (quote = '"' ∨ quote = '\'') ∧
      Lexeme.QuotedBody quote body
  | openBrace, piece => piece = ['\x7b']
  | closeBrace, piece => piece = ['\x7d']
  | openParen, piece => piece = ['(']
  | closeParen, piece => piece = [')']
  | comma, piece => piece = [',']

/-- Whether a character would go on with a piece of a kind. -/
def continues : Kind → Char → Bool
  | newline, c => c == '\n'
  | whitespace, c => Lexeme.isBlank c
  | comment, c => c != '\n'
  | keyword _, c | boolean, c | identifier, c => Lexeme.isNameRest c
  | number, c => c.isDigit || c == '.'
  | _, _ => false

def isWord : Kind → Bool
  | keyword _ | boolean | identifier => true
  | _ => false

/-- A kind, or that of names for every kind of word. -/
def family (kind : Kind) : Kind := if kind.isWord then identifier else kind

end Kind

namespace Lexeme

/-- The kind, up to words, of the pieces that start with a character. -/
def kindOf? (c : Char) : Option Kind :=
  if c = '\n' then some .newline
  else if isBlank c then some .whitespace
  else if c = '/' then some .comment
  else if isNameStart c then some .identifier
  else if c.isDigit || c = '+' || c = '-' || c = '.' then some .number
  else if c = '"' || c = '\'' then some .string
  else if c = '\x7b' then some .openBrace
  else if c = '\x7d' then some .closeBrace
  else if c = '(' then some .openParen
  else if c = ')' then some .closeParen
  else if c = ',' then some .comma
  else none

/-- The text does not start with a character of the given sort. -/
def Stops (p : Char → Bool) (cs : List Char) : Prop := ∀ c, cs.head? = some c → p c = false

lemma stops_nil {p : Char → Bool} : Stops p [] := by simp [Stops]

lemma stops_cons {p : Char → Bool} {c : Char} {cs : List Char} :
    Stops p (c :: cs) ↔ p c = false := by simp [Stops]

lemma stops_dropWhile (p : Char → Bool) (cs : List Char) : Stops p (cs.dropWhile p) := by
  induction cs with
  | nil => exact stops_nil
  | cons c rest ih =>
    rw [List.dropWhile_cons]
    split
    · exact ih
    · next hc => exact stops_cons.mpr (by simpa using hc)

lemma takeWhile_append_of_stops {p : Char → Bool} {piece rest : List Char}
    (hpiece : ∀ c ∈ piece, p c = true) (hrest : Stops p rest) :
    (piece ++ rest).takeWhile p = piece := by
  rw [List.takeWhile_append_of_pos hpiece]
  cases rest with
  | nil => simp
  | cons c cs => simp [stops_cons.mp hrest]

lemma dropWhile_append_of_stops {p : Char → Bool} {piece rest : List Char}
    (hpiece : ∀ c ∈ piece, p c = true) (hrest : Stops p rest) :
    (piece ++ rest).dropWhile p = rest := by
  rw [List.dropWhile_append_of_pos hpiece]
  cases rest with
  | nil => simp
  | cons c cs => simp [stops_cons.mp hrest]

/-- The longest piece of characters of a sort is one behind which no such character stands. -/
lemma takeWhile_eq_iff {p : Char → Bool} {piece cs : List Char} :
    cs.takeWhile p = piece ↔
      (∀ c ∈ piece, p c = true) ∧ ∃ rest, cs = piece ++ rest ∧ Stops p rest := by
  constructor
  · rintro rfl
    exact ⟨fun c hc => List.mem_takeWhile_imp hc, cs.dropWhile p,
      List.takeWhile_append_dropWhile.symm, stops_dropWhile p cs⟩
  · rintro ⟨hpiece, rest, rfl, hrest⟩
    exact takeWhile_append_of_stops hpiece hrest

/-! ### Words -/

lemma isNameRest_of_start {c : Char} (h : isNameStart c = true) : isNameRest c = true := by
  simp [isNameRest, h]

lemma word_eq {w cs : List Char} (hw : ∀ c ∈ w, isNameRest c = true) :
    word w cs = if cs.takeWhile isNameRest = w then w else [] := by
  unfold word
  refine if_congr ?_ rfl rfl
  rw [takeWhile_eq_iff, Bool.and_eq_true, List.isPrefixOf_iff_prefix]
  constructor
  · rintro ⟨⟨rest, rfl⟩, hany⟩
    refine ⟨hw, rest, rfl, fun c hc => ?_⟩
    simpa [hc] using hany
  · rintro ⟨-, rest, rfl, hstops⟩
    refine ⟨⟨rest, rfl⟩, ?_⟩
    cases rest with
    | nil => simp
    | cons c cs => simpa using stops_cons.mp hstops

lemma word_spelling {w cs : List Char} (h : word w cs ≠ []) : word w cs = w := by
  unfold word at h ⊢
  split at h
  · next hw => rw [if_pos hw]
  · simp at h

lemma word_prefix {w cs : List Char} : word w cs <+: cs := by
  unfold word
  split
  · next hw => exact List.isPrefixOf_iff_prefix.mp (Bool.and_eq_true_iff.mp hw).1
  · exact List.nil_prefix

lemma identifier_eq {c : Char} {rest : List Char} (h : isNameStart c = true) :
    identifier (c :: rest) = (c :: rest).takeWhile isNameRest := by
  simp [identifier, h, isNameRest_of_start h]

lemma identifier_sound {cs : List Char} (h : identifier cs ≠ []) :
    Kind.Spelling .identifier (identifier cs) ∧ identifier cs <+: cs := by
  unfold identifier at h ⊢
  split at h
  · next c rest =>
    split at h
    · next hc =>
      simp only [hc, if_true]
      exact ⟨⟨c, _, rfl, hc, fun d hd => List.mem_takeWhile_imp hd⟩,
        (List.prefix_cons_inj _).mpr (List.takeWhile_prefix _)⟩
    · simp at h
  · simp at h

/-! ### Numbers -/

lemma wholeNumber_sound {cs : List Char} (h : wholeNumber cs ≠ []) :
    WholeNumber (wholeNumber cs) ∧ wholeNumber cs <+: cs := by
  have hsplit := List.takeWhile_append_dropWhile (p := Char.isDigit) (l := cs)
  have hdigits : ∀ c ∈ cs.takeWhile Char.isDigit, c.isDigit = true := fun c hc =>
    List.mem_takeWhile_imp hc
  unfold wholeNumber at h ⊢
  split at h
  · simp at h
  · next rest hd hne =>
    refine ⟨.decimal hne hdigits fun c hc => List.mem_takeWhile_imp hc, ?_⟩
    rw [hd] at hsplit
    refine ⟨rest.dropWhile Char.isDigit, ?_⟩
    simpa [List.append_assoc] using hsplit
  · next hne _ => exact ⟨.whole hne hdigits, List.takeWhile_prefix _⟩

lemma wholeNumber_append {piece rest : List Char} (h : WholeNumber piece)
    (hrest : Stops (fun c => c.isDigit || c == '.') rest) :
    wholeNumber (piece ++ rest) = piece := by
  have hdigit : Stops Char.isDigit rest := fun c hc => (Bool.or_eq_false_iff.mp (hrest c hc)).1
  cases h with
  | whole hne hdigits =>
    rw [wholeNumber, takeWhile_append_of_stops hdigits hdigit,
      dropWhile_append_of_stops hdigits hdigit]
    split
    · rfl
    · next hd => simpa using hrest '.' (by simp)
    · rfl
  | @decimal digits fraction hne hdigits hfraction =>
    have hpoint : Stops Char.isDigit ('.' :: (fraction ++ rest)) := stops_cons.mpr (by decide)
    rw [List.append_assoc, List.cons_append, wholeNumber,
      takeWhile_append_of_stops hdigits hpoint, dropWhile_append_of_stops hdigits hpoint]
    simp [takeWhile_append_of_stops hfraction hdigit]

lemma number_sound {cs : List Char} (h : number cs ≠ []) :
    Number (number cs) ∧ number cs <+: cs := by
  unfold number at h ⊢
  split at h
  · next rest =>
    split at h
    · simp at h
    · next hne =>
      refine ⟨.fraction hne fun c hc => List.mem_takeWhile_imp hc, ?_⟩
      exact (List.prefix_cons_inj _).mpr (List.takeWhile_prefix _)
  · next c rest hc =>
    split at h
    · next hsign =>
      split at h
      · simp at h
      · next hne =>
        obtain ⟨hwhole, hprefix⟩ := wholeNumber_sound hne
        have hsign' : c = '+' ∨ c = '-' := by simpa using hsign
        simp only [hsign, if_true]
        exact ⟨.signed hsign' hwhole, (List.prefix_cons_inj _).mpr hprefix⟩
    · next hsign =>
      obtain ⟨hwhole, hprefix⟩ := wholeNumber_sound h
      simp only [hsign]
      exact ⟨.unsigned hwhole, hprefix⟩
  · simp at h

lemma WholeNumber.head {c : Char} {rest : List Char} (h : WholeNumber (c :: rest)) :
    c.isDigit = true := by
  generalize hp : c :: rest = piece at h
  cases h with
  | whole hne hdigits => exact hdigits c (by simp [← hp])
  | @decimal digits fraction hne hdigits hfraction =>
    obtain ⟨d, more, rfl⟩ := List.exists_cons_of_ne_nil hne
    obtain rfl : c = d := (List.cons.inj hp).1
    exact hdigits c (by simp)

lemma WholeNumber.ne_nil {piece : List Char} (h : WholeNumber piece) : piece ≠ [] := by
  cases h with
  | whole hne _ => exact hne
  | decimal _ _ _ => simp

lemma number_append {piece rest : List Char} (h : Number piece)
    (hrest : Stops (fun c => c.isDigit || c == '.') rest) : number (piece ++ rest) = piece := by
  have hdigit : Stops Char.isDigit rest := fun c hc => (Bool.or_eq_false_iff.mp (hrest c hc)).1
  cases h with
  | unsigned hwhole =>
    obtain ⟨c, more, rfl⟩ := List.exists_cons_of_ne_nil hwhole.ne_nil
    have hc := hwhole.head
    have hpoint : c ≠ '.' := by rintro rfl; exact absurd hc (by decide)
    have hsign : (c = '+' || c = '-') = false := by
      simp only [Bool.or_eq_false_iff, decide_eq_false_iff_not]
      exact ⟨by rintro rfl; exact absurd hc (by decide), by rintro rfl; exact absurd hc (by decide)⟩
    rw [List.cons_append, number]
    · rw [if_neg (by simp [hsign]), ← List.cons_append, wholeNumber_append hwhole hrest]
    · exact hpoint
  | @signed sign digits hsign hwhole =>
    have hpoint : sign ≠ '.' := by rcases hsign with rfl | rfl <;> decide
    rw [List.cons_append, number]
    · rw [if_pos (by simpa using hsign), wholeNumber_append hwhole hrest]
      obtain ⟨c, more, rfl⟩ := List.exists_cons_of_ne_nil hwhole.ne_nil
      rfl
    · exact hpoint
  | fraction hne hdigits =>
    rw [List.cons_append, number, takeWhile_append_of_stops hdigits hdigit]
    obtain ⟨c, more, rfl⟩ := List.exists_cons_of_ne_nil hne
    rfl

/-! ### Quoted texts -/

lemma quotedRest_sound {quote : Char} {cs piece : List Char}
    (h : quotedRest quote cs = some piece) :
    (∃ body, piece = body ++ [quote] ∧ QuotedBody quote body) ∧ piece <+: cs := by
  fun_induction quotedRest quote cs generalizing piece with
  | case1 => simp at h
  | case2 c rest ih =>
    obtain ⟨inner, hinner, rfl⟩ := Option.map_eq_some_iff.mp h
    obtain ⟨⟨body, rfl, hbody⟩, hprefix⟩ := ih hinner
    exact ⟨⟨'\\' :: c :: body, rfl, .escape c hbody⟩, by simpa using hprefix⟩
  | case3 rest =>
    obtain rfl := Option.some.inj h
    exact ⟨⟨[], rfl, .nil⟩, by simp⟩
  | case4 => simp at h
  | case5 c rest _ hquote hslash ih =>
    obtain ⟨inner, hinner, rfl⟩ := Option.map_eq_some_iff.mp h
    obtain ⟨⟨body, rfl, hbody⟩, hprefix⟩ := ih hinner
    exact ⟨⟨c :: body, rfl, .plain hquote hslash hbody⟩, by simpa using hprefix⟩

lemma quotedRest_append {quote : Char} {body rest : List Char} (hquote : quote ≠ '\\')
    (h : QuotedBody quote body) :
    quotedRest quote (body ++ quote :: rest) = some (body ++ [quote]) := by
  induction h with
  | nil =>
    rw [List.nil_append, quotedRest]
    · simp
    · exact fun _ _ heq => absurd heq hquote
  | escape c _ ih => simp [quotedRest, ih]
  | @plain c body hne hslash _ ih =>
    rw [List.cons_append, quotedRest]
    · simp [hne, hslash, ih]
    · exact fun _ _ heq => absurd heq hslash

lemma string_sound {cs : List Char} (h : string cs ≠ []) :
    Kind.Spelling .string (string cs) ∧ string cs <+: cs := by
  unfold string at h ⊢
  split at h
  · next c rest =>
    split at h
    · next hquote =>
      split at h
      · next inner hinner =>
        obtain ⟨⟨body, rfl, hbody⟩, hprefix⟩ := quotedRest_sound hinner
        simp only [hquote, if_true]
        exact ⟨⟨c, body, rfl, by simpa using hquote, hbody⟩,
          (List.prefix_cons_inj _).mpr hprefix⟩
      · simp at h
    · simp at h
  · simp at h

lemma string_append {piece rest : List Char} (h : Kind.Spelling .string piece) :
    string (piece ++ rest) = piece := by
  obtain ⟨quote, body, rfl, hquote, hbody⟩ := h
  have hslash : quote ≠ '\\' := by rcases hquote with rfl | rfl <;> decide
  have hrest : quote :: body ++ [quote] ++ rest = quote :: (body ++ quote :: rest) := by simp
  rw [hrest, string, if_pos (by simpa using hquote), quotedRest_append hslash hbody]
  rfl

/-! ### Comments and symbols -/

lemma comment_sound {cs : List Char} (h : comment cs ≠ []) :
    Kind.Spelling .comment (comment cs) ∧ comment cs <+: cs := by
  unfold comment at h ⊢
  split at h
  · next rest =>
    refine ⟨⟨rest.takeWhile (· != '\n'), rfl, fun hmem => ?_⟩, ?_⟩
    · exact absurd (List.mem_takeWhile_imp hmem) (by decide)
    · simpa using List.takeWhile_prefix _
  · simp at h

lemma symbol_sound {c : Char} {cs : List Char} (h : symbol c cs ≠ []) :
    symbol c cs = [c] ∧ symbol c cs <+: cs := by
  unfold symbol at h ⊢
  split at h
  · next d rest =>
    split at h
    · next hd => simp [hd]
    · simp at h
  · simp at h

/-! ### The first character -/

lemma kindOf?_name {c : Char} (h : isNameStart c = true) : kindOf? c = some .identifier := by
  have hnewline : c ≠ '\n' := by rintro rfl; exact absurd h (by decide)
  have hslash : c ≠ '/' := by rintro rfl; exact absurd h (by decide)
  have hblank : isBlank c = false := by
    by_contra hb
    simp only [isBlank, Bool.or_eq_true, decide_eq_true_eq, Bool.not_eq_false] at hb
    rcases hb with (((rfl | rfl) | rfl) | rfl) | rfl <;> exact absurd h (by decide)
  rw [kindOf?, if_neg hnewline, if_neg (by simp [hblank]), if_neg hslash, if_pos h]

lemma kindOf?_blank {c : Char} (h : isBlank c = true) : kindOf? c = some .whitespace := by
  have hnewline : c ≠ '\n' := by rintro rfl; exact absurd h (by decide)
  rw [kindOf?, if_neg hnewline, if_pos h]

lemma eq_newline_of_kindOf? {c : Char} (h : kindOf? c = some .newline) : c = '\n' := by
  by_contra hne
  simp [kindOf?, hne, ite_eq_iff] at h

lemma isNameStart_digit {c : Char} (h : c.isDigit = true) : isNameStart c = false := by
  have hc : 48 ≤ c.toNat ∧ c.toNat ≤ 57 := by
    simpa [Char.isDigit, UInt32.le_iff_toNat_le] using h
  have hne : ∀ d : Char, 57 < d.toNat ∨ d.toNat < 48 → c ≠ d := by
    rintro d hd rfl
    omega
  have halpha : c.isAlpha = false := by
    have hletters : c.isAlpha = (decide ('A'.val ≤ c.val ∧ c.val ≤ 'Z'.val) ||
        (decide ('a'.val ≤ c.val) && decide (c.val ≤ 'z'.val))) := rfl
    have hval : c.val.toNat = c.toNat := rfl
    simp only [hletters, UInt32.le_iff_toNat_le, hval, Bool.or_eq_false_iff,
      decide_eq_false_iff_not, Bool.and_eq_false_iff]
    constructor <;> simp <;> omega
  have hunderscore : c ≠ '_' := hne _ (by decide)
  have hdollar : c ≠ '$' := hne _ (by decide)
  have hrange : ¬ 0xA0 ≤ c.toNat := by omega
  simp [isNameStart, hunderscore, hdollar, halpha, hrange]

lemma kindOf?_digit {c : Char} (h : c.isDigit = true) : kindOf? c = some .number := by
  have hnewline : c ≠ '\n' := by rintro rfl; exact absurd h (by decide)
  have hslash : c ≠ '/' := by rintro rfl; exact absurd h (by decide)
  have hblank : isBlank c = false := by
    by_contra hb
    simp only [isBlank, Bool.or_eq_true, decide_eq_true_eq, Bool.not_eq_false] at hb
    rcases hb with (((rfl | rfl) | rfl) | rfl) | rfl <;> exact absurd h (by decide)
  rw [kindOf?, if_neg hnewline, if_neg (by simp [hblank]), if_neg hslash,
    if_neg (by simp [isNameStart_digit h]), if_pos (by simp [h])]

end Lexeme

/-! ### All kinds -/

namespace Kind

open Lexeme

lemma keyword_isNameRest (w : Keyword) : ∀ c ∈ w.text.toList, isNameRest c = true := by
  have hall : w.text.toList.all isNameRest = true := by cases w <;> decide
  exact List.all_eq_true.mp hall

lemma boolean_isNameRest {piece : List Char} (h : Spelling boolean piece) :
    ∀ c ∈ piece, isNameRest c = true := by
  have hall : piece.all isNameRest = true := by rcases h with rfl | rfl <;> decide
  exact List.all_eq_true.mp hall

lemma lexeme_spelling {kind : Kind} {cs : List Char} (h : kind.lexeme cs ≠ []) :
    kind.Spelling (kind.lexeme cs) ∧ kind.lexeme cs <+: cs := by
  cases kind with
  | newline =>
    exact ⟨⟨h, fun c hc => by simpa using List.mem_takeWhile_imp hc⟩, List.takeWhile_prefix _⟩
  | whitespace => exact ⟨⟨h, fun c hc => List.mem_takeWhile_imp hc⟩, List.takeWhile_prefix _⟩
  | comment => exact comment_sound h
  | keyword w => exact ⟨word_spelling h, word_prefix⟩
  | boolean =>
    rw [lexeme, Lexeme.boolean] at h ⊢
    split at h
    · exact ⟨.inr (word_spelling h), word_prefix⟩
    · next hne => exact ⟨.inl (word_spelling hne), word_prefix⟩
  | identifier => exact identifier_sound h
  | number => exact number_sound h
  | string => exact string_sound h
  | openBrace | closeBrace | openParen | closeParen | comma => exact symbol_sound h

/-- A piece with the spelling of a kind is found in front of what does not go on with it. -/
lemma lexeme_append {kind : Kind} {piece rest : List Char} (h : kind.Spelling piece)
    (hrest : Stops kind.continues rest) : kind.lexeme (piece ++ rest) = piece := by
  cases kind with
  | newline => exact takeWhile_append_of_stops (fun c hc => by simp [h.2 c hc]) hrest
  | whitespace => exact takeWhile_append_of_stops h.2 hrest
  | comment =>
    obtain ⟨body, rfl, hbody⟩ := h
    have htake : (body ++ rest).takeWhile (· != '\n') = body := by
      refine takeWhile_append_of_stops (fun c hc => ?_) hrest
      simp only [bne_iff_ne]
      rintro rfl
      exact hbody hc
    simp [lexeme, Lexeme.comment, htake]
  | keyword w =>
    obtain rfl := h
    rw [lexeme, word_eq (keyword_isNameRest w),
      if_pos (takeWhile_append_of_stops (keyword_isNameRest w) hrest)]
  | boolean =>
    have htake := takeWhile_append_of_stops (boolean_isNameRest h) hrest
    rw [lexeme, Lexeme.boolean, word_eq (boolean_isNameRest (.inl rfl)),
      word_eq (boolean_isNameRest (.inr rfl)), htake]
    rcases h with rfl | rfl <;> decide
  | identifier =>
    obtain ⟨c, more, rfl, hc, hmore⟩ := h
    simp [lexeme, Lexeme.identifier, hc, takeWhile_append_of_stops hmore hrest]
  | number => exact number_append h hrest
  | string => exact string_append h
  | openBrace | closeBrace | openParen | closeParen | comma => 
    obtain rfl := h
    simp [lexeme, Lexeme.symbol]

lemma Spelling.ne_nil {kind : Kind} {piece : List Char} (h : kind.Spelling piece) :
    piece ≠ [] := by
  cases kind with
  | newline | whitespace => exact h.1
  | comment => obtain ⟨rest, rfl, -⟩ := h; simp
  | keyword w => obtain rfl := h; cases w <;> decide
  | boolean => rcases h with rfl | rfl <;> decide
  | identifier => obtain ⟨c, rest, rfl, -⟩ := h; simp
  | number =>
    cases h with
    | unsigned hwhole => exact hwhole.ne_nil
    | signed | fraction => simp
  | string => obtain ⟨quote, body, rfl, -⟩ := h; simp
  | openBrace | closeBrace | openParen | closeParen | comma => obtain rfl := h; simp

lemma Spelling.isName {kind : Kind} {c : Char} {rest : List Char} (h : kind.Spelling (c :: rest))
    (hword : kind.isWord = true) :
    isNameStart c = true ∧ ∀ d ∈ c :: rest, isNameRest d = true := by
  cases kind with
  | keyword w =>
    have hpiece : c :: rest = w.text.toList := h
    refine ⟨?_, hpiece ▸ keyword_isNameRest w⟩
    cases w <;> (obtain rfl := (List.cons.inj hpiece).1; decide)
  | boolean =>
    refine ⟨?_, boolean_isNameRest h⟩
    rcases h with h | h <;> (obtain rfl := (List.cons.inj h).1; decide)
  | identifier =>
    obtain ⟨d, more, heq, hd, hmore⟩ := h
    obtain ⟨rfl, rfl⟩ := List.cons.inj heq
    exact ⟨hd, List.forall_mem_cons.mpr ⟨isNameRest_of_start hd, hmore⟩⟩
  | _ => exact absurd hword (by decide)

lemma Spelling.kindOf? {kind : Kind} {c : Char} {rest : List Char}
    (h : kind.Spelling (c :: rest)) : kindOf? c = some kind.family := by
  cases kind with
  | newline => obtain rfl := h.2 c (by simp); decide
  | whitespace => exact kindOf?_blank (h.2 c (by simp))
  | comment =>
    obtain ⟨body, heq, -⟩ := h
    obtain rfl := (List.cons.inj heq).1
    decide
  | keyword w =>
    cases w <;>
    · obtain rfl := (List.cons.inj h).1
      decide
  | boolean =>
    rcases h with heq | heq
    · obtain rfl := (List.cons.inj heq).1
      decide
    · obtain rfl := (List.cons.inj heq).1
      decide
  | identifier =>
    obtain ⟨d, more, heq, hd, -⟩ := h
    obtain rfl := (List.cons.inj heq).1
    exact kindOf?_name hd
  | number =>
    generalize hp : c :: rest = piece at h
    cases h with
    | unsigned hwhole =>
      subst hp
      exact kindOf?_digit hwhole.head
    | signed hsign _ =>
      obtain rfl := (List.cons.inj hp).1
      rcases hsign with rfl | rfl <;> decide
    | fraction _ _ =>
      obtain rfl := (List.cons.inj hp).1
      decide
  | string =>
    obtain ⟨quote, body, heq, hquote, -⟩ := h
    obtain rfl := (List.cons.inj heq).1
    rcases hquote with rfl | rfl <;> decide
  | openBrace | closeBrace | openParen | closeParen | comma =>
    obtain rfl := (List.cons.inj h).1
    decide

lemma eq_of_family {kind other : Kind} (h : kind.family = other) (hne : other ≠ identifier) :
    kind = other := by
  unfold family at h
  split at h
  · exact absurd h.symm hne
  · exact h

lemma isWord_of_family {kind : Kind} (h : kind.family = identifier) : kind.isWord = true := by
  unfold family at h
  split at h
  · assumption
  · rw [h]; rfl

lemma Spelling.isWord {kind : Kind} {piece : List Char} (h : kind.Spelling piece)
    (hstart : piece.head?.any isNameStart = true) : kind.isWord = true := by
  obtain ⟨c, rest, rfl⟩ := List.exists_cons_of_ne_nil h.ne_nil
  have hfamily := h.kindOf?
  rw [kindOf?_name (by simpa using hstart)] at hfamily
  exact isWord_of_family (Option.some.inj hfamily).symm

lemma follows_word {kind next : Kind} (hkind : kind.isWord = true)
    (h : mayFollow (some kind) next = true) : next.isWord = false ∧ next ≠ number := by
  cases next with
  | keyword w =>
    cases kind with
    | keyword w' => cases w' <;> cases w <;> exact absurd h (by decide)
    | boolean | identifier => cases w <;> exact absurd h (by decide)
    | _ => exact absurd hkind (by decide)
  | boolean | identifier | number =>
    cases kind with
    | keyword w' => cases w' <;> exact absurd h (by decide)
    | boolean | identifier => exact absurd h (by decide)
    | _ => exact absurd hkind (by decide)
  | _ => exact ⟨rfl, by simp⟩

lemma not_isNameRest_of_follows {kind next : Kind} {c : Char} (hkind : kind.isWord = true)
    (h : mayFollow (some kind) next = true) (hc : Lexeme.kindOf? c = some next.family) :
    isNameRest c = false := by
  obtain ⟨hword, hnumber⟩ := follows_word hkind h
  by_contra hrest
  rcases Bool.or_eq_true_iff.mp (Bool.not_eq_false _ ▸ hrest) with hstart | hdigit
  · rw [kindOf?_name hstart] at hc
    have hfamily := isWord_of_family (Option.some.inj hc).symm
    simp [hword] at hfamily
  · rw [kindOf?_digit hdigit] at hc
    exact hnumber (eq_of_family (Option.some.inj hc).symm (by decide))

/-- A kind that may follow another one starts with no character that would go on with it. -/
lemma continues_eq_false {kind next : Kind} {c : Char} (h : mayFollow (some kind) next = true)
    (hc : Lexeme.kindOf? c = some next.family) : kind.continues c = false := by
  cases kind with
  | keyword w => exact not_isNameRest_of_follows rfl h hc
  | boolean | identifier => exact not_isNameRest_of_follows rfl h hc
  | newline =>
    by_contra hcont
    obtain rfl : c = '\n' := by simpa [continues] using hcont
    obtain rfl := eq_of_family (Option.some.inj hc).symm (by decide)
    exact absurd h (by decide)
  | whitespace =>
    by_contra hcont
    rw [kindOf?_blank (by simpa [continues] using hcont)] at hc
    obtain rfl := eq_of_family (Option.some.inj hc).symm (by decide)
    exact absurd h (by decide)
  | comment =>
    obtain rfl : next = newline := by simpa [mayFollow, successors] using h
    obtain rfl := eq_newline_of_kindOf? hc
    rfl
  | number =>
    by_contra hcont
    have hnumber : Lexeme.kindOf? c = some number := by
      rcases Bool.or_eq_true_iff.mp (Bool.not_eq_false _ ▸ hcont) with hdigit | hpoint
      · exact kindOf?_digit hdigit
      · obtain rfl := beq_iff_eq.mp hpoint
        decide
    obtain rfl := eq_of_family (Option.some.inj (hc.symm.trans hnumber)) (by decide)
    exact absurd h (by decide)
  | string | openBrace | closeBrace | openParen | closeParen | comma => rfl

end Kind

end TypeGuard
