import TypeGuard.Proofs.Lexeme
import TypeGuard.Token.Scan

/-!
The texts that are cut into tokens, and the tokens they are cut into.

A token list belongs to a text if its texts spell it, every token is spelled as its kind asks and
says where it stands, no kind follows one that it may not follow, and reserved words and truth
values are told from names by what they say and by the last brace before them. There is one such
list at most, and it is the one that is found.
-/

namespace TypeGuard

namespace Scan

/-- The kind of a word by what it says, inside a block or outside. -/
def wordKind (inBlock : Bool) (word : List Char) : Kind :=
  if !inBlock && word = Keyword.config.text.toList then .keyword .config
  else if !inBlock && word = Keyword.typeAlias.text.toList then .keyword .typeAlias
  else if !inBlock && word = Keyword.define.text.toList then .keyword .define
  else if !inBlock && word = Keyword.model.text.toList then .keyword .model
  else if word = "true".toList || word = "false".toList then .boolean
  else .identifier

/-! ### The first kind that has a piece in front -/

/-- The piece of a kind in front of the characters, where the kind is tried. -/
def attempt (inBlock : Bool) (cs : List Char) (kind : Kind) : Option (Kind × List Char) :=
  if inBlock && kind.isKeyword then none
  else match kind.lexeme cs with
    | [] => none
    | piece => some (kind, piece)

lemma candidate_eq (inBlock : Bool) (cs : List Char) :
    candidate inBlock cs = Kind.priority.findSome? (attempt inBlock cs) := rfl

lemma findSome?_filter {α β : Type} {f : α → Option β} {p : α → Bool} {l : List α}
    (h : ∀ a ∈ l, p a = false → f a = none) : (l.filter p).findSome? f = l.findSome? f := by
  induction l with
  | nil => rfl
  | cons a rest ih =>
    have hrest := ih fun b hb => h b (by simp [hb])
    by_cases hp : p a = true
    · rw [List.filter_cons_of_pos hp, List.findSome?_cons, List.findSome?_cons, hrest]
    · rw [List.filter_cons_of_neg hp, List.findSome?_cons, hrest,
        h a (by simp) (by simpa using hp)]

lemma findSome?_cons_ite {α β : Type} {p : Prop} [Decidable p] {f : α → Option β} {a : α} {b : β}
    {l : List α} (h : f a = if p then some b else none) :
    (a :: l).findSome? f = if p then some b else l.findSome? f := by
  rw [List.findSome?_cons, h]
  split <;> simp_all

lemma attempt_eq_none {inBlock : Bool} {c : Char} {rest : List Char} {kind : Kind}
    (h : Lexeme.kindOf? c ≠ some kind.family) : attempt inBlock (c :: rest) kind = none := by
  have hnil : kind.lexeme (c :: rest) = [] := by
    by_contra hne
    obtain ⟨hspelling, hprefix⟩ := Kind.lexeme_spelling hne
    obtain ⟨d, piece, hpiece⟩ := List.exists_cons_of_ne_nil hne
    rw [hpiece] at hspelling hprefix
    obtain rfl := (List.cons_prefix_cons.mp hprefix).1
    exact h hspelling.kindOf?
  unfold attempt
  rw [hnil]
  split <;> rfl

/-- Only the kinds that start with the first character are tried. -/
lemma candidate_eq_filter {inBlock : Bool} {c : Char} {rest : List Char} {kind : Kind}
    (h : Lexeme.kindOf? c = some kind) :
    candidate inBlock (c :: rest) =
      (Kind.priority.filter (·.family = kind)).findSome? (attempt inBlock (c :: rest)) := by
  rw [candidate_eq, findSome?_filter]
  intro other _ hother
  refine attempt_eq_none fun heq => ?_
  rw [h] at heq
  simp [← Option.some.inj heq] at hother

lemma attempt_eq {inBlock : Bool} {cs : List Char} {kind : Kind}
    (htried : (inBlock && kind.isKeyword) = false) (hne : kind.lexeme cs ≠ []) :
    attempt inBlock cs kind = some (kind, kind.lexeme cs) := by
  unfold attempt
  rw [htried]
  obtain ⟨c, piece, hpiece⟩ := List.exists_cons_of_ne_nil hne
  simp [hpiece]

lemma attempt_keyword {inBlock : Bool} {cs : List Char} {w : Keyword} :
    attempt inBlock cs (.keyword w) =
      if !inBlock && cs.takeWhile Lexeme.isNameRest = w.text.toList then
        some (.keyword w, cs.takeWhile Lexeme.isNameRest)
      else none := by
  have hlexeme : Kind.lexeme (.keyword w) cs =
      if cs.takeWhile Lexeme.isNameRest = w.text.toList then w.text.toList else [] :=
    Lexeme.word_eq (Kind.keyword_isNameRest w)
  have hne : w.text.toList ≠ [] := by cases w <;> decide
  cases inBlock with
  | true => rfl
  | false =>
    by_cases hw : cs.takeWhile Lexeme.isNameRest = w.text.toList
    · rw [if_pos hw] at hlexeme
      rw [attempt_eq rfl (hlexeme ▸ hne), hlexeme, hw]
      simp
    · rw [if_neg hw] at hlexeme
      simp [attempt, hlexeme, hw]

lemma attempt_boolean {inBlock : Bool} {cs : List Char} :
    attempt inBlock cs .boolean =
      if cs.takeWhile Lexeme.isNameRest = "true".toList ||
          cs.takeWhile Lexeme.isNameRest = "false".toList then
        some (.boolean, cs.takeWhile Lexeme.isNameRest)
      else none := by
  have hlexeme : Kind.lexeme .boolean cs = Lexeme.boolean cs := rfl
  rw [Lexeme.boolean, Lexeme.word_eq (Kind.boolean_isNameRest (.inl rfl)),
    Lexeme.word_eq (Kind.boolean_isNameRest (.inr rfl))] at hlexeme
  have htried : (inBlock && Kind.isKeyword .boolean) = false := by simp [Kind.isKeyword]
  by_cases htrue : cs.takeWhile Lexeme.isNameRest = "true".toList
  · rw [if_pos htrue] at hlexeme
    have hpiece : Kind.lexeme .boolean cs = "true".toList := hlexeme
    rw [attempt_eq htried (by rw [hpiece]; decide), hpiece, htrue]
    rfl
  · by_cases hfalse : cs.takeWhile Lexeme.isNameRest = "false".toList
    · rw [if_neg htrue, if_pos hfalse] at hlexeme
      rw [attempt_eq htried (by rw [hlexeme]; decide), hlexeme, hfalse]
      rfl
    · rw [if_neg htrue, if_neg hfalse] at hlexeme
      simp only [attempt, htried, hlexeme, htrue, hfalse]
      rfl

lemma candidate_word {inBlock : Bool} {c : Char} {rest : List Char}
    (h : Lexeme.isNameStart c = true) :
    candidate inBlock (c :: rest) =
      some (wordKind inBlock ((c :: rest).takeWhile Lexeme.isNameRest),
        (c :: rest).takeWhile Lexeme.isNameRest) := by
  have hpriority : Kind.priority.filter (·.family = .identifier) =
      [.keyword .config, .keyword .typeAlias, .keyword .define, .keyword .model, .boolean,
        .identifier] := by decide
  have hidentifier : attempt inBlock (c :: rest) .identifier =
      some (.identifier, (c :: rest).takeWhile Lexeme.isNameRest) := by
    have hlexeme : Lexeme.identifier (c :: rest) = (c :: rest).takeWhile Lexeme.isNameRest :=
      Lexeme.identifier_eq h
    rw [← hlexeme]
    refine attempt_eq (by simp [Kind.isKeyword]) ?_
    simp [Kind.lexeme, Lexeme.identifier, h]
  rw [candidate_eq_filter (Lexeme.kindOf?_name h), hpriority]
  rw [findSome?_cons_ite attempt_keyword, findSome?_cons_ite attempt_keyword,
    findSome?_cons_ite attempt_keyword, findSome?_cons_ite attempt_keyword,
    findSome?_cons_ite attempt_boolean, List.findSome?_cons, hidentifier]
  generalize (c :: rest).takeWhile Lexeme.isNameRest = word
  let pair (kind : Kind) : Option (Kind × List Char) := some (kind, word)
  change _ = pair (wordKind inBlock word)
  rw [wordKind, apply_ite pair, apply_ite pair, apply_ite pair, apply_ite pair, apply_ite pair]

lemma candidate_sound {inBlock : Bool} {c : Char} {rest piece : List Char} {kind : Kind}
    (h : candidate inBlock (c :: rest) = some (kind, piece)) :
    kind.Spelling piece ∧ piece <+: c :: rest ∧
      (kind.isWord = true → kind = wordKind inBlock piece) := by
  obtain ⟨other, -, hattempt⟩ := List.exists_of_findSome?_eq_some h
  have hpiece : other = kind ∧ kind.lexeme (c :: rest) = piece ∧ piece ≠ [] := by
    split at hattempt
    · simp at hattempt
    · split at hattempt
      · simp at hattempt
      · next hne =>
        obtain ⟨rfl, rfl⟩ := Prod.mk.inj (Option.some.inj hattempt)
        exact ⟨rfl, rfl, hne⟩
  obtain ⟨-, rfl, hne⟩ := hpiece
  obtain ⟨hspelling, hprefix⟩ := Kind.lexeme_spelling hne
  refine ⟨hspelling, hprefix, fun hword => ?_⟩
  obtain ⟨d, more, hd⟩ := List.exists_cons_of_ne_nil hne
  obtain rfl : d = c := by
    rw [hd] at hprefix
    exact (List.cons_prefix_cons.mp hprefix).1
  have hstart := (Kind.Spelling.isName (hd ▸ hspelling) hword).1
  rw [candidate_word hstart] at h
  obtain ⟨hkind, hlexeme⟩ := Prod.mk.inj (Option.some.inj h)
  rw [← hlexeme, hkind]

lemma candidate_complete {inBlock : Bool} {piece rest : List Char} {kind : Kind}
    (h : kind.Spelling piece) (hword : kind.isWord = true → kind = wordKind inBlock piece)
    (hrest : Lexeme.Stops kind.continues rest) :
    candidate inBlock (piece ++ rest) = some (kind, piece) := by
  have hlexeme := Kind.lexeme_append h hrest
  obtain ⟨c, more, rfl⟩ := List.exists_cons_of_ne_nil h.ne_nil
  by_cases hk : kind.isWord = true
  · obtain ⟨hstart, hname⟩ := h.isName hk
    have hcont : kind.continues = Lexeme.isNameRest := by
      cases kind <;> first | rfl | exact absurd hk (by decide)
    rw [hcont] at hrest
    rw [List.cons_append, candidate_word hstart, ← List.cons_append,
      Lexeme.takeWhile_append_of_stops hname hrest, ← hword hk]
  · have hfamily : kind.family = kind := by simp [Kind.family, hk]
    have hpriority : Kind.priority.filter (·.family = kind) = [kind] := by
      cases kind <;> first | decide | exact absurd rfl hk
    have hkeyword : kind.isKeyword = false := by
      cases kind <;> first | rfl | exact absurd rfl hk
    have hc : Lexeme.kindOf? c = some kind := hfamily ▸ h.kindOf?
    rw [List.cons_append, candidate_eq_filter hc, hpriority, ← List.cons_append]
    rw [List.findSome?_cons, attempt_eq (by simp [hkeyword]) (by rw [hlexeme]; simp), hlexeme]

/-! ### From token to token -/

/-- A token that may come next. -/
structure Fits (s : State) (t : Token) : Prop where
  position : t.position = s.position
  spelling : t.kind.Spelling t.text.toList
  follows : Kind.mayFollow s.previous t.kind = true
  word : t.kind.isWord = true → t.kind = wordKind s.inBlock t.text.toList

/-- Tokens each of which may come next. -/
def Accepts (s : State) : List Token → Prop
  | [] => True
  | t :: rest => Fits s t ∧ Accepts (s.next t.kind t.text.toList) rest

def characters (ts : List Token) : List Char := ts.flatMap (·.text.toList)

lemma nextToken_eq_ok {s : State} {c : Char} {rest piece : List Char} {kind : Kind} :
    nextToken s c rest = .ok (kind, piece) ↔
      candidate s.inBlock (c :: rest) = some (kind, piece) ∧
        Kind.mayFollow s.previous kind = true := by
  unfold nextToken
  split
  · next hnone => simp [hnone]
  · next k p hsome =>
    rw [hsome]
    split
    · next hfollow =>
      simp only [Except.ok.injEq, Prod.mk.injEq, Option.some.injEq]
      constructor
      · rintro ⟨rfl, rfl⟩
        exact ⟨⟨rfl, rfl⟩, hfollow⟩
      · exact And.left
    · next hfollow =>
      simp only [reduceCtorEq, false_iff, not_and, Option.some.injEq, Prod.mk.injEq]
      rintro ⟨rfl, rfl⟩
      exact hfollow

/-- One token is cut off, and the next ones start behind it. -/
lemma tokensFrom_cons {s : State} {c : Char} {cs : List Char} {ts : List Token} :
    tokensFrom s 0 (c :: cs) = .ok ts ↔
      ∃ kind piece rest, nextToken s c cs = .ok (kind, piece) ∧
        tokensFrom (s.next kind piece) 0 ((c :: cs).drop piece.length) = .ok rest ∧
        ts = ⟨kind, String.ofList piece, s.position⟩ :: rest := by
  rw [tokensFrom]
  split
  · next hnext => simp [hnext]
  · next kind piece hnext =>
    have hpiece : piece ≠ [] := (candidate_sound (nextToken_eq_ok.mp hnext).1).1.ne_nil
    have hdrop : (c :: cs).drop piece.length = cs.drop (piece.length - 1) := by
      obtain ⟨d, more, rfl⟩ := List.exists_cons_of_ne_nil hpiece
      simp
    rw [tokensFrom_skip, ← hdrop]
    constructor
    · intro h
      split at h
      · simp at h
      · next rest hrest => exact ⟨kind, piece, rest, hnext, hrest, (Except.ok.inj h).symm⟩
    · rintro ⟨kind', piece', rest, hnext', hrest, rfl⟩
      rw [hnext] at hnext'
      obtain ⟨rfl, rfl⟩ := Prod.mk.inj (Except.ok.inj hnext')
      rw [hrest]

lemma accepts_of_tokensFrom {s : State} {cs : List Char} {ts : List Token}
    (h : tokensFrom s 0 cs = .ok ts) : Accepts s ts ∧ characters ts = cs := by
  induction ts generalizing s cs with
  | nil =>
    cases cs with
    | nil => exact ⟨trivial, rfl⟩
    | cons c cs =>
      obtain ⟨_, _, _, _, _, hts⟩ := tokensFrom_cons.mp h
      simp at hts
  | cons t rest ih =>
    cases cs with
    | nil => simp [tokensFrom] at h
    | cons c cs =>
      obtain ⟨kind, piece, rest', hnext, hrest, hts⟩ := tokensFrom_cons.mp h
      obtain ⟨rfl, rfl⟩ := List.cons.inj hts
      obtain ⟨hcandidate, hfollow⟩ := nextToken_eq_ok.mp hnext
      obtain ⟨hspelling, hprefix, hword⟩ := candidate_sound hcandidate
      obtain ⟨haccepts, hchars⟩ := ih hrest
      refine ⟨⟨⟨rfl, ?_, hfollow, ?_⟩, ?_⟩, ?_⟩
      · simpa using hspelling
      · simpa using hword
      · simpa using haccepts
      · obtain ⟨behind, hbehind⟩ := hprefix
        rw [← hbehind] at hchars ⊢
        simpa [characters] using hchars

lemma stops_of_accepts {s : State} {kind : Kind} {piece : List Char} {ts : List Token}
    (h : Accepts (s.next kind piece) ts) : Lexeme.Stops kind.continues (characters ts) := by
  cases ts with
  | nil => exact Lexeme.stops_nil
  | cons t rest =>
    obtain ⟨c, more, hc⟩ := List.exists_cons_of_ne_nil h.1.spelling.ne_nil
    have hkind := Kind.Spelling.kindOf? (hc ▸ h.1.spelling)
    have hchars : characters (t :: rest) = c :: (more ++ characters rest) := by
      simp [characters, hc]
    rw [hchars]
    exact Lexeme.stops_cons.mpr (Kind.continues_eq_false h.1.follows hkind)

lemma tokensFrom_of_accepts {s : State} {ts : List Token} (h : Accepts s ts) :
    tokensFrom s 0 (characters ts) = .ok ts := by
  induction ts generalizing s with
  | nil => rfl
  | cons t rest ih =>
    obtain ⟨hfits, hrest⟩ := h
    have hcandidate : candidate s.inBlock (t.text.toList ++ characters rest) = _ :=
      candidate_complete hfits.spelling hfits.word (stops_of_accepts hrest)
    obtain ⟨c, more, hc⟩ := List.exists_cons_of_ne_nil hfits.spelling.ne_nil
    have hchars : characters (t :: rest) = c :: (more ++ characters rest) := by
      simp [characters, hc]
    rw [hchars, tokensFrom_cons]
    refine ⟨t.kind, t.text.toList, rest, nextToken_eq_ok.mpr ⟨?_, hfits.follows⟩, ?_, ?_⟩
    · rw [← hcandidate, hc]
      rfl
    · have hdrop : (c :: (more ++ characters rest)).drop t.text.toList.length =
          characters rest := by simp [hc]
      rw [hdrop]
      exact ih hrest
    · rw [String.ofList_toList, ← hfits.position]

/-- **Cutting characters into tokens** finds exactly the tokens that may come one after the other
and spell the characters. -/
lemma tokensFrom_eq_ok_iff {s : State} {cs : List Char} {ts : List Token} :
    tokensFrom s 0 cs = .ok ts ↔ Accepts s ts ∧ characters ts = cs := by
  refine ⟨accepts_of_tokensFrom, ?_⟩
  rintro ⟨haccepts, rfl⟩
  exact tokensFrom_of_accepts haccepts

end Scan

end TypeGuard
