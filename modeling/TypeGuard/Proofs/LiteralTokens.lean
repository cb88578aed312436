import TypeGuard.Proofs.Rejection
import TypeGuard.Proofs.ValueKind
import TypeGuard.Proofs.WellFormed

/-!
The literal tokens of a text and their values.

A quoted token has the text between its quotes as its value, and no quote in it stands alone. A
number is spelled as the reader of numbers asks, so that nothing but its size keeps it from having
a value. Configuration values are tokens of the text, as they stand there.
-/

namespace TypeGuard

/-! ### Escapes -/

namespace Lexeme

/-- The number of backslashes that stand directly before a place. -/
def backslashes (front : List Char) : Nat := (front.reverse.takeWhile (· = '\\')).length

/-- A character is escaped if an odd number of backslashes stands before it: each two of them are a
backslash that is escaped itself. -/
def Escaped (front : List Char) : Prop := backslashes front % 2 = 1

instance (front : List Char) : Decidable (Escaped front) :=
  inferInstanceAs (Decidable (backslashes front % 2 = 1))

lemma backslashes_append (first front : List Char) :
    backslashes (first ++ front) =
      if backslashes front = front.length then front.length + backslashes first
      else backslashes front := by
  unfold backslashes
  rw [List.reverse_append, List.takeWhile_append, List.length_reverse]
  split
  · rw [List.length_append, List.length_reverse]
  · rfl

lemma backslashes_plain {c : Char} (hc : c ≠ '\\') (front : List Char) :
    backslashes (c :: front) = backslashes front := by
  have hnone : backslashes [c] = 0 := by simp [backslashes, hc]
  rw [← List.singleton_append, backslashes_append, hnone]
  split <;> omega

lemma backslashes_escape (c : Char) (front : List Char) :
    backslashes ('\\' :: c :: front) % 2 = backslashes front % 2 := by
  have heven : backslashes ['\\', c] % 2 = 0 := by
    by_cases hc : c = '\\' <;> simp [backslashes, hc]
  have hsplit : '\\' :: c :: front = ['\\', c] ++ front := rfl
  rw [hsplit, backslashes_append]
  split <;> omega

lemma QuotedBody.escaped {quote : Char} {body : List Char} (hquote : quote ≠ '\\')
    (h : QuotedBody quote body) :
    ∀ front back, body = front ++ quote :: back → Escaped front := by
  induction h with
  | nil => simp
  | escape c _ ih =>
    intro front back heq
    rcases front with _ | ⟨first, _ | ⟨second, front⟩⟩
    · exact absurd (List.cons.inj heq).1.symm hquote
    · obtain rfl : first = '\\' := (List.cons.inj heq).1.symm
      decide
    · simp only [List.cons_append, List.cons.injEq] at heq
      obtain ⟨rfl, -, hrest⟩ := heq
      unfold Escaped
      rw [backslashes_escape]
      exact ih front back hrest
  | plain hne hslash _ ih =>
    intro front back heq
    rcases front with _ | ⟨first, front⟩
    · exact absurd (List.cons.inj heq).1 hne
    · obtain ⟨rfl, hrest⟩ := List.cons.inj heq
      unfold Escaped
      rw [backslashes_plain hslash]
      exact ih front back hrest

lemma QuotedBody.not_escaped {quote : Char} {body : List Char} (h : QuotedBody quote body) :
    ¬ Escaped body := by
  unfold Escaped
  induction h with
  | nil => decide
  | escape c _ ih => rwa [backslashes_escape]
  | plain _ hslash _ ih => rwa [backslashes_plain hslash]

/-- A text between two quotes of the same sort, where every quote of this sort but the last one is
escaped. -/
structure Quoted (quote : Char) (body text : List Char) : Prop where
  isQuote : quote = '"' ∨ quote = '\''
  text : text = quote :: body ++ [quote]
  inner : ∀ front back, body = front ++ quote :: back → Escaped front
  closing : ¬ Escaped body

lemma quoted_of_spelling {text : List Char} (h : Kind.string.Spelling text) :
    ∃ quote body, Quoted quote body text := by
  obtain ⟨quote, body, htext, hquote, hbody⟩ := h
  have hslash : quote ≠ '\\' := by rcases hquote with rfl | rfl <;> decide
  exact ⟨quote, body, hquote, htext, hbody.escaped hslash, hbody.not_escaped⟩

/-! ### Numbers -/

lemma WholeNumber.unsigned {cs : List Char} (h : WholeNumber cs) :
    ∃ mantissa exponent, Decimal.Unsigned mantissa exponent cs := by
  cases h with
  | whole hne hdigits =>
    have hnumeral := Decimal.Unsigned.whole hne hdigits .none
    rw [List.append_nil] at hnumeral
    exact ⟨_, _, hnumeral⟩
  | decimal hne hdigits hfraction =>
    have hnumeral := Decimal.Unsigned.pointed (.inl hne) hdigits hfraction .none
    rw [List.append_nil] at hnumeral
    exact ⟨_, _, hnumeral⟩

lemma Number.spells {cs : List Char} (h : Number cs) :
    ∃ negative mantissa exponent, Decimal.Spells (.finite negative mantissa exponent) cs := by
  cases h with
  | unsigned hwhole =>
    obtain ⟨mantissa, exponent, hnumeral⟩ := hwhole.unsigned
    exact ⟨_, _, _, .finite .none hnumeral⟩
  | signed hsign hwhole =>
    obtain ⟨mantissa, exponent, hnumeral⟩ := hwhole.unsigned
    rcases hsign with rfl | rfl
    · exact ⟨_, _, _, .finite .plus hnumeral⟩
    · exact ⟨_, _, _, .finite .minus hnumeral⟩
  | fraction hne hdigits =>
    have hnone : Decimal.Digits [] := by simp [Decimal.Digits]
    have hnumeral := Decimal.Unsigned.pointed (.inr hne) hnone hdigits .none
    rw [List.append_nil] at hnumeral
    exact ⟨_, _, _, .finite .none hnumeral⟩

end Lexeme

/-! ### The values of tokens -/

namespace Literal

open Lexeme

lemma ofToken_string {t : Token} {quote : Char} {body : List Char} (hkind : t.kind = .string)
    (h : Quoted quote body t.text.toList) : ofToken t = .ok (.string (String.ofList body)) := by
  have hbody : unquoted t.text = String.ofList body := by
    rw [unquoted, h.text]
    simp
  simp only [ofToken, hkind, hbody]

lemma ofToken_boolean {t : Token} {b : Bool} (hkind : t.kind = .boolean)
    (h : t.text = if b then "true" else "false") : ofToken t = .ok (.boolean b) := by
  simp only [ofToken, hkind, h]
  cases b <;> rfl

lemma finite?_eq {text : String} {r : Decimal.Reading} (h : Decimal.Spells r text.toList) :
    finite? text = if Decimal.isFinite r.toFloat then some r.toFloat else none := by
  rw [finite?, Decimal.parse?, Decimal.read?_eq_some.mpr h, Option.map_some, Option.filter_some]

lemma ofToken_number {t : Token} {r : Decimal.Reading} (hkind : t.kind = .number)
    (h : Decimal.Spells r t.text.toList) :
    ofToken t =
      if Decimal.isFinite r.toFloat then .ok (.number r.toFloat)
      else .error (t.reject (.conversion (.notFinite t.text))) := by
  simp only [ofToken, hkind, finite?_eq h]
  by_cases hfinite : Decimal.isFinite r.toFloat = true
  · rw [if_pos hfinite, if_pos hfinite]
  · rw [if_neg hfinite, if_neg hfinite]

end Literal

open Scan

lemma proper_of_mem {source : String} {ts : List Token} (h : tokenize source = .ok ts) {t : Token}
    (ht : t ∈ ts) : ∃ inBlock, Proper inBlock t := by
  obtain ⟨haccepts, -⟩ := tokensFrom_eq_ok_iff.mp h
  obtain ⟨front, back, hsplit⟩ := List.append_of_mem ht
  have hfits := Tokenization.accepts_iff.mp haccepts front t back hsplit
  exact ⟨_, hfits.spelling, hfits.word⟩

/-- Configuration values are tokens of the text, with the kinds that they have there. -/
lemma mem_of_settings {ts : List Token} {ds : List Declaration}
    (hkinds : ∀ t ∈ ts, Grouping.valueKind t = t.kind) (h : group ts = .ok ds) :
    ∀ s ∈ ds.flatMap Declaration.settings, s.value ∈ ts := by
  intro s hs
  obtain ⟨d, hd, hs⟩ := List.mem_flatMap.mp hs
  have htoken : s.value ∈ ds.flatMap Declaration.tokens := by
    refine List.mem_flatMap.mpr ⟨d, hd, ?_⟩
    cases d with
    | config keyword settings =>
      exact List.mem_cons_of_mem _ (List.mem_flatMap.mpr ⟨s, hs, by simp⟩)
    | typeAlias | record => simp at hs
  have hdeclares := Grouping.declares_of_eq_ok (Grouping.group_eq_ok.mp h).2
  obtain ⟨u, hu, hvalue⟩ := hdeclares.tokens _ htoken
  have hmem : u ∈ ts := (List.mem_filter.mp hu).1
  rcases hvalue with hvalue | hvalue
  · rwa [hvalue]
  · rwa [hvalue, hkinds u hmem]

/-- **Literal tokens have values.** A quoted token of a text has what stands between its quotes as
its value, where every quote of the same sort is escaped; the value of a truth value is the one it
names. The text of a number token is a decimal, and the token has the floating-point value of this
decimal, unless that is not finite. The text of a token says no more than its kind; in particular no
name spells a finite number, and configuration values keep their kinds. -/
theorem literal_tokens_decode {source : String} {ts : List Token} (h : tokenize source = .ok ts) :
    (∀ t ∈ ts, t.kind = .string → ∃ quote body, Lexeme.Quoted quote body t.text.toList ∧
      Literal.ofToken t = .ok (.string (String.ofList body))) ∧
    (∀ t ∈ ts, t.kind = .boolean → ∃ b : Bool, t.text = (if b then "true" else "false") ∧
      Literal.ofToken t = .ok (.boolean b)) ∧
    (∀ t ∈ ts, t.kind = .number → ∃ negative mantissa exponent,
      let value := Decimal.Reading.finite negative mantissa exponent
      Decimal.Spells value t.text.toList ∧
        Literal.ofToken t =
          if Decimal.isFinite value.toFloat then .ok (.number value.toFloat)
          else .error (t.reject (.conversion (.notFinite t.text)))) ∧
    (∀ t ∈ ts, Grouping.valueKind t = t.kind) ∧
    (∀ t ∈ ts, t.kind = .identifier → Literal.finite? t.text = none) ∧
    ∀ ds, group ts = .ok ds → ∀ s ∈ ds.flatMap Declaration.settings, s.value ∈ ts := by
  have hkinds : ∀ t ∈ ts, Grouping.valueKind t = t.kind := by
    intro t ht
    obtain ⟨inBlock, hproper⟩ := proper_of_mem h ht
    exact hproper.valueKind_eq
  refine ⟨fun t ht hkind => ?_, fun t ht hkind => ?_, fun t ht hkind => ?_, hkinds,
    fun t ht hkind => ?_, fun ds hds => mem_of_settings hkinds hds⟩
  all_goals
    obtain ⟨inBlock, hproper⟩ := proper_of_mem h ht
    have hspelling := hproper.spelling
    rw [hkind] at hspelling
  · obtain ⟨quote, body, hquoted⟩ := Lexeme.quoted_of_spelling hspelling
    exact ⟨quote, body, hquoted, Literal.ofToken_string hkind hquoted⟩
  · rcases hspelling with htrue | hfalse
    · have htext : t.text = "true" := String.toList_inj.mp htrue
      exact ⟨true, htext, Literal.ofToken_boolean hkind htext⟩
    · have htext : t.text = "false" := String.toList_inj.mp hfalse
      exact ⟨false, htext, Literal.ofToken_boolean hkind htext⟩
  · obtain ⟨negative, mantissa, exponent, hspells⟩ := Lexeme.Number.spells hspelling
    exact ⟨negative, mantissa, exponent, hspells, Literal.ofToken_number hkind hspells⟩
  · exact hproper.finite?_eq_none (by rw [hkind]; decide)

/-- A configuration with an escaped quote, a negative number, and a name that elsewhere would be
read as a number. -/
def unusualSource : String :=
  "config \x7b\n  note 'it\\'s'\n  ratio -1.50\n  strict true\n  unit nan\n\x7d\n"

theorem literal_tokens_decode_unusual :
    let note : Token := ⟨.string, "'it\\'s'", ⟨2, 8⟩⟩
    let ratio : Token := ⟨.number, "-1.50", ⟨3, 9⟩⟩
    let strict : Token := ⟨.boolean, "true", ⟨4, 10⟩⟩
    let unit : Token := ⟨.identifier, "nan", ⟨5, 8⟩⟩
    ∃ ts ds, tokenize unusualSource = .ok ts ∧ group ts = .ok ds ∧
      [note, ratio, strict, unit] ⊆ ts ∧
      (∃ body, Lexeme.Quoted '\'' body note.text.toList ∧
        Literal.ofToken note = .ok (.string (String.ofList body))) ∧
      Literal.ofToken ratio = .ok (.number (-1.5)) ∧
      Literal.ofToken strict = .ok (.boolean true) ∧
      Grouping.valueKind unit = .identifier ∧ Literal.finite? "nan" = none ∧
      ∃ s ∈ ds.flatMap Declaration.settings, s.value = unit ∧ s.value ∈ ts := by
  intro note ratio strict unit
  have hrun : (tokenize unusualSource).toOption.any (fun ts =>
      [note, ratio, strict, unit] ⊆ ts ∧ (group ts).toOption.any (fun ds =>
        (ds.flatMap Declaration.settings).any (·.value = unit)) = true) = true := by
    decide +kernel
  obtain ⟨ts, hts, hshape⟩ := (Option.any_eq_true _ _).mp hrun
  obtain ⟨hsubset, hgroup⟩ := of_decide_eq_true hshape
  obtain ⟨ds, hds, hsettings⟩ := (Option.any_eq_true _ _).mp hgroup
  obtain ⟨s, hs, hvalue⟩ := List.any_eq_true.mp hsettings
  obtain ⟨hstring, hboolean, hnumber, hkinds, hnames, hconfig⟩ :=
    literal_tokens_decode (Outcome.toOption_eq_some.mp hts)
  refine ⟨ts, ds, Outcome.toOption_eq_some.mp hts, Outcome.toOption_eq_some.mp hds, hsubset,
    ?_, ?_, ?_, hkinds unit (hsubset (by simp)), hnames unit (hsubset (by simp)) rfl, s, hs,
    of_decide_eq_true hvalue, hconfig ds (Outcome.toOption_eq_some.mp hds) s hs⟩
  · obtain ⟨quote, body, hquoted, hvalue⟩ := hstring note (hsubset (by simp)) rfl
    have hhead : note.text.toList.head? = some '\'' := by decide
    rw [hquoted.text] at hhead
    obtain rfl : quote = '\'' := Option.some.inj hhead
    exact ⟨body, hquoted, hvalue⟩
  · obtain ⟨negative, mantissa, exponent, hspells, hvalue⟩ :=
      hnumber ratio (hsubset (by simp)) rfl
    have hread : Decimal.read? ratio.text = some (.finite true 150 (-2)) := by decide
    have hfloat : (Decimal.Reading.finite true 150 (-2)).toFloat = -1.5 := by decide +kernel
    rw [Decimal.read?_eq_some.mpr hspells] at hread
    rw [hvalue, Option.some.inj hread, hfloat, if_pos (by decide +kernel)]
  · obtain ⟨b, htext, hvalue⟩ := hboolean strict (hsubset (by simp)) rfl
    cases b with
    | true => exact hvalue
    | false => exact absurd htext (by decide)

end TypeGuard
