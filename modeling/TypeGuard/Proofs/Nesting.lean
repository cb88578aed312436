import Mathlib.Tactic.Lemma
import TypeGuard.Declaration.Nesting

/-!
The nesting check accepts exactly the well nested token lists.

What a list of openers still asks of the tokens to come is written down as `Closes`: well nested
tokens up to the closer of the last opener, and so on outwards. The check reads off one token of it
at a time.
-/

namespace TypeGuard.Nesting

inductive Pair : Kind → Kind → Prop where
  | brace : Pair .openBrace .closeBrace
  | paren : Pair .openParen .closeParen

def brackets : List Kind := [.openBrace, .closeBrace, .openParen, .closeParen]

/-- Tokens whose brackets are well nested. -/
inductive WellNested : List Token → Prop where
  | nil : WellNested []
  | other {t : Token} {rest : List Token} :
      t.kind ∉ brackets → WellNested rest → WellNested (t :: rest)
  | pair {opener closer : Token} {inner rest : List Token} :
      Pair opener.kind closer.kind → WellNested inner → WellNested rest →
      WellNested (opener :: (inner ++ closer :: rest))

lemma WellNested.append {front back : List Token} (hf : WellNested front)
    (hb : WellNested back) : WellNested (front ++ back) := by
  induction hf with
  | nil => exact hb
  | other ht _ ih => exact .other ht ih
  | pair hp hi _ _ ih =>
    rw [List.cons_append, List.append_assoc, List.cons_append]
    exact .pair hp hi ih

lemma wellNested_of_forall {tokens : List Token} (h : ∀ t ∈ tokens, t.kind ∉ brackets) :
    WellNested tokens := by
  induction tokens with
  | nil => exact .nil
  | cons t rest ih =>
    obtain ⟨ht, hrest⟩ := List.forall_mem_cons.mp h
    exact .other ht (ih hrest)

lemma wellNested_flatMap {α : Type} {f : α → List Token} {as : List α}
    (h : ∀ a ∈ as, WellNested (f a)) : WellNested (as.flatMap f) := by
  induction as with
  | nil => exact .nil
  | cons a as ih =>
    obtain ⟨ha, has⟩ := List.forall_mem_cons.mp h
    exact ha.append (ih has)

/-- What the open brackets, the last one first, ask of the tokens to come. -/
def Closes : List Token → List Token → Prop
  | [], tokens => WellNested tokens
  | opener :: outer, tokens => ∃ inner closer rest, tokens = inner ++ closer :: rest ∧
      Pair opener.kind closer.kind ∧ WellNested inner ∧ Closes outer rest

lemma Closes.prepend {opened front back : List Token} (hb : Closes opened back)
    (hf : WellNested front) : Closes opened (front ++ back) := by
  cases opened with
  | nil => exact hf.append hb
  | cons opener outer =>
    obtain ⟨inner, closer, rest, rfl, hp, hi, ho⟩ := hb
    exact ⟨front ++ inner, closer, rest, by simp, hp, hf.append hi, ho⟩

/-- The three ways in which a token can be read: an opener, no bracket, or the closer of the last
opener. -/
lemma step_cases {opened opened' : List Token} {t : Token} (h : step opened t = .ok opened') :
    (isOpener t.kind = true ∧ opened' = t :: opened) ∨
      (t.kind ∉ brackets ∧ opened' = opened) ∨
      ∃ last, Pair last.kind t.kind ∧ opened = last :: opened' := by
  unfold step at h
  split at h
  · next ho => exact .inl ⟨ho, by simpa using h.symm⟩
  · next ho =>
    split at h
    · next hc =>
      refine .inr (.inl ⟨?_, by simpa using h.symm⟩)
      rcases hk : t.kind <;> simp_all [isOpener, opener?, brackets]
    · simp at h
    · next kind last outer hc =>
      split at h
      · next hk =>
        refine .inr (.inr ⟨last, ?_, by simpa using h⟩)
        rcases ht : t.kind <;> simp [ht, opener?] at hc <;> subst hc <;> rw [hk] <;> constructor
      · simp at h

lemma step_opener (opened : List Token) {t : Token} (h : isOpener t.kind = true) :
    step opened t = .ok (t :: opened) := by
  simp [step, h]

lemma step_other (opened : List Token) {t : Token} (h : t.kind ∉ brackets) :
    step opened t = .ok opened := by
  rcases hk : t.kind <;> simp_all [step, isOpener, opener?, brackets]

lemma step_closer (outer : List Token) {last t : Token} (h : Pair last.kind t.kind) :
    step (last :: outer) t = .ok outer := by
  generalize hl : last.kind = l at h
  generalize hk : t.kind = k at h
  cases h <;> simp [step, hk, hl, isOpener, opener?]

lemma run_cons_of_step {opened opened' : List Token} {t : Token} (rest : List Token)
    (h : step opened t = .ok opened') : run opened (t :: rest) = run opened' rest := by
  simp [run, h]

lemma isOpener_of_pair {opener closer : Kind} (h : Pair opener closer) :
    isOpener opener = true := by
  cases h <;> rfl

lemma Closes.opener {t : Token} {opened rest : List Token} (h : Closes (t :: opened) rest) :
    Closes opened (t :: rest) := by
  obtain ⟨inner, closer, rest, rfl, hp, hi, ho⟩ := h
  have hw : WellNested (t :: (inner ++ [closer])) := .pair hp hi .nil
  simpa using ho.prepend hw

lemma run_wellNested {front : List Token} (hf : WellNested front) (opened back : List Token) :
    run opened (front ++ back) = run opened back := by
  induction hf generalizing opened back with
  | nil => rfl
  | other ht _ ih =>
    rw [List.cons_append, run_cons_of_step _ (step_other opened ht), ih]
  | @pair opener closer inner rest hp _ _ ihi ihr =>
    rw [List.cons_append, run_cons_of_step _ (step_opener opened (isOpener_of_pair hp)),
      List.append_assoc, ihi, List.cons_append, run_cons_of_step _ (step_closer opened hp), ihr]

lemma run_of_closes {opened tokens : List Token} (h : Closes opened tokens) :
    run opened tokens = .ok [] := by
  induction opened generalizing tokens with
  | nil => simpa using run_wellNested h [] []
  | cons opener outer ih =>
    obtain ⟨inner, closer, rest, rfl, hp, hi, ho⟩ := h
    rw [run_wellNested hi, run_cons_of_step _ (step_closer outer hp), ih ho]

lemma closes_of_run {opened tokens : List Token} (h : run opened tokens = .ok []) :
    Closes opened tokens := by
  induction tokens generalizing opened with
  | nil =>
    obtain rfl : opened = [] := by simpa using h
    exact WellNested.nil
  | cons t rest ih =>
    rw [run] at h
    split at h
    · simp at h
    · next opened' hs =>
      have hc := ih h
      obtain ⟨-, rfl⟩ | ⟨ht, rfl⟩ | ⟨last, hp, rfl⟩ := step_cases hs
      · exact hc.opener
      · have hw : WellNested [t] := .other ht .nil
        exact hc.prepend hw
      · exact ⟨[], t, rest, rfl, hp, .nil, hc⟩

/-- **The nesting check is exact.** -/
lemma check_eq_ok_iff {tokens : List Token} : check tokens = .ok () ↔ WellNested tokens := by
  have hrun : check tokens = .ok () ↔ run [] tokens = .ok [] := by
    unfold check
    rcases run [] tokens with d | _ | ⟨last, outer⟩ <;> simp
  rw [hrun]
  exact ⟨closes_of_run, fun h => run_of_closes (show Closes [] tokens from h)⟩

lemma wellNested_iff {tokens : List Token} : WellNested tokens ↔ run [] tokens = .ok [] :=
  ⟨fun h => run_of_closes (show Closes [] tokens from h), closes_of_run⟩

lemma run_filter {p : Token → Bool} {tokens : List Token}
    (h : ∀ t ∈ tokens, p t = false → t.kind ∉ brackets) (opened : List Token) :
    run opened (tokens.filter p) = run opened tokens := by
  induction tokens generalizing opened with
  | nil => rfl
  | cons t rest ih =>
    obtain ⟨ht, hrest⟩ := List.forall_mem_cons.mp h
    cases hp : p t with
    | true =>
      rw [List.filter_cons_of_pos hp, run, run]
      cases step opened t with
      | error d => rfl
      | ok opened' => exact ih hrest opened'
    | false =>
      rw [List.filter_cons_of_neg (by simp [hp]), ih hrest,
        run_cons_of_step _ (step_other opened (ht hp))]

lemma run_filter_layout (opened tokens : List Token) :
    run opened (tokens.filter (!·.kind.isLayout)) = run opened tokens := by
  have hbracket : ∀ kind ∈ brackets, kind.isLayout = false := by decide
  refine run_filter (fun t _ hkind hmem => ?_) opened
  simp [hbracket _ hmem] at hkind

/-- The parentheses opened since a brace are closed before the closer of the brace. -/
lemma run_of_braces {opener closer : Token} {body rest opened left parens : List Token}
    (hopener : opener.kind = .openBrace) (hcloser : closer.kind = .closeBrace)
    (hbody : ∀ t ∈ body, t.kind ≠ .openBrace ∧ t.kind ≠ .closeBrace)
    (hparens : ∀ t ∈ parens, t.kind = .openParen)
    (h : run (parens ++ opener :: opened) (body ++ closer :: rest) = .ok left) :
    run parens body = .ok [] := by
  induction body generalizing parens with
  | nil =>
    cases parens with
    | nil => rfl
    | cons paren parens =>
      have hparen := hparens paren (by simp)
      simp [run, step, hcloser, hparen, isOpener, opener?] at h
  | cons t body ih =>
    obtain ⟨ht, hbody⟩ := List.forall_mem_cons.mp hbody
    rw [List.cons_append, run] at h
    split at h
    · simp at h
    · next opened' hstep =>
      obtain ⟨hopens, rfl⟩ | ⟨hother, rfl⟩ | ⟨last, hpair, hlast⟩ := step_cases hstep
      · have hkind : t.kind = .openParen := by
          cases hk : t.kind <;> simp_all [isOpener]
        rw [run_cons_of_step body (step_opener parens hopens)]
        exact ih hbody (by simpa [hkind] using hparens) h
      · rw [run_cons_of_step body (step_other parens hother)]
        exact ih hbody hparens h
      · cases parens with
        | nil =>
          obtain ⟨rfl, -⟩ := List.cons.inj hlast
          rw [hopener] at hpair
          generalize hk : t.kind = kind at hpair
          cases hpair
          exact absurd hk ht.2
        | cons paren parens =>
          obtain ⟨rfl, rfl⟩ := List.cons.inj hlast
          rw [run_cons_of_step body (step_closer parens hpair)]
          exact ih hbody (List.forall_mem_cons.mp hparens).2 h

/-- What stands between two braces that are read as a pair, with no other brace between them, is
well nested. -/
lemma wellNested_of_braces {opener closer : Token} {body rest opened left : List Token}
    (hopener : opener.kind = .openBrace) (hcloser : closer.kind = .closeBrace)
    (hbody : ∀ t ∈ body, t.kind ≠ .openBrace ∧ t.kind ≠ .closeBrace)
    (h : run opened (opener :: (body ++ closer :: rest)) = .ok left) : WellNested body := by
  rw [run_cons_of_step _ (step_opener opened (by rw [hopener]; rfl))] at h
  have hnone : ∀ t ∈ ([] : List Token), t.kind = .openParen := by simp
  exact wellNested_iff.mpr (run_of_braces hopener hcloser hbody hnone h)

end TypeGuard.Nesting
