import Mathlib.Data.List.Induction
import TypeGuard.Proofs.Nesting

/-!
Which bracket is blamed where brackets are not well nested.

What is closed is said on the tokens alone: an opener is closed if a closer of its pair stands
behind it, with well nested tokens between them. The openers that the check has on its stack behind
some tokens are the ones that these tokens do not close, the last one first. So a closer that the
check rejects has nothing to close, or stands where another pair has to be closed first.
-/

namespace TypeGuard.Nesting

/-! ### Words of brackets -/

/-- The well nested words over the two pairs of brackets. -/
inductive Dyck : List Kind → Prop where
  | nil : Dyck []
  | pair {opener closer : Kind} {inner rest : List Kind} :
      Pair opener closer → Dyck inner → Dyck rest → Dyck (opener :: (inner ++ closer :: rest))

def bracketsOf (tokens : List Token) : List Kind :=
  (tokens.filter fun t => decide (t.kind ∈ brackets)).map (·.kind)

lemma Pair.mem_brackets {opener closer : Kind} (h : Pair opener closer) :
    opener ∈ brackets ∧ closer ∈ brackets := by
  cases h <;> simp [brackets]

lemma bracketsOf_append (front back : List Token) :
    bracketsOf (front ++ back) = bracketsOf front ++ bracketsOf back := by
  simp [bracketsOf]

lemma bracketsOf_cons_of_mem {t : Token} (h : t.kind ∈ brackets) (rest : List Token) :
    bracketsOf (t :: rest) = t.kind :: bracketsOf rest := by
  simp [bracketsOf, h]

lemma bracketsOf_cons_of_notMem {t : Token} (h : t.kind ∉ brackets) (rest : List Token) :
    bracketsOf (t :: rest) = bracketsOf rest := by
  simp [bracketsOf, h]

lemma WellNested.dyck {tokens : List Token} (h : WellNested tokens) :
    Dyck (bracketsOf tokens) := by
  induction h with
  | nil => exact .nil
  | other ht _ ih => rwa [bracketsOf_cons_of_notMem ht]
  | pair hp _ _ ihi ihr =>
    obtain ⟨hopener, hcloser⟩ := hp.mem_brackets
    rw [bracketsOf_cons_of_mem hopener, bracketsOf_append, bracketsOf_cons_of_mem hcloser]
    exact .pair hp ihi ihr

/-- Where the word of brackets has a first letter, the tokens have a first bracket. -/
lemma bracketsOf_eq_cons {tokens : List Token} {kind : Kind} {word : List Kind}
    (h : bracketsOf tokens = kind :: word) :
    ∃ gap t rest, tokens = gap ++ t :: rest ∧ (∀ u ∈ gap, u.kind ∉ brackets) ∧ t.kind = kind ∧
      bracketsOf rest = word := by
  obtain ⟨t, rest, hfilter, hkind, hword⟩ := List.map_eq_cons_iff.mp h
  obtain ⟨gap, behind, rfl, hgap, -, hrest⟩ := List.filter_eq_cons_iff.mp hfilter
  exact ⟨gap, t, behind, rfl, by simpa using hgap, hkind, by rw [bracketsOf, hrest, hword]⟩

lemma bracketsOf_eq_append {tokens : List Token} {front back : List Kind}
    (h : bracketsOf tokens = front ++ back) :
    ∃ left right, tokens = left ++ right ∧ bracketsOf left = front ∧ bracketsOf right = back := by
  obtain ⟨fs, bs, hfilter, hfront, hback⟩ := List.map_eq_append_iff.mp h
  obtain ⟨left, right, rfl, rfl, rfl⟩ := List.filter_eq_append_iff.mp hfilter
  exact ⟨left, right, rfl, hfront, hback⟩

lemma wellNested_of_dyck {word : List Kind} (h : Dyck word) {tokens : List Token}
    (hword : bracketsOf tokens = word) : WellNested tokens := by
  induction h generalizing tokens with
  | nil =>
    refine wellNested_of_forall fun t ht hmem => ?_
    have hkind : t.kind ∈ bracketsOf tokens :=
      List.mem_map.mpr ⟨t, List.mem_filter.mpr ⟨ht, by simpa using hmem⟩, rfl⟩
    rw [hword] at hkind
    simp at hkind
  | pair hp _ _ ihi ihr =>
    obtain ⟨gap, opener, behind, rfl, hgap, rfl, hbehind⟩ := bracketsOf_eq_cons hword
    obtain ⟨inner, back, rfl, hinner, hback⟩ := bracketsOf_eq_append hbehind
    obtain ⟨gap', closer, rest, rfl, hgap', rfl, hrest⟩ := bracketsOf_eq_cons hback
    have hbetween : WellNested (inner ++ gap') := (ihi hinner).append (wellNested_of_forall hgap')
    have hpair := WellNested.pair hp hbetween (ihr hrest)
    rw [List.append_assoc] at hpair
    exact (wellNested_of_forall hgap).append hpair

/-- Whether tokens are well nested depends on the word of their brackets only. -/
lemma wellNested_iff_dyck {tokens : List Token} : WellNested tokens ↔ Dyck (bracketsOf tokens) :=
  ⟨WellNested.dyck, fun h => wellNested_of_dyck h rfl⟩

/-! ### Closers that are rejected -/

lemma opener?_of_pair {opener closer : Kind} (h : Pair opener closer) :
    isOpener closer = false ∧ opener? closer = some opener := by
  cases h <;> exact ⟨rfl, rfl⟩

lemma pair_of_opener? {opener closer : Kind} (h : opener? closer = some opener) :
    Pair opener closer := by
  cases closer <;> simp [opener?] at h <;> subst h <;> constructor

lemma step_unmatched {t : Token} {kind : Kind} (h : Pair kind t.kind) :
    step [] t = .error (t.malformed (.unmatched t.text)) := by
  obtain ⟨hnot, hsome⟩ := opener?_of_pair h
  simp [step, hnot, hsome]

lemma step_mismatched {t last : Token} {kind : Kind} (outer : List Token) (h : Pair kind t.kind)
    (hlast : ¬ Pair last.kind t.kind) :
    step (last :: outer) t = .error (t.malformed (.mismatched t.text last)) := by
  obtain ⟨hnot, hsome⟩ := opener?_of_pair h
  have hne : last.kind ≠ kind := by
    rintro rfl
    exact hlast h
  simp [step, hnot, hsome, hne]

/-- A token is rejected if it is a closer, and nothing is open or an opener of the other pair is the
last one. -/
lemma step_eq_error {opened : List Token} {t : Token} {d : Diagnostic}
    (h : step opened t = .error d) :
    ∃ kind, Pair kind t.kind ∧
      ((opened = [] ∧ d = t.malformed (.unmatched t.text)) ∨
        ∃ last outer, opened = last :: outer ∧ ¬ Pair last.kind t.kind ∧
          d = t.malformed (.mismatched t.text last)) := by
  unfold step at h
  split at h
  · simp at h
  · split at h
    · simp at h
    · next kind hkind =>
      exact ⟨kind, pair_of_opener? hkind, .inl ⟨rfl, (Except.error.inj h).symm⟩⟩
    · next kind last outer hkind =>
      split at h
      · simp at h
      · next hne =>
        refine ⟨kind, pair_of_opener? hkind, .inr ⟨last, outer, rfl, fun hpair => hne ?_, ?_⟩⟩
        · have hsame := (opener?_of_pair hpair).2
          rw [hkind] at hsame
          exact (Option.some.inj hsame).symm
        · exact (Except.error.inj h).symm

/-! ### Openers that are not closed -/

/-- An opener that the tokens behind it do not close: no closer of its pair stands behind well
nested tokens. -/
def Unclosed (opener : Token) (behind : List Token) : Prop :=
  (∃ kind, Pair opener.kind kind) ∧
    ¬ ∃ inner closer rest, behind = inner ++ closer :: rest ∧ WellNested inner ∧
      Pair opener.kind closer.kind

def AllClosed (tokens : List Token) : Prop :=
  ∀ front opener behind, tokens = front ++ opener :: behind → ¬ Unclosed opener behind

def LastUnclosed (tokens : List Token) (opener : Token) : Prop :=
  ∃ front behind, tokens = front ++ opener :: behind ∧ Unclosed opener behind ∧ AllClosed behind

/-- In tokens that close all brackets, the closer of an opener stands behind it. -/
lemma exists_closer_of_run {opened front behind : List Token} {opener : Token} {kind : Kind}
    (hopener : Pair opener.kind kind) (h : run opened (front ++ opener :: behind) = .ok []) :
    ∃ inner closer rest, behind = inner ++ closer :: rest ∧ WellNested inner ∧
      Pair opener.kind closer.kind := by
  rw [run_append] at h
  split at h
  · simp at h
  · next left _ =>
    rw [run_cons_of_step _ (step_opener left (isOpener_of_pair hopener))] at h
    obtain ⟨inner, closer, rest, hbehind, hpair, hinner, -⟩ := closes_of_run h
    exact ⟨inner, closer, rest, hbehind, hinner, hpair⟩

lemma WellNested.allClosed {tokens : List Token} (h : WellNested tokens) : AllClosed tokens := by
  rintro front opener behind rfl ⟨⟨kind, hopener⟩, hnone⟩
  exact hnone (exists_closer_of_run hopener (wellNested_iff.mp h))

lemma WellNested.unclosed {opener : Token} {inner : List Token} {kind : Kind}
    (hopener : Pair opener.kind kind) (h : WellNested inner) : Unclosed opener inner := by
  refine ⟨⟨kind, hopener⟩, ?_⟩
  rintro ⟨inner', closer, rest, rfl, hinner', hpair⟩
  have hrun := wellNested_iff.mp h
  -- nothing is open where the closer is read
  rw [run_wellNested hinner', run, step_unmatched hpair] at hrun
  simp at hrun

lemma AllClosed.not_lastUnclosed {tokens : List Token} {opener : Token} (h : AllClosed tokens) :
    ¬ LastUnclosed tokens opener := by
  rintro ⟨front, behind, rfl, hopener, -⟩
  exact h front opener behind rfl hopener

lemma LastUnclosed.eq {tokens : List Token} {opener opener' : Token}
    (h : LastUnclosed tokens opener) (h' : LastUnclosed tokens opener') : opener = opener' := by
  obtain ⟨front, behind, rfl, hopener, hclosed⟩ := h
  obtain ⟨front', behind', hsplit, hopener', hclosed'⟩ := h'
  -- of two openers the first one has the second one behind it
  rcases List.append_eq_append_iff.mp hsplit with ⟨gap, -, hgap⟩ | ⟨gap, -, hgap⟩
  · cases gap with
    | nil => exact (List.cons.inj hgap).1
    | cons t gap => exact absurd hopener' (hclosed gap opener' behind' (List.cons.inj hgap).2)
  · cases gap with
    | nil => exact (List.cons.inj hgap).1.symm
    | cons t gap => exact absurd hopener (hclosed' gap opener behind (List.cons.inj hgap).2)

/-! ### What the check has left open -/

/-- Tokens that leave openers open, the last one first: between these openers the tokens are well
nested. -/
inductive Leaves : List Token → List Token → Prop where
  | closed {tokens : List Token} : WellNested tokens → Leaves tokens []
  | opener {front inner opened : List Token} {opener : Token} :
      Leaves front opened → isOpener opener.kind = true → WellNested inner →
      Leaves (front ++ opener :: inner) (opener :: opened)

lemma Leaves.append {front back opened : List Token} (h : Leaves front opened)
    (hback : WellNested back) : Leaves (front ++ back) opened := by
  cases h with
  | closed hfront => exact .closed (hfront.append hback)
  | opener hfront hopener hinner =>
    rw [List.append_assoc, List.cons_append]
    exact .opener hfront hopener (hinner.append hback)

lemma Leaves.step {front opened opened' : List Token} {t : Token} (h : Leaves front opened)
    (hstep : step opened t = .ok opened') : Leaves (front ++ [t]) opened' := by
  obtain ⟨hopener, rfl⟩ | ⟨hother, rfl⟩ | ⟨last, hpair, rfl⟩ := step_cases hstep
  · exact .opener h hopener .nil
  · exact h.append (.other hother .nil)
  · cases h with
    | opener hfront _ hinner =>
      rw [List.append_assoc, List.cons_append]
      exact hfront.append (.pair hpair hinner .nil)

lemma run_concat {tokens opened : List Token} {t : Token} :
    run [] (tokens ++ [t]) = .ok opened ↔
      ∃ left, run [] tokens = .ok left ∧ step left t = .ok opened := by
  rw [run_append]
  cases run [] tokens with
  | error d => simp
  | ok left =>
    simp only [Except.ok.injEq, exists_eq_left', run]
    cases step left t <;> simp

lemma leaves_of_run {tokens opened : List Token} (h : run [] tokens = .ok opened) :
    Leaves tokens opened := by
  induction tokens using List.reverseRecOn generalizing opened with
  | nil =>
    obtain rfl : [] = opened := by simpa using h
    exact .closed .nil
  | append_singleton tokens t ih =>
    obtain ⟨left, hleft, hstep⟩ := run_concat.mp h
    exact (ih hleft).step hstep

lemma lastUnclosed_of_run {tokens outer : List Token} {last : Token}
    (h : run [] tokens = .ok (last :: outer)) : LastUnclosed tokens last := by
  cases leaves_of_run h with
  | @opener front inner _ _ _ hopener hinner =>
    have hpair : ∃ kind, Pair last.kind kind := by
      cases hk : last.kind <;> simp [hk, isOpener] at hopener
      · exact ⟨_, .brace⟩
      · exact ⟨_, .paren⟩
    obtain ⟨kind, hpair⟩ := hpair
    exact ⟨front, inner, rfl, hinner.unclosed hpair, hinner.allClosed⟩

lemma allClosed_of_run {tokens : List Token} (h : run [] tokens = .ok []) : AllClosed tokens :=
  (wellNested_iff.mpr h).allClosed

/-! ### Stray closers -/

/-- A closer that has nothing to close, or stands where another pair has to be closed first, with
the problem that is reported. -/
inductive Stray (front : List Token) (closer : Token) : StructuralProblem → Prop where
  | unmatched {kind : Kind} : Pair kind closer.kind → AllClosed front →
      Stray front closer (.unmatched closer.text)
  | mismatched {kind : Kind} {opener : Token} : Pair kind closer.kind →
      LastUnclosed front opener → ¬ Pair opener.kind closer.kind →
      Stray front closer (.mismatched closer.text opener)

def NoneStray (tokens : List Token) : Prop :=
  ∀ front t behind problem, tokens = front ++ t :: behind → ¬ Stray front t problem

lemma step_error_iff_stray {front opened : List Token} {t : Token} {d : Diagnostic}
    (h : run [] front = .ok opened) :
    step opened t = .error d ↔ ∃ problem, Stray front t problem ∧ d = t.malformed problem := by
  constructor
  · intro hstep
    obtain ⟨kind, hcloser, ⟨rfl, rfl⟩ | ⟨last, outer, rfl, hlast, rfl⟩⟩ := step_eq_error hstep
    · exact ⟨_, .unmatched hcloser (allClosed_of_run h), rfl⟩
    · exact ⟨_, .mismatched hcloser (lastUnclosed_of_run h) hlast, rfl⟩
  · rintro ⟨problem, hstray, rfl⟩
    cases hstray with
    | unmatched hcloser hclosed =>
      cases opened with
      | nil => exact step_unmatched hcloser
      | cons last outer => exact absurd (lastUnclosed_of_run h) hclosed.not_lastUnclosed
    | mismatched hcloser hopener hpair =>
      cases opened with
      | nil => exact absurd hopener (allClosed_of_run h).not_lastUnclosed
      | cons last outer =>
        obtain rfl := hopener.eq (lastUnclosed_of_run h)
        exact step_mismatched outer hcloser hpair

lemma noneStray_iff {tokens : List Token} :
    NoneStray tokens ↔ ∃ opened, run [] tokens = .ok opened := by
  constructor
  · intro h
    induction tokens using List.reverseRecOn with
    | nil => exact ⟨[], rfl⟩
    | append_singleton tokens t ih =>
      have hfront : NoneStray tokens := by
        rintro front u behind problem rfl
        exact h front u (behind ++ [t]) problem (by simp)
      obtain ⟨opened, hopened⟩ := ih hfront
      cases hstep : step opened t with
      | ok opened' => exact ⟨opened', run_concat.mpr ⟨opened, hopened, hstep⟩⟩
      | error d =>
        obtain ⟨problem, hstray, -⟩ := (step_error_iff_stray hopened).mp hstep
        exact absurd hstray (h tokens t [] problem rfl)
  · rintro ⟨opened, hopened⟩ front t behind problem rfl hstray
    rw [run_append] at hopened
    split at hopened
    · simp at hopened
    · next left hleft =>
      rw [run, (step_error_iff_stray hleft).mpr ⟨problem, hstray, rfl⟩] at hopened
      simp at hopened

/-- A run is rejected at the first token that cannot be read. -/
lemma run_eq_error {opened tokens : List Token} {d : Diagnostic} :
    run opened tokens = .error d ↔ ∃ front t behind left, tokens = front ++ t :: behind ∧
      run opened front = .ok left ∧ step left t = .error d := by
  constructor
  · intro h
    induction tokens generalizing opened with
    | nil => simp at h
    | cons t rest ih =>
      rw [run] at h
      split at h
      · next hstep =>
        obtain rfl := Except.error.inj h
        exact ⟨[], t, rest, opened, rfl, rfl, hstep⟩
      · next opened' hstep =>
        obtain ⟨front, u, behind, left, rfl, hleft, hu⟩ := ih h
        exact ⟨t :: front, u, behind, left, rfl, by rwa [run_cons_of_step front hstep], hu⟩
  · rintro ⟨front, t, behind, left, rfl, hleft, hstep⟩
    simp [run_append, hleft, run, hstep]

lemma run_error_iff_stray {tokens : List Token} {d : Diagnostic} :
    run [] tokens = .error d ↔ ∃ front closer behind problem,
      tokens = front ++ closer :: behind ∧ NoneStray front ∧ Stray front closer problem ∧
      d = closer.malformed problem := by
  rw [run_eq_error]
  constructor
  · rintro ⟨front, t, behind, left, rfl, hleft, hstep⟩
    obtain ⟨problem, hstray, rfl⟩ := (step_error_iff_stray hleft).mp hstep
    exact ⟨front, t, behind, problem, rfl, noneStray_iff.mpr ⟨left, hleft⟩, hstray, rfl⟩
  · rintro ⟨front, closer, behind, problem, rfl, hfront, hstray, rfl⟩
    obtain ⟨left, hleft⟩ := noneStray_iff.mp hfront
    exact ⟨front, closer, behind, left, rfl, hleft,
      (step_error_iff_stray hleft).mpr ⟨problem, hstray, rfl⟩⟩

lemma check_eq_error {tokens : List Token} {d : Diagnostic} :
    check tokens = .error d ↔ run [] tokens = .error d ∨
      ∃ last outer, run [] tokens = .ok (last :: outer) ∧
        d = last.malformed (.unclosed last.text) := by
  unfold check
  rcases run [] tokens with e | _ | ⟨last, outer⟩
  · simp
  · simp
  · simp [eq_comm]

/-- **The check of brackets is exact, and blames one bracket.** It accepts a token list exactly if
its brackets are a well nested word. Else it points at the first closer that is stray or, if there
is none, at the last opener that is not closed. -/
theorem check_exact (tokens : List Token) :
    (check tokens = .ok () ↔ Dyck (bracketsOf tokens)) ∧
    ∀ d, check tokens = .error d ↔
      (∃ front closer behind problem, tokens = front ++ closer :: behind ∧ NoneStray front ∧
        Stray front closer problem ∧ d = closer.malformed problem) ∨
      (NoneStray tokens ∧ ∃ opener, LastUnclosed tokens opener ∧
        d = opener.malformed (.unclosed opener.text)) := by
  refine ⟨check_eq_ok_iff.trans wellNested_iff_dyck, fun d => ?_⟩
  rw [check_eq_error, run_error_iff_stray]
  refine or_congr_right ?_
  constructor
  · rintro ⟨last, outer, hrun, rfl⟩
    exact ⟨noneStray_iff.mpr ⟨_, hrun⟩, last, lastUnclosed_of_run hrun, rfl⟩
  · rintro ⟨hnone, opener, hopener, rfl⟩
    obtain ⟨opened, hrun⟩ := noneStray_iff.mp hnone
    cases opened with
    | nil => exact absurd hopener (allClosed_of_run hrun).not_lastUnclosed
    | cons last outer =>
      obtain rfl := hopener.eq (lastUnclosed_of_run hrun)
      exact ⟨opener, outer, hrun, rfl⟩

end TypeGuard.Nesting
