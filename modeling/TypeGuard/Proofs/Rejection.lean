import TypeGuard.Proofs.Readable

/-!
Where tokens that are not grouped are rejected.

Each reader reports a token that it was given: one it has just read, the one it started from, or a
bracket that is still open. So the place of a rejection is the place of one of the tokens, and its
reason is structural. What is grouped keeps its tokens, so that a later rejection of a declaration
points at one of them too.
-/

namespace TypeGuard

open Outcome

def Diagnostic.PointsAt (categories : List Category) (ts : List Token) (d : Diagnostic) : Prop :=
  ∃ t ∈ ts, ∃ cause : Cause, cause.category ∈ categories ∧ d = t.reject cause

section PointsAt

variable {categories categories' : List Category} {ts us : List Token} {t : Token} {d : Diagnostic}

lemma pointsAt_reject {α : Type} {cause : Cause} (ht : t ∈ ts)
    (hcause : cause.category ∈ categories)
    (h : (.error (t.reject cause) : Except Diagnostic α) = .error d) : d.PointsAt categories ts :=
  ⟨t, ht, cause, hcause, (Except.error.inj h).symm⟩

lemma pointsAt_malformed {α : Type} {problem : StructuralProblem} (ht : t ∈ ts)
    (h : (.error (t.malformed problem) : Except Diagnostic α) = .error d) :
    d.PointsAt [.structural] ts :=
  pointsAt_reject ht (by simp [Cause.category]) h

lemma Diagnostic.PointsAt.mono (h : d.PointsAt categories ts)
    (hcategories : categories ⊆ categories') (hts : ts ⊆ us) : d.PointsAt categories' us := by
  obtain ⟨t, ht, cause, hcause, rfl⟩ := h
  exact ⟨t, hts ht, cause, hcategories hcause, rfl⟩

lemma Diagnostic.PointsAt.subset (h : d.PointsAt categories ts) (hts : ts ⊆ us) :
    d.PointsAt categories us :=
  h.mono (List.Subset.refl _) hts

end PointsAt

/-! ### Brackets -/

namespace Nesting

variable {opened left ts : List Token} {d : Diagnostic}

lemma step_error {t : Token} (h : step opened t = .error d) : d.PointsAt [.structural] [t] := by
  unfold step at h
  split at h
  · simp at h
  · split at h
    · simp at h
    · exact pointsAt_malformed (by simp) h
    · split at h
      · simp at h
      · exact pointsAt_malformed (by simp) h

lemma run_subset (h : run opened ts = .ok left) : left ⊆ opened ++ ts := by
  induction ts generalizing opened with
  | nil =>
    obtain rfl : opened = left := by simpa using h
    simp
  | cons t rest ih =>
    rw [run] at h
    split at h
    · simp at h
    · next opened' hstep =>
      have hopened : opened' ⊆ t :: opened := by
        obtain ⟨-, rfl⟩ | ⟨-, rfl⟩ | ⟨last, -, rfl⟩ := step_cases hstep <;> simp
      have hleft : left ⊆ opened' ++ rest := ih h
      intro u hu
      rcases List.mem_append.mp (hleft hu) with hmem | hmem
      · have := hopened hmem
        simp at this ⊢
        tauto
      · simp [hmem]

lemma run_error (h : run opened ts = .error d) : d.PointsAt [.structural] ts := by
  induction ts generalizing opened with
  | nil => simp at h
  | cons t rest ih =>
    rw [run] at h
    split at h
    · next hstep =>
      obtain rfl := Except.error.inj h
      exact (step_error hstep).subset (by simp)
    · exact (ih h).subset (by simp)

lemma check_error (h : check ts = .error d) : d.PointsAt [.structural] ts := by
  unfold check at h
  split at h
  · next hrun =>
    obtain rfl := Except.error.inj h
    exact run_error hrun
  · simp at h
  · next last outer hrun =>
    have hlast : last ∈ ts := by simpa using run_subset hrun (List.mem_cons_self ..)
    exact pointsAt_malformed hlast h

end Nesting

/-! ### Declarations -/

namespace Grouping

variable {tokens : List Token} {d : Diagnostic}

lemma expect_error {kind : Kind} {what : Expectation} {anchor : Token}
    (h : expect kind what anchor tokens = .error d) :
    d.PointsAt [.structural] (anchor :: tokens) := by
  cases tokens with
  | nil => exact pointsAt_malformed (by simp) h
  | cons t rest =>
    rw [expect] at h
    split at h
    · simp at h
    · exact pointsAt_malformed (by simp) h

lemma block_error {opener : Token} (h : block opener tokens = .error d) :
    d.PointsAt [.structural] (opener :: tokens) := by
  unfold block at h
  split at h
  · exact pointsAt_malformed (by simp) h
  · next brace rest hdrop =>
    have hbrace : brace ∈ tokens :=
      (List.dropWhile_suffix (!isBrace ·)).subset (by rw [hdrop]; simp)
    split at h
    · simp at h
    · exact pointsAt_malformed (List.mem_cons_of_mem opener hbrace) h

lemma setting_error {l : Token × List Token} (h : setting l = .error d) :
    d.PointsAt [.structural] [l.1] := by
  unfold setting at h
  split at h
  · simp at h
  · exact pointsAt_malformed (by simp) h

lemma property_error {l : Token × List Token} (h : property l = .error d) :
    d.PointsAt [.structural] [l.1] := by
  obtain ⟨name, expression⟩ := l
  simp only [property] at h
  split at h
  · exact pointsAt_malformed (by simp) h
  · split at h
    · exact pointsAt_malformed (by simp) h
    · simp at h

lemma fst_mem_of_block {opener : Token} {ls : List (Token × List Token)} {rest : List Token}
    (h : block opener tokens = .ok (ls, rest)) {l : Token × List Token} (hl : l ∈ ls) :
    l.1 ∈ tokens := by
  obtain ⟨body, closer, rfl, -, -, rfl⟩ := block_eq_ok.mp h
  have hline : l.1 :: l.2 ∈ (lines body).map fun l => l.1 :: l.2 := List.mem_map.mpr ⟨l, hl, rfl⟩
  have hmem := Canonical.mem_of_lines (lines_iff.mpr rfl) _ hline l.1 (by simp)
  simp [hmem.1]

/-- Where the block of a declaration is rejected, the brace that is missing, a brace of the block or
the first token of a line is reported. -/
lemma body_error {α : Type} {read : Token × List Token → Except Diagnostic α}
    {make : List α → Declaration} {what : Expectation} {anchor : Token}
    (hread : ∀ l d, read l = .error d → d.PointsAt [.structural] [l.1])
    (h : (do
      let (opener, rest) ← expect .openBrace what anchor (tokens.dropWhile isNewline)
      let (ls, rest) ← block opener rest
      let items ← ls.mapM read
      return (make items, rest)) = .error d) : d.PointsAt [.structural] (anchor :: tokens) := by
  have hdrop : tokens.dropWhile isNewline ⊆ tokens := (List.dropWhile_suffix _).subset
  rcases bind_eq_error.mp h with h | ⟨⟨opener, rest⟩, hopener, h⟩
  · exact (expect_error h).subset (List.cons_subset_cons anchor hdrop)
  · have hrest : opener :: rest ⊆ anchor :: tokens := by
      rw [(expect_eq_ok.mp hopener).1] at hdrop
      exact List.subset_cons_of_subset anchor hdrop
    rcases bind_eq_error.mp h with h | ⟨⟨ls, behind⟩, hblock, h⟩
    · exact (block_error h).subset hrest
    · rcases bind_eq_error.mp h with h | ⟨items, -, h⟩
      · obtain ⟨l, hl, he⟩ := mapM_error h
        have hmem : l.1 ∈ opener :: rest := List.mem_cons_of_mem _ (fst_mem_of_block hblock hl)
        exact (hread l d he).subset (by simpa using hrest hmem)
      · exact absurd h pure_ne_error

lemma typeAlias_error {keyword : Token} (h : typeAlias keyword tokens = .error d) :
    d.PointsAt [.structural] (keyword :: tokens) := by
  rcases bind_eq_error.mp h with h | ⟨⟨name, rest⟩, hname, h⟩
  · exact expect_error h
  · simp only at h
    split at h
    · exact pointsAt_malformed (t := name) (by simp [(expect_eq_ok.mp hname).1]) h
    · exact absurd h pure_ne_error

lemma record_error {sort : RecordSort} {keyword : Token}
    (h : record sort keyword tokens = .error d) :
    d.PointsAt [.structural] (keyword :: tokens) := by
  rcases bind_eq_error.mp h with h | ⟨⟨name, rest⟩, hname, h⟩
  · exact expect_error h
  · have hd : d.PointsAt [.structural] (name :: rest) :=
      body_error (fun l d => property_error) h
    exact hd.subset (by simp [(expect_eq_ok.mp hname).1])

lemma declaration_error {first : Token} (h : declaration first tokens = .error d) :
    d.PointsAt [.structural] (first :: tokens) := by
  unfold declaration at h
  split at h
  · exact body_error (fun l d => setting_error) h
  · exact typeAlias_error h
  · exact record_error h
  · exact record_error h
  · exact pointsAt_malformed (by simp) h

lemma declarationsFrom_error {skip : Nat} (h : declarationsFrom skip tokens = .error d) :
    d.PointsAt [.structural] tokens := by
  induction tokens generalizing skip with
  | nil => simp [declarationsFrom] at h
  | cons t rest ih =>
    have hrest {skip : Nat} (h : declarationsFrom skip rest = .error d) :
        d.PointsAt [.structural] (t :: rest) := (ih h).subset (by simp)
    cases skip with
    | succ skip => exact hrest h
    | zero =>
      rw [declarationsFrom] at h
      split at h
      · exact hrest h
      · split at h
        · next hdeclaration =>
          obtain rfl := Except.error.inj h
          exact declaration_error hdeclaration
        · split at h
          · next hmore =>
            obtain rfl := Except.error.inj h
            exact hrest hmore
          · simp at h

end Grouping

/-- **Grouping rejects at a token**, for a structural reason. -/
lemma group_error {ts : List Token} {d : Diagnostic} (h : group ts = .error d) :
    d.PointsAt [.structural] ts := by
  rcases bind_eq_error.mp h with h | ⟨_, -, h⟩
  · exact Nesting.check_error h
  · exact (Grouping.declarationsFrom_error h).subset (List.filter_subset_self ts)

/-! ### The tokens of declarations -/

/-- The tokens that a declaration keeps. -/
def Declaration.tokens : Declaration → List Token
  | .config keyword settings => keyword :: settings.flatMap fun s => [s.key, s.value]
  | .typeAlias name body => name :: body
  | .record _ name properties => name :: properties.flatMap fun p => p.name :: p.expression

namespace Grouping

lemma mem_of_block {tokens : List Token} {ls : List (List Token)} (h : Block tokens ls) :
    ∀ line ∈ ls, ∀ t ∈ line, t ∈ tokens := by
  obtain ⟨-, -, -, hlines, -⟩ := h
  intro line hline t ht
  have hmem := (Canonical.mem_of_lines hlines line hline t ht).1
  simp [hmem]

lemma Spells.tokens {e : Declaration} {front : List Token} (h : Spells e front) :
    ∀ t ∈ e.tokens, ∃ u ∈ front, t = u ∨ t = { u with kind := valueKind u } := by
  intro t ht
  cases h with
  | config _ hblock hsettings =>
    rcases List.mem_cons.mp ht with rfl | ht
    · exact ⟨t, by simp, .inl rfl⟩
    · obtain ⟨s, hs, ht⟩ := List.mem_flatMap.mp ht
      obtain ⟨line, hline, hsetting⟩ := Places.exists_left_of_mem hsettings hs
      have hmem := mem_of_block hblock line hline
      obtain ⟨key, value⟩ := hsetting
      -- the value has the kind of its text, all else is kept
      rcases List.mem_pair.mp ht with rfl | rfl
      · exact ⟨t, by simp [hmem t (by simp)], .inl rfl⟩
      · exact ⟨value, by simp [hmem value (by simp)], .inr rfl⟩
  | typeAlias _ _ _ _ => exact ⟨t, List.mem_cons_of_mem _ ht, .inl rfl⟩
  | record _ _ hblock hproperties =>
    rcases List.mem_cons.mp ht with rfl | ht
    · exact ⟨t, by simp, .inl rfl⟩
    · obtain ⟨p, hp, ht⟩ := List.mem_flatMap.mp ht
      obtain ⟨line, hline, hfield⟩ := Places.exists_left_of_mem hproperties hp
      have hmem := mem_of_block hblock line hline
      obtain ⟨-, -⟩ := hfield
      exact ⟨t, by simp [hmem t ht], .inl rfl⟩

/-- **The tokens of declarations** are tokens of the list that they are read from, up to the kinds
of configuration values. -/
lemma Declares.tokens {tokens : List Token} {ds : List Declaration} (h : Declares tokens ds) :
    ∀ t ∈ ds.flatMap Declaration.tokens,
      ∃ u ∈ tokens, t = u ∨ t = { u with kind := valueKind u } := by
  intro t ht
  induction h with
  | nil => simp at ht
  | newline _ _ ih =>
    obtain ⟨u, hu, hkind⟩ := ih ht
    exact ⟨u, List.mem_cons_of_mem _ hu, hkind⟩
  | declaration hspells _ _ ih =>
    rcases List.mem_append.mp (List.flatMap_cons ▸ ht) with ht | ht
    · obtain ⟨u, hu, hkind⟩ := hspells.tokens t ht
      exact ⟨u, List.mem_append_left _ hu, hkind⟩
    · obtain ⟨u, hu, hkind⟩ := ih ht
      exact ⟨u, List.mem_append_right _ hu, hkind⟩

end Grouping

end TypeGuard
