import TypeGuard.Declaration.Canonical
import TypeGuard.Proofs.Resolution
import TypeGuard.Proofs.WellFormed

/-!
Where configuration blocks stand among the other declarations makes no difference.

A configuration block changes the configuration only, and no other declaration reads or changes it.
So all configuration blocks can be resolved first.
-/

namespace TypeGuard.Resolution

open Canonical Outcome

variable {registry : Registry} {r r' : Resolution}

lemma config_eq_ok {d : Declaration} (hd : isConfig d = true)
    (h : r.declaration registry d = .ok r') :
    r' = { r with config := r'.config } ∧ ∀ q : Resolution, q.config = r.config →
      q.declaration registry d = .ok { q with config := r'.config } := by
  cases d with
  | config keyword settings =>
    obtain ⟨c, hc, hr⟩ := bind_eq_ok.mp h
    obtain rfl := pure_eq_ok.mp hr
    refine ⟨rfl, fun q hq => bind_eq_ok.mpr ⟨c, ?_, rfl⟩⟩
    rw [hq]
    exact hc
  | typeAlias name body => simp [isConfig] at hd
  | record sort name lines => simp [isConfig] at hd

lemma declaration_withConfig {d : Declaration} (hd : isConfig d = false)
    (h : r.declaration registry d = .ok r') (c : Configuration) :
    Resolution.declaration registry { r with config := c } d = .ok { r' with config := c } := by
  cases d with
  | config keyword settings => simp [isConfig] at hd
  | typeAlias name body =>
    obtain ⟨hfree, hsymbol, outcome, ho, rfl⟩ := typeAlias_eq_ok.mp h
    exact typeAlias_eq_ok.mpr ⟨hfree, hsymbol, outcome, ho, rfl⟩
  | record sort name lines =>
    obtain ⟨hfree, hsymbol, hmembers, p, hp, rfl⟩ := record_eq_ok.mp h
    exact record_eq_ok.mpr ⟨hfree, hsymbol, hmembers, p, hp, rfl⟩

lemma config_unchanged {d : Declaration} (hd : isConfig d = false)
    (h : r.declaration registry d = .ok r') : r'.config = r.config := by
  have hsame := declaration_withConfig hd h r.config
  have hr : r.declaration registry d = .ok { r' with config := r.config } := hsame
  rw [h] at hr
  rw [Except.ok.inj hr]

/-- Of all declarations, only configuration lines change the configuration. -/
lemma foldlM_settings {ds : List Declaration} (h : ds.foldlM (declaration registry) r = .ok r') :
    (ds.flatMap Declaration.settings).foldlM setting r.config = .ok r'.config := by
  induction ds generalizing r with
  | nil =>
    rw [List.foldlM_nil, pure_eq_ok] at h
    rw [h]
    rfl
  | cons d ds ih =>
    rw [List.foldlM_cons, bind_eq_ok] at h
    obtain ⟨r₁, h₁, h₂⟩ := h
    rw [List.flatMap_cons, List.foldlM_append, bind_eq_ok]
    refine ⟨r₁.config, ?_, ih h₂⟩
    cases d with
    | config keyword settings =>
      obtain ⟨c, hc, rfl⟩ := settings_eq_ok.mp h₁
      exact hc
    | typeAlias | record =>
      rw [config_unchanged rfl h₁]
      rfl

/-- Configuration blocks alone resolve alike whatever else has been resolved. -/
lemma foldlM_configs {ds : List Declaration} (hds : ∀ d ∈ ds, isConfig d = true)
    (h : ds.foldlM (declaration registry) r = .ok r') {q : Resolution} (hq : q.config = r.config) :
    ds.foldlM (declaration registry) q = .ok { q with config := r'.config } := by
  induction ds generalizing r q with
  | nil =>
    rw [List.foldlM_nil, pure_eq_ok] at h ⊢
    rw [← h, ← hq]
  | cons d ds ih =>
    obtain ⟨hd, hrest⟩ := List.forall_mem_cons.mp hds
    rw [List.foldlM_cons, bind_eq_ok] at h ⊢
    obtain ⟨r₁, h₁, h₂⟩ := h
    refine ⟨_, (config_eq_ok hd h₁).2 q hq, ?_⟩
    exact ih hrest h₂ rfl

/-- **Configuration blocks may come first.** -/
lemma foldlM_ordered {ds : List Declaration}
    (h : ds.foldlM (declaration registry) r = .ok r') :
    (ordered ds).foldlM (declaration registry) r = .ok r' := by
  -- what is carried along: the configuration that all blocks together lead to
  suffices hsplit : ∃ c,
      (ds.filter isConfig).foldlM (declaration registry) r = .ok { r with config := c } ∧
      (ds.filter (!isConfig ·)).foldlM (declaration registry) { r with config := c } = .ok r' by
    obtain ⟨c, hconfigs, hothers⟩ := hsplit
    rw [ordered, List.foldlM_append, bind_eq_ok]
    exact ⟨_, hconfigs, hothers⟩
  induction ds generalizing r with
  | nil =>
    rw [List.foldlM_nil, pure_eq_ok] at h
    exact ⟨r.config, rfl, h ▸ rfl⟩
  | cons d ds ih =>
    rw [List.foldlM_cons, bind_eq_ok] at h
    obtain ⟨r₁, h₁, h₂⟩ := h
    obtain ⟨c, hconfigs, hothers⟩ := ih h₂
    refine ⟨c, ?_, ?_⟩
    · by_cases hd : isConfig d = true
      · rw [List.filter_cons_of_pos hd, List.foldlM_cons, bind_eq_ok]
        refine ⟨r₁, h₁, ?_⟩
        rw [hconfigs, (config_eq_ok hd h₁).1]
      · rw [List.filter_cons_of_neg hd]
        have hconfig := config_unchanged (by simpa using hd) h₁
        exact foldlM_configs (fun d hd => (List.mem_filter.mp hd).2) hconfigs hconfig.symm
    · by_cases hd : isConfig d = true
      · rw [List.filter_cons_of_neg (by simpa using hd)]
        rw [(config_eq_ok hd h₁).1] at hothers
        exact hothers
      · rw [List.filter_cons_of_pos (by simpa using hd), List.foldlM_cons, bind_eq_ok]
        exact ⟨_, declaration_withConfig (by simpa using hd) h₁ c, hothers⟩

end TypeGuard.Resolution
