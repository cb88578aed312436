import Mathlib.Data.List.Basic
import TypeGuard.Proofs.Faults

/-!
The dependencies of a schema are exact and acyclic.

A dependency is recorded whenever a declared name is met in an expression, at any depth of calls. In
a schema that resolves, a name in an expression is never one that is declared at this place or
later. So the dependencies of a declaration are all the declared names in its expressions, and the
order of the declarations counts down along them.
-/

namespace TypeGuard

open Outcome

variable {ds before after : List Declaration} {d : Declaration} {s : Schema} {name other : String}

/-! ### Names with dependencies -/

lemma lookup_of_mem {α : Type} {entries : List (String × α)} {key : String} {a : α}
    (hnodup : (entries.map (·.1)).Nodup) (hmem : (key, a) ∈ entries) :
    entries.lookup key = some a := by
  obtain ⟨front, back, rfl⟩ := List.append_of_mem hmem
  have hfront : key ∉ front.map (·.1) := by
    intro hkey
    rw [List.map_append, List.nodup_append] at hnodup
    exact hnodup.2.2 key hkey key (by simp) rfl
  simp [List.lookup_append, lookup_eq_none.mpr hfront]

namespace Resolution

variable {r r' : Resolution}

/-- Dependencies are recorded under the names that are bound. -/
lemma keys_of_declaration (hr : r.dependencies.map (·.1) = r.bindings.map (·.1))
    (h : r.declaration .standard d = .ok r') :
    r'.dependencies.map (·.1) = r'.bindings.map (·.1) := by
  cases d with
  | config keyword settings =>
    obtain ⟨config, -, rfl⟩ := settings_eq_ok.mp h
    exact hr
  | typeAlias name body =>
    obtain ⟨-, -, outcome, -, rfl⟩ := typeAlias_eq_ok.mp h
    simp [hr]
  | record sort name lines =>
    obtain ⟨-, -, -, p, -, rfl⟩ := record_eq_ok.mp h
    simp [hr]

lemma keys_of_foldlM (h : ds.foldlM (declaration .standard) initial = .ok r) :
    r.dependencies.map (·.1) = r.bindings.map (·.1) :=
  foldlM_induct (fun r => r.dependencies.map (·.1) = r.bindings.map (·.1))
    (fun _ _ _ _ hr hstep => keys_of_declaration hr hstep) rfl h

lemma Binds.mem_names (hr : r.Binds) :
    name ∈ r.bindings.map (·.1) ↔
      (∃ a ∈ r.schema.aliases, a.name = name) ∨
        ∃ e ∈ r.schema.definitions ++ r.schema.models, e.name = name := by
  rw [← lookup_isSome]
  constructor
  · intro hbound
    obtain ⟨b, hl⟩ := Option.isSome_iff_exists.mp hbound
    cases b with
    | typeAlias cs => exact .inl ⟨⟨name, cs⟩, (hr.typeAlias ⟨name, cs⟩).mpr hl, rfl⟩
    | record sort rec =>
      exact .inr ⟨entry rec, Schema.mem_entries.mpr ⟨sort, hr.mem_entry hl⟩,
        hr.name name sort rec hl⟩
  · rintro (⟨a, ha, rfl⟩ | ⟨e, he, rfl⟩)
    · simp [(hr.typeAlias a).mp ha]
    · obtain ⟨sort, he⟩ := Schema.mem_entries.mp he
      simp [((hr.record sort e).mp he).2]

end Resolution

lemma keys_of_resolve (h : resolve ds = .ok s) : s.dependencies.map (·.1) = declaredNames ds := by
  obtain ⟨r, hr, rfl⟩ := exists_of_resolve h
  exact (Resolution.keys_of_foldlM hr).trans (Resolution.tracks_of_foldlM hr).scope.names

lemma mem_declaredNames_iff (h : resolve ds = .ok s) :
    name ∈ declaredNames ds ↔
      (∃ a ∈ s.aliases, a.name = name) ∨ ∃ e ∈ s.definitions ++ s.models, e.name = name := by
  obtain ⟨r, hr, rfl⟩ := exists_of_resolve h
  have hnames : r.bindings.map (·.1) = declaredNames ds :=
    (Resolution.tracks_of_foldlM hr).scope.names
  rw [← hnames, (Resolution.binds_of_foldlM hr).mem_names]

lemma wellFormed_of_resolve (h : resolve ds = .ok s) : WellFormed ds := by
  obtain ⟨r, hr, -⟩ := exists_of_resolve h
  exact (foldlM_eq_ok_iff ds).mp ⟨r, hr⟩

lemma nodup_keys (h : resolve ds = .ok s) : (s.dependencies.map (·.1)).Nodup := by
  rw [keys_of_resolve h]
  exact (wellFormed_of_resolve h).distinct

/-! ### What a name depends on -/

lemma declaredNames_split (before after : List Declaration) (d : Declaration) :
    declaredNames (before ++ d :: after) = declaredNames before ++ declaredNames (d :: after) := by
  simp [declaredNames]

lemma fresh_of_nodup {f : Declaration → List String} (hnodup : (ds.flatMap f).Nodup)
    (hplace : before ++ [d] <+: ds) : ∀ name ∈ f d, name ∉ before.flatMap f := by
  obtain ⟨after, rfl⟩ := hplace
  intro name hname hmem
  rw [List.flatMap_append, List.flatMap_append, List.flatMap_singleton] at hnodup
  have hfirst := (List.nodup_append.mp hnodup).1
  exact (List.nodup_append.mp hfirst).2.2 name hmem name hname rfl

lemma WellFormed.mem_before (h : WellFormed (before ++ d :: after)) (hmentions : d.Mentions name) :
    name ∈ declaredNames (before ++ d :: after) ↔
      name ∈ declaredNames before ∧ name ∉ declaredNames (d :: after) := by
  obtain ⟨tokens, htokens, t, ht, hkind, rfl⟩ := hmentions
  have hbackward := h.backward rfl htokens ht hkind
  rw [declaredNames_split, List.mem_append]
  exact ⟨fun hmem => ⟨hmem.resolve_right hbackward, hbackward⟩, fun hmem => .inl hmem.1⟩

/-- **The dependencies of a declaration** are the declared names that stand in its expressions. -/
lemma lookup_dependencies (h : resolve (before ++ d :: after) = .ok s) (hname : name ∈ d.names) :
    ∃ others, s.dependencies.lookup name = some others ∧ ∀ other,
      other ∈ others ↔ other ∈ declaredNames (before ++ d :: after) ∧ d.Mentions other := by
  have hwell := wellFormed_of_resolve h
  have hplace : before ++ [d] <+: before ++ d :: after := ⟨after, by simp⟩
  obtain ⟨others, hmem, hothers⟩ := dependencies_of_resolve h hplace hname
  refine ⟨others, lookup_of_mem (nodup_keys h) hmem, fun other => ?_⟩
  rw [hothers]
  constructor
  · rintro ⟨hbefore, hmentions⟩
    exact ⟨by rw [declaredNames_split]; exact List.mem_append_left _ hbefore, hmentions⟩
  · rintro ⟨hdeclared, hmentions⟩
    exact ⟨((hwell.mem_before hmentions).mp hdeclared).1, hmentions⟩

lemma dependsOn_iff (h : resolve (before ++ d :: after) = .ok s) (hname : name ∈ d.names) :
    s.DependsOn name other ↔
      other ∈ declaredNames (before ++ d :: after) ∧ d.Mentions other := by
  obtain ⟨others, hl, hothers⟩ := lookup_dependencies h hname
  rw [← hothers]
  constructor
  · rintro ⟨others', hmem', hother⟩
    rw [lookup_of_mem (nodup_keys h) hmem'] at hl
    exact Option.some.inj hl ▸ hother
  · intro hother
    obtain ⟨front, back, hsplit, -⟩ := List.lookup_eq_some_iff.mp hl
    exact ⟨others, by simp [hsplit], hother⟩

/-! ### The order of the declarations -/

lemma exists_declaration (h : name ∈ declaredNames ds) :
    ∃ before d after, ds = before ++ d :: after ∧ name ∈ d.names := by
  obtain ⟨d, hd, hname⟩ := List.mem_flatMap.mp h
  obtain ⟨before, after, rfl⟩ := List.append_of_mem hd
  exact ⟨before, d, after, rfl, hname⟩

lemma mem_of_dependsOn (h : resolve ds = .ok s) (hdepends : s.DependsOn name other) :
    name ∈ declaredNames ds := by
  obtain ⟨others, hmem, -⟩ := hdepends
  rw [← keys_of_resolve h]
  exact List.mem_map_of_mem hmem

/-- **Along a dependency** the place among the declared names goes down. -/
lemma idxOf_lt_of_dependsOn (h : resolve ds = .ok s) (hdepends : s.DependsOn name other) :
    (declaredNames ds).idxOf other < (declaredNames ds).idxOf name := by
  obtain ⟨before, d, after, rfl, hname⟩ := exists_declaration (mem_of_dependsOn h hdepends)
  have hwell := wellFormed_of_resolve h
  obtain ⟨hother, hmentions⟩ := (dependsOn_iff h hname).mp hdepends
  have hbefore := ((hwell.mem_before hmentions).mp hother).1
  have hlater : name ∉ declaredNames before :=
    fresh_of_nodup hwell.distinct ⟨after, by simp⟩ name hname
  rw [declaredNames_split, List.idxOf_append_of_mem hbefore, List.idxOf_append_of_notMem hlater]
  have hlt := List.idxOf_lt_length_of_mem hbefore
  omega

lemma not_transGen_dependsOn (h : resolve ds = .ok s) (name : String) :
    ¬ Relation.TransGen s.DependsOn name name := by
  intro hcycle
  have hlt {first last : String} (hpath : Relation.TransGen s.DependsOn first last) :
      (declaredNames ds).idxOf last < (declaredNames ds).idxOf first := by
    induction hpath with
    | single hedge => exact idxOf_lt_of_dependsOn h hedge
    | tail _ hedge ih => exact (idxOf_lt_of_dependsOn h hedge).trans ih
  exact (hlt hcycle).false

/-! ### Schemas -/

/-- **Dependencies are exact and acyclic.** They are recorded for the declared names, which are the
names of the aliases, definitions and models. Those of a declaration are the declared names that
stand in its expressions, at any depth, and all of these are declared before it. So no name depends
on itself, directly or through others. -/
theorem dependencies_exact {source : String} {s : Schema} (h : resolveSource source = .ok s) :
    ∃ ds, parse source = .ok ds ∧
      s.dependencies.map (·.1) = declaredNames ds ∧ (declaredNames ds).Nodup ∧
      (∀ name, name ∈ declaredNames ds ↔
        (∃ a ∈ s.aliases, a.name = name) ∨ ∃ e ∈ s.definitions ++ s.models, e.name = name) ∧
      (∀ before d after, ds = before ++ d :: after → ∀ name ∈ d.names,
        ∃ others, s.dependencies.lookup name = some others ∧ ∀ other,
          (other ∈ others ↔ other ∈ declaredNames ds ∧ d.Mentions other) ∧
          (other ∈ others → other ∈ declaredNames before ∧ other ∉ declaredNames (d :: after))) ∧
      ∀ name, ¬ Relation.TransGen s.DependsOn name name := by
  obtain ⟨ds, hparse, hresolve, -⟩ := declarations_of_source h
  have hwell := wellFormed_of_resolve hresolve
  refine ⟨ds, hparse, keys_of_resolve hresolve, hwell.distinct,
    fun name => mem_declaredNames_iff hresolve, ?_, not_transGen_dependsOn hresolve⟩
  rintro before d after rfl name hname
  obtain ⟨others, hl, hothers⟩ := lookup_dependencies hresolve hname
  refine ⟨others, hl, fun other => ⟨hothers other, fun hmem => ?_⟩⟩
  obtain ⟨hdeclared, hmentions⟩ := (hothers other).mp hmem
  exact (hwell.mem_before hmentions).mp hdeclared

/-- A model that refers to an alias within calls, and to a definition with a property of the name of
an alias. -/
def layeredSource : String :=
  "alias Name string\n"
    ++ "define Part \x7b\n  Name number\n\x7d\n"
    ++ "model Whole \x7b\n  part Part\n  label optional(optional(Name))\n\x7d\n"

theorem dependencies_exact_layered :
    ∃ s ds, resolveSource layeredSource = .ok s ∧ parse layeredSource = .ok ds ∧
      declaredNames ds = ["Name", "Part", "Whole"] ∧
      s.dependencies.lookup "Part" = some [] ∧
      s.dependencies.lookup "Whole" = some ["Part", "Name"] ∧
      ¬ Relation.TransGen s.DependsOn "Whole" "Whole" := by
  have hrun : ((resolveSource layeredSource).toOption.any fun s => decide (s.dependencies =
      [("Name", []), ("Part", []), ("Whole", ["Part", "Name"])])) = true := by
    decide +kernel
  obtain ⟨s, hs, hdependencies⟩ := (Option.any_eq_true _ _).mp hrun
  have hsource := toOption_eq_some.mp hs
  rw [decide_eq_true_eq] at hdependencies
  obtain ⟨ds, hparse, hkeys, -, -, -, hacyclic⟩ := dependencies_exact hsource
  rw [hdependencies] at hkeys
  refine ⟨s, ds, hsource, hparse, hkeys.symm, ?_, ?_, hacyclic "Whole"⟩
  · rw [hdependencies]
    decide
  · rw [hdependencies]
    decide

end TypeGuard
