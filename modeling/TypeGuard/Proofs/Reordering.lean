import Mathlib.Data.List.Perm.Basic
import TypeGuard.Proofs.Dependencies
import TypeGuard.Proofs.Order
import TypeGuard.Proofs.Transparency

/-!
The order of declarations matters only through references.

An expression sees of a scope only the names that stand in it, and a resolution takes from the
declarations before it only what these names mean and which names are taken. The latter is the same
in every order. So declarations may be put in any order in which each of them stands behind those it
depends on, apart from the configuration blocks, of which the last one wins.
-/

namespace TypeGuard

open Outcome

/-! ### Expressions -/

lemma lookup_filter {α : Type} (entries : List (String × α)) (keep : String → Bool)
    (key : String) :
    (entries.filter fun e => keep e.1).lookup key =
      if keep key then entries.lookup key else none := by
  induction entries with
  | nil => simp
  | cons entry rest ih =>
    obtain ⟨first, a⟩ := entry
    by_cases hkey : key = first
    · subst hkey
      by_cases hkeep : keep key = true <;> simp [hkeep, ih]
    · have hne : (key == first) = false := by simpa using hkey
      by_cases hkeep : keep first = true <;> simp [hkeep, List.lookup_cons, hne, ih]

namespace Expression

variable {scope scope' : Scope} {tokens : List Token}

lemma step_congr (hregistry : scope.registry = scope'.registry) {t : Token}
    (ht : t.kind = .identifier → scope.bindings.lookup t.text = scope'.bindings.lookup t.text)
    (s : State) (called : Bool) : s.step scope t called = s.step scope' t called := by
  by_cases hkind : t.kind = .identifier
  · have hcall : s.call scope t = s.call scope' t := by
      rw [State.call, State.call, Scope.contains, Scope.contains, hregistry, ht hkind]
    have hreference : s.reference scope t = s.reference scope' t := by
      rw [State.reference, State.reference, hregistry, ht hkind]
    simp only [State.step, State.argument, State.term, hcall, hreference]
  · simp only [State.step, State.argument, hkind, if_false]

/-- **An expression sees of a scope** only the names that stand in it. -/
lemma resolve_congr (hregistry : scope.registry = scope'.registry)
    (h : ∀ t ∈ tokens, t.kind = .identifier →
      scope.bindings.lookup t.text = scope'.bindings.lookup t.text) (calls : Nat) :
    resolve scope calls tokens = resolve scope' calls tokens := by
  have hrun (s : State) : s.run scope tokens = s.run scope' tokens := by
    induction tokens generalizing s with
    | nil => rfl
    | cons t rest ih =>
      obtain ⟨ht, hrest⟩ := List.forall_mem_cons.mp h
      simp only [State.run, step_congr hregistry ht, ih hrest]
  rw [resolve, resolve, hrun]

lemma matches_of_names (hscope : scope.registry = .standard)
    (hscope' : scope'.registry = .standard)
    (hbound : ∀ t ∈ tokens, t.kind = .identifier → ∀ b, scope.bindings.lookup t.text = some b →
      ∃ b', scope'.bindings.lookup t.text = some b' ∧ b.Same b')
    (hfree : ∀ name, Registry.standard.contains name = true →
      scope'.bindings.lookup name = none) :
    Matches scope scope' tokens tokens := by
  let keep (name : String) : Bool := tokens.any fun t => t.kind = .identifier && t.text = name
  let seen : Scope := ⟨scope.registry, scope.bindings.filter fun b => keep b.1⟩
  have hkeep (name : String) : keep name = true ↔
      ∃ t ∈ tokens, t.kind = .identifier ∧ t.text = name := by
    simp [keep]
  have hseen (calls : Nat) : resolve scope calls tokens = resolve seen calls tokens := by
    have hregistry : scope.registry = seen.registry := rfl
    refine resolve_congr hregistry (fun t ht hkind => ?_) calls
    rw [lookup_filter, if_pos ((hkeep t.text).mpr ⟨t, ht, hkind, rfl⟩)]
  have hrefines : seen.Refines scope' := by
    refine ⟨hscope, hscope', fun name b hl => ?_, hfree⟩
    rw [lookup_filter] at hl
    split at hl
    · next hname =>
      obtain ⟨t, ht, hkind, rfl⟩ := (hkeep name).mp hname
      exact hbound t ht hkind b hl
    · simp at hl
  intro calls outcome h
  exact matches_of_refines hrefines tokens calls outcome (hseen calls ▸ h)

end Expression

/-! ### Declarations -/

namespace Resolution

variable {ds ds' before front : List Declaration} {d : Declaration}
  {r r' r₀ r₁ r₁' : Resolution} {name : String}

/-- A name is bound twice, to what means the same. -/
def Shares (r r' : Resolution) (name : String) : Prop :=
  ∃ b b', r.bindings.lookup name = some b ∧ r'.bindings.lookup name = some b' ∧ b.Same b'

lemma Shares.grow (h : r.Shares r' name) (hr : r.bindings <+: r₁.bindings)
    (hr' : r'.bindings <+: r₁'.bindings) : r₁.Shares r₁' name := by
  obtain ⟨b, b', hb, hb', hsame⟩ := h
  exact ⟨b, b', lookup_grown hr hb, lookup_grown hr' hb', hsame⟩

/-- The expressions of a declaration mean the same in two scopes. -/
def Transfers (r r' : Resolution) (d : Declaration) : Prop :=
  ∀ tokens ∈ d.expressions,
    Expression.Matches ⟨.standard, r.bindings⟩ ⟨.standard, r'.bindings⟩ tokens tokens

/-- What a declaration mentions means the same behind other declarations, so its expressions do. -/
lemma transfers_of_shares (ht₀ : r₀.Tracks before) (hgrow : r₀.bindings <+: r.bindings)
    (ht' : r'.Tracks front)
    (h : ∀ other, d.Mentions other → other ∈ declaredNames before → r.Shares r' other) :
    r₀.Transfers r' d := by
  intro tokens htokens
  refine Expression.matches_of_names rfl rfl (fun t ht hkind b hl => ?_)
    fun name hname => lookup_registered ht'.scope hname
  have hbefore : t.text ∈ declaredNames before := by
    rw [← ht₀.scope.names, ← lookup_isSome, hl]
    rfl
  obtain ⟨b₁, b', hb, hb', hsame⟩ := h t.text ⟨tokens, htokens, t, ht, hkind, rfl⟩ hbefore
  obtain rfl : b = b₁ := Option.some.inj ((lookup_grown hgrow hl).symm.trans hb)
  exact ⟨b', hb', hsame⟩

lemma properties_of_transfers {scope scope' : Scope} {owner : String} {lines : List PropertyLine}
    (hlines : ∀ line ∈ lines, Expression.Matches scope scope' line.expression line.expression)
    {p p' p₁ p₁' : Progress} (hp : List.Forall₂ Property.Same p.properties p'.properties)
    (h : lines.foldlM (property scope owner) p = .ok p₁)
    (h' : lines.foldlM (property scope' owner) p' = .ok p₁') :
    List.Forall₂ Property.Same p₁.properties p₁'.properties := by
  induction lines generalizing p p' with
  | nil =>
    rw [List.foldlM_nil, pure_eq_ok] at h h'
    rwa [← h, ← h']
  | cons line rest ih =>
    rw [List.foldlM_cons, bind_eq_ok] at h h'
    obtain ⟨q, hq, h⟩ := h
    obtain ⟨q', hq', h'⟩ := h'
    obtain ⟨hline, hrest⟩ := List.forall_mem_cons.mp hlines
    refine ih hrest ?_ h h'
    obtain ⟨-, -, outcome, ho, rfl⟩ := property_eq_ok.mp hq
    obtain ⟨-, -, outcome', ho', rfl⟩ := property_eq_ok.mp hq'
    obtain ⟨outcome₁, ho₁, -, -, hmeans⟩ := hline p.calls outcome ho p'.calls
    obtain rfl : outcome' = outcome₁ := Except.ok.inj (ho'.symm.trans ho₁)
    exact List.rel_append hp (.cons (hmeans.property _) .nil)

lemma shares_of_transfers (hd : r.Transfers r' d) (h : r.declaration .standard d = .ok r₁)
    (h' : r'.declaration .standard d = .ok r₁') : ∀ name ∈ d.names, r₁.Shares r₁' name := by
  have hnew {bindings : List (String × Binding)} {key : String} {b : Binding}
      (hfree : Scope.contains ⟨.standard, bindings⟩ key = false) :
      (bindings ++ [(key, b)]).lookup key = some b :=
    (lookup_concat_iff (lookup_of_free hfree)).mpr (.inr ⟨rfl, rfl⟩)
  cases d with
  | config keyword settings => simp
  | typeAlias owner body =>
    obtain ⟨hfree, -, outcome, ho, rfl⟩ := typeAlias_eq_ok.mp h
    obtain ⟨hfree', -, outcome', ho', rfl⟩ := typeAlias_eq_ok.mp h'
    obtain ⟨outcome₁, ho₁, hmeans, hlength, -⟩ := hd body (by simp) r.calls outcome ho r'.calls
    obtain rfl : outcome' = outcome₁ := Except.ok.inj (ho'.symm.trans ho₁)
    exact List.forall_mem_singleton.mpr
      ⟨_, _, hnew hfree, hnew hfree', .typeAlias hmeans hlength⟩
  | record sort owner lines =>
    obtain ⟨hfree, -, -, p, hp, rfl⟩ := record_eq_ok.mp h
    obtain ⟨hfree', -, -, p', hp', rfl⟩ := record_eq_ok.mp h'
    have hproperties := properties_of_transfers
      (fun line hline => hd _ (List.mem_map_of_mem hline)) .nil hp hp'
    exact List.forall_mem_singleton.mpr
      ⟨_, _, hnew hfree, hnew hfree', .record ⟨rfl, hproperties⟩⟩

/-- **One declaration** resolves behind other declarations too, if its expressions mean the same
there and its names are not taken. -/
lemma declaration_moved (hr : r.Tracks before) (hr' : r'.Tracks front) (hd : r.Transfers r' d)
    (hfresh : ∀ name ∈ d.names, name ∉ declaredNames front)
    (hgenerated : ∀ name ∈ d.generatedNames, name ∉ generatedNames front)
    (h : r.declaration .standard d = .ok r₁) :
    ∃ r₁', r'.declaration .standard d = .ok r₁' ∧ ∀ name ∈ d.names, r₁.Shares r₁' name := by
  have hfits := (declaration_fits hr).mp ⟨r₁, h⟩
  have hexpressions : ∀ tokens ∈ d.expressions, Expression.Allowed front tokens := by
    intro tokens htokens
    obtain ⟨outcome, ho⟩ :=
      (Expression.resolve_eq_ok_iff hr.scope).mpr (hfits.expressions tokens htokens)
    obtain ⟨outcome', ho', -⟩ := hd tokens htokens r.calls outcome ho r'.calls
    exact (Expression.resolve_eq_ok_iff hr'.scope).mp ⟨outcome', ho'⟩
  obtain ⟨r₁', h'⟩ := (declaration_fits hr').mpr ⟨hfits.settings, hfresh, hfits.undeclared,
    hfits.distinct, hgenerated, hexpressions⟩
  exact ⟨r₁', h', shares_of_transfers hd h h'⟩

/-! ### All declarations -/

/-- Every declaration stands behind those that it mentions. -/
def Sorted (ds : List Declaration) : Prop :=
  ∀ front d, front ++ [d] <+: ds → ∀ name, d.Mentions name → name ∈ declaredNames ds →
    name ∈ declaredNames front

lemma declaredNames_perm (h : ds'.Perm ds) : (declaredNames ds').Perm (declaredNames ds) :=
  h.flatMap_right _

/-- **Declarations in another order** resolve, and mean the same. -/
lemma foldlM_reordered (hr : ds.foldlM (declaration .standard) initial = .ok r)
    (hperm : ds'.Perm ds) (hsorted : Sorted ds') (hfront : front <+: ds') :
    ∃ r', front.foldlM (declaration .standard) initial = .ok r' ∧
      ∀ name ∈ declaredNames front, r.Shares r' name := by
  have hwell : WellFormed ds := (foldlM_eq_ok_iff ds).mp ⟨r, hr⟩
  have hnames := declaredNames_perm hperm
  have hgenerated : (generatedNames ds').Perm (generatedNames ds) := hperm.flatMap_right _
  induction front using List.reverseRecOn with
  | nil => exact ⟨initial, rfl, by simp [declaredNames]⟩
  | append_singleton front d ih =>
    obtain ⟨r', hr', hshares⟩ := ih ((List.prefix_append front [d]).trans hfront)
    -- the place of the same declaration in the first order
    have hd : d ∈ ds := hperm.subset (hfront.subset (by simp))
    obtain ⟨before, after, rfl⟩ := List.append_of_mem hd
    obtain ⟨r₀, r₁, h₀, h₁, hgrow⟩ := step_of_foldlM hr
    have ht₀ := tracks_of_foldlM h₀
    have ht' := tracks_of_foldlM hr'
    have htransfers : r₀.Transfers r' d := by
      refine transfers_of_shares ht₀ ((bindings_grow h₁).trans hgrow) ht'
        fun other hmentions hbefore => hshares other (hsorted front d hfront other hmentions ?_)
      rw [hnames.mem_iff, declaredNames_split]
      exact List.mem_append_left _ hbefore
    obtain ⟨r₁', hr₁', hnew⟩ := declaration_moved ht₀ ht' htransfers
      (fresh_of_nodup (hnames.nodup_iff.mpr hwell.distinct) hfront)
      (fresh_of_nodup (hgenerated.nodup_iff.mpr hwell.generated) hfront) h₁
    refine ⟨r₁', (foldlM_concat d).mpr ⟨r', hr', hr₁'⟩, fun name hname => ?_⟩
    rw [declaredNames_concat, List.mem_append] at hname
    rcases hname with hname | hname
    · exact (hshares name hname).grow List.prefix_rfl (bindings_grow hr₁')
    · exact (hnew name hname).grow hgrow List.prefix_rfl

lemma config_of_foldlM (h : ds.foldlM (declaration .standard) r = .ok r') :
    ∃ r₁, (ds.filter Canonical.isConfig).foldlM (declaration .standard) r = .ok r₁ ∧
      r'.config = r₁.config := by
  have hordered := foldlM_ordered h
  rw [Canonical.ordered, List.foldlM_append, bind_eq_ok] at hordered
  obtain ⟨r₁, hconfigs, hothers⟩ := hordered
  refine ⟨r₁, hconfigs, foldlM_induct (fun q => q.config = r₁.config)
    (fun d hd q q' hq hstep => ?_) rfl hothers⟩
  rw [config_unchanged (by simpa using (List.mem_filter.mp hd).2) hstep, hq]

end Resolution

/-! ### Entries and their bindings -/

def Binding.alias? (name : String) : Binding → Option AliasEntry
  | .typeAlias constraints => some ⟨name, constraints⟩
  | .record _ _ => none

def Binding.entry? (sort : RecordSort) : Binding → Option RecordEntry
  | .typeAlias _ => none
  | .record sort' r => if sort' = sort then some (Resolution.entry r) else none

lemma rel_alias? {R : AliasEntry → AliasEntry → Prop} {name : String}
    (hR : ∀ cs cs', Means cs cs' → R ⟨name, cs⟩ ⟨name, cs'⟩) {b b' : Option Binding}
    (h : Option.Rel Binding.Same b b') :
    Option.Rel R (b.bind (Binding.alias? name)) (b'.bind (Binding.alias? name)) := by
  cases h with
  | none => exact .none
  | some hsame =>
    cases hsame with
    | typeAlias hmeans _ => exact .some (hR _ _ hmeans)
    | record _ => exact .none

lemma rel_entry? {R : RecordEntry → RecordEntry → Prop}
    (hR : ∀ rec rec', rec.Same rec' → R (Resolution.entry rec) (Resolution.entry rec'))
    (sort : RecordSort) {b b' : Option Binding} (h : Option.Rel Binding.Same b b') :
    Option.Rel R (b.bind (Binding.entry? sort)) (b'.bind (Binding.entry? sort)) := by
  cases h with
  | none => exact .none
  | some hsame =>
    cases hsame with
    | typeAlias _ _ => exact .none
    | record hrecord =>
      simp only [Option.bind_some, Binding.entry?]
      split
      · exact .some (hR _ _ hrecord)
      · exact .none

lemma Record.Same.entry {rec rec' : Record} (h : rec.Same rec') :
    (Resolution.entry rec).constraint.Same (Resolution.entry rec').constraint where
  type := congrArg TypeUnion.named h.name
  evaluate v := by
    rw [Constraint.evaluate_eq, Constraint.evaluate_eq, Resolution.entry, Resolution.entry,
      Constraint.plain, Constraint.plain, Check.evaluate, Check.evaluate, h.evaluate]

namespace Resolution

variable {ds ds' : List Declaration} {r r' : Resolution}

lemma alias?_eq (hr : ds.foldlM (declaration .standard) initial = .ok r) (name : String) :
    r.schema.alias? name = (r.bindings.lookup name).bind (Binding.alias? name) := by
  have hb := binds_of_foldlM hr
  refine Option.ext fun a => ?_
  rw [Option.bind_eq_some_iff]
  constructor
  · intro ha
    have hname : a.name = name := by simpa using List.find?_some ha
    subst hname
    exact ⟨_, (hb.typeAlias a).mp (List.mem_of_find?_eq_some ha), rfl⟩
  · rintro ⟨b, hl, ha⟩
    cases b with
    | typeAlias constraints =>
      obtain rfl := Option.some.inj ha
      exact alias?_of_mem (bind_eq_ok.mpr ⟨r, hr, rfl⟩) ((hb.typeAlias ⟨name, constraints⟩).mpr hl)
    | record sort rec => simp [Binding.alias?] at ha

lemma entry?_eq (hr : ds.foldlM (declaration .standard) initial = .ok r) (sort : RecordSort)
    (name : String) :
    r.schema.entry? sort name = (r.bindings.lookup name).bind (Binding.entry? sort) := by
  have hb := binds_of_foldlM hr
  refine Option.ext fun e => ?_
  rw [Option.bind_eq_some_iff]
  constructor
  · intro he
    have hfind : (r.schema.entries sort).find? (·.name == name) = some e := by
      cases sort <;> exact he
    have hname : e.name = name := by simpa using List.find?_some hfind
    subst hname
    obtain ⟨hentry, hl⟩ := (hb.record sort e).mp (List.mem_of_find?_eq_some hfind)
    exact ⟨_, hl, by rw [Binding.entry?, if_pos rfl, ← hentry]⟩
  · rintro ⟨b, hl, he⟩
    cases b with
    | typeAlias constraints => simp [Binding.entry?] at he
    | record sort' rec =>
      obtain ⟨rfl, rfl⟩ : sort' = sort ∧ entry rec = e := by simpa [Binding.entry?] using he
      have hentry := entry?_of_mem (bind_eq_ok.mpr ⟨r, hr, rfl⟩) (hb.mem_entry hl)
      rwa [show (entry rec).name = name from hb.name name sort' rec hl] at hentry

lemma rel_of_reordered (hr : ds.foldlM (declaration .standard) initial = .ok r)
    (hr' : ds'.foldlM (declaration .standard) initial = .ok r') (hperm : ds'.Perm ds)
    (hshares : ∀ name ∈ declaredNames ds', r.Shares r' name) (name : String) :
    Option.Rel Binding.Same (r.bindings.lookup name) (r'.bindings.lookup name) := by
  have hnames := declaredNames_perm hperm
  by_cases hname : name ∈ declaredNames ds'
  · obtain ⟨b, b', hb, hb', hsame⟩ := hshares name hname
    rw [hb, hb']
    exact .some hsame
  · have hfree : r.bindings.lookup name = none := by
      rw [lookup_eq_none, (tracks_of_foldlM hr).scope.names, ← hnames.mem_iff]
      exact hname
    have hfree' : r'.bindings.lookup name = none := by
      rw [lookup_eq_none, (tracks_of_foldlM hr').scope.names]
      exact hname
    rw [hfree, hfree']
    exact .none

end Resolution

/-! ### Schemas -/

/-- Only declarations of a name mention others. -/
lemma Declaration.Mentions.names {d : Declaration} {name : String} (h : d.Mentions name) :
    ∃ owner, d.names = [owner] := by
  cases d with
  | config keyword settings =>
    obtain ⟨tokens, htokens, -⟩ := h
    simp at htokens
  | typeAlias owner body => exact ⟨owner.text, rfl⟩
  | record sort owner lines => exact ⟨owner.text, rfl⟩

lemma sorted_of_dependsOn {ds ds' : List Declaration} {s : Schema} (h : resolve ds = .ok s)
    (hperm : ds'.Perm ds) (hafter : ∀ name other, s.DependsOn name other →
      (declaredNames ds').idxOf other < (declaredNames ds').idxOf name) :
    Resolution.Sorted ds' := by
  intro front d hplace other hmentions hdeclared
  have hnames := Resolution.declaredNames_perm hperm
  have hdistinct := hnames.nodup_iff.mpr (wellFormed_of_resolve h).distinct
  obtain ⟨owner, howner⟩ := hmentions.names
  have hmem : owner ∈ d.names := by
    rw [howner]
    exact List.mem_singleton_self owner
  have hdepends : s.DependsOn owner other := by
    have hd : d ∈ ds := hperm.subset (hplace.subset (by simp))
    obtain ⟨before, after, rfl⟩ := List.append_of_mem hd
    exact (dependsOn_iff h hmem).mpr ⟨hnames.mem_iff.mp hdeclared, hmentions⟩
  have hlt := hafter owner other hdepends
  have hfresh : owner ∉ declaredNames front :=
    fresh_of_nodup hdistinct hplace owner hmem
  by_contra hother
  obtain ⟨back, rfl⟩ := hplace
  -- the name of the declaration is the first one behind those in front
  have hsplit : declaredNames (front ++ [d] ++ back) =
      declaredNames front ++ (owner :: declaredNames back) := by
    have hfirst : declaredNames (d :: back) = d.names ++ declaredNames back := rfl
    rw [List.append_assoc, List.singleton_append, declaredNames_split, hfirst, howner]
    rfl
  rw [hsplit, List.idxOf_append_of_notMem hother, List.idxOf_append_of_notMem hfresh,
    List.idxOf_cons_self] at hlt
  omega

lemma dependsOn_of_perm {ds ds' : List Declaration} {s s' : Schema} (h : resolve ds = .ok s)
    (h' : resolve ds' = .ok s') (hperm : ds'.Perm ds) {name other : String}
    (hdepends : s.DependsOn name other) : s'.DependsOn name other := by
  have hnames := Resolution.declaredNames_perm hperm
  obtain ⟨before, d, after, rfl, hname⟩ := exists_declaration (mem_of_dependsOn h hdepends)
  obtain ⟨hother, hmentions⟩ := (dependsOn_iff h hname).mp hdepends
  have hd : d ∈ ds' := hperm.mem_iff.mpr (by simp)
  obtain ⟨before', after', rfl⟩ := List.append_of_mem hd
  exact (dependsOn_iff h' hname).mpr ⟨hnames.mem_iff.mpr hother, hmentions⟩

/-- **The order of declarations matters only through references.** Declarations that resolve do so
in every order that keeps the configuration blocks in their order and each name behind the names it
depends on. The configuration is the same then. The same names are declared in the same roles, with
the same dependencies, and each of them has properties of the same names and types and gives the
same results, faults included. -/
theorem resolve_reordered {ds ds' : List Declaration} {s : Schema} (h : resolve ds = .ok s)
    (hperm : ds'.Perm ds)
    (hconfigs : ds'.filter Canonical.isConfig = ds.filter Canonical.isConfig)
    (hafter : ∀ name other, s.DependsOn name other →
      (declaredNames ds').idxOf other < (declaredNames ds').idxOf name) :
    ∃ s', resolve ds' = .ok s' ∧ s'.config = s.config ∧
      (s'.dependencies.map (·.1)).Perm (s.dependencies.map (·.1)) ∧
      (∀ name other, s'.DependsOn name other ↔ s.DependsOn name other) ∧
      (∀ name, Option.Rel (fun a a' => a'.type = a.type ∧
          (∀ v, evaluateAll a'.constraints v = evaluateAll a.constraints v) ∧
          ∀ v, a'.test v = a.test v)
        (s.alias? name) (s'.alias? name)) ∧
      ∀ sort name, Option.Rel (fun e e' =>
          List.Forall₂ (fun p p' => p'.name = p.name ∧ p'.type = p.type ∧
            ∀ owner v, p'.evaluate owner v = p.evaluate owner v)
            e.record.properties e'.record.properties ∧
          e'.constraint.type = e.constraint.type ∧
          (∀ v, e'.constraint.evaluate v = e.constraint.evaluate v) ∧
          ∀ v, e'.validate v = e.validate v)
        (s.entry? sort name) (s'.entry? sort name) := by
  have hsorted := sorted_of_dependsOn h hperm hafter
  obtain ⟨r, hr, rfl⟩ := exists_of_resolve h
  obtain ⟨r', hr', hshares⟩ := Resolution.foldlM_reordered hr hperm hsorted List.prefix_rfl
  have h' : resolve ds' = .ok r'.schema := bind_eq_ok.mpr ⟨r', hr', rfl⟩
  refine ⟨r'.schema, h', ?_, ?_, fun name other => ?_, fun name => ?_, fun sort name => ?_⟩
  · obtain ⟨r₁, hr₁, hconfig⟩ := Resolution.config_of_foldlM hr
    obtain ⟨r₂, hr₂, hconfig'⟩ := Resolution.config_of_foldlM hr'
    rw [hconfigs, hr₁] at hr₂
    obtain rfl := Except.ok.inj hr₂
    exact hconfig'.trans hconfig.symm
  · rw [keys_of_resolve h, keys_of_resolve h']
    exact Resolution.declaredNames_perm hperm
  · exact ⟨dependsOn_of_perm h' h hperm.symm, dependsOn_of_perm h h' hperm⟩
  · rw [Resolution.alias?_eq hr, Resolution.alias?_eq hr']
    refine rel_alias? (fun cs cs' hmeans => ?_)
      (Resolution.rel_of_reordered hr hr' hperm hshares name)
    exact ⟨hmeans.type.symm, fun v => (hmeans.evaluate v).symm,
      fun v => (hmeans.holdAll "value" (some v)).symm⟩
  · rw [Resolution.entry?_eq hr, Resolution.entry?_eq hr']
    refine rel_entry? (fun rec rec' hsame => ?_) sort
      (Resolution.rel_of_reordered hr hr' hperm hshares name)
    have hproperties := hsame.properties.imp fun p p' hp =>
      (⟨hp.name.symm, hp.type.symm, fun owner v => (hp.evaluate owner v).symm⟩ :
        p'.name = p.name ∧ p'.type = p.type ∧
          ∀ owner v, p'.evaluate owner v = p.evaluate owner v)
    exact ⟨hproperties, hsame.entry.type.symm, fun v => (hsame.entry.evaluate v).symm,
      fun v => (hsame.evaluate (some v)).symm⟩

def strictConfig (flag : String) : Declaration :=
  .config ⟨.keyword .config, "config", .start⟩ [⟨plainName "strict", ⟨.boolean, flag, .start⟩⟩]

def patternAlias (name : String) : Declaration :=
  .typeAlias (plainName name) [plainName "match", ⟨.openParen, "(", .start⟩,
    ⟨.string, "\"x\"", .start⟩, ⟨.closeParen, ")", .start⟩]

def singleRecord (sort : RecordSort) (name property other : String) : Declaration :=
  .record sort (plainName name) [⟨plainName property, [plainName other]⟩]

/-- Two patterns, a definition with one of them, and a model with the definition. -/
def mixedSchema : List Declaration :=
  [strictConfig "true", patternAlias "Code", patternAlias "Name",
   singleRecord .definition "Part" "name" "Name", strictConfig "false",
   singleRecord .model "Whole" "part" "Part"]

/-- The same in another order, in which the two patterns change places. -/
def remixedSchema : List Declaration :=
  [patternAlias "Name", singleRecord .definition "Part" "name" "Name",
   singleRecord .model "Whole" "part" "Part", strictConfig "true", patternAlias "Code",
   strictConfig "false"]

theorem resolve_reordered_mixed :
    ∃ s s', resolve mixedSchema = .ok s ∧ remixedSchema.Perm mixedSchema ∧
      resolve remixedSchema = .ok s' ∧ s'.config = s.config ∧ s'.DependsOn "Whole" "Part" ∧
      ∃ e e', s.model? "Whole" = some e ∧ s'.model? "Whole" = some e' ∧
        ∀ v, e'.validate v = e.validate v := by
  have hrun : ((resolve mixedSchema).toOption.any fun s => decide (s.dependencies =
      [("Code", []), ("Name", []), ("Part", ["Name"]), ("Whole", ["Part"])]) &&
        (s.model? "Whole").isSome) = true := by
    decide +kernel
  obtain ⟨s, hs, hboth⟩ := (Option.any_eq_true _ _).mp hrun
  have hresolve := toOption_eq_some.mp hs
  rw [Bool.and_eq_true, decide_eq_true_eq] at hboth
  obtain ⟨hdependencies, hmodel⟩ := hboth
  obtain ⟨e, he⟩ := Option.isSome_iff_exists.mp hmodel
  have hperm : remixedSchema.Perm mixedSchema := by decide +kernel
  have hconfigs : remixedSchema.filter Canonical.isConfig =
      mixedSchema.filter Canonical.isConfig := rfl
  have hplaces : ∀ entry ∈ [("Code", []), ("Name", []), ("Part", ["Name"]), ("Whole", ["Part"])],
      ∀ other ∈ entry.2, (declaredNames remixedSchema).idxOf other <
        (declaredNames remixedSchema).idxOf entry.1 := by
    decide +kernel
  have hafter : ∀ name other, s.DependsOn name other →
      (declaredNames remixedSchema).idxOf other < (declaredNames remixedSchema).idxOf name := by
    rintro name other ⟨others, hmem, hother⟩
    rw [hdependencies] at hmem
    exact hplaces (name, others) hmem other hother
  obtain ⟨s', hs', hconfig, -, hdepends, -, hentries⟩ :=
    resolve_reordered hresolve hperm hconfigs hafter
  have hrel := hentries .model "Whole"
  rw [Schema.entry?, Schema.entry?, he] at hrel
  generalize hmodel' : s'.model? "Whole" = model at hrel
  cases hrel with
  | @some _ e' hsame =>
    exact ⟨s, s', hresolve, hperm, hs', hconfig,
      (hdepends _ _).mpr ⟨["Part"], by simp [hdependencies], by simp⟩, e, e', he, hmodel',
      hsame.2.2.2⟩

end TypeGuard
