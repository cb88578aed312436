import TypeGuard.Proofs.Acceptance
import TypeGuard.Proofs.Closure
import TypeGuard.Proofs.Derivation
import TypeGuard.Proofs.Pipeline

/-!
Where the constraints of a schema come from.

Every entry of a schema belongs to one declaration, and the place of that declaration decides which
names its expressions may use. So a property of constraints is stated at a place, as a property for
a declaration behind the ones before it. If it passes from the aliases and records that a
declaration mentions to the declaration itself, it holds of all entries at their places.

The names that a declaration mentions are also what its recorded dependencies are.
-/

namespace TypeGuard

open Outcome

def Schema.entries (s : Schema) : RecordSort → List RecordEntry
  | .definition => s.definitions
  | .model => s.models

lemma Schema.mem_entries {s : Schema} {e : RecordEntry} :
    e ∈ s.definitions ++ s.models ↔ ∃ sort, e ∈ s.entries sort := by
  rw [List.mem_append]
  constructor
  · rintro (he | he)
    · exact ⟨.definition, he⟩
    · exact ⟨.model, he⟩
  · rintro ⟨sort, he⟩
    cases sort with
    | definition => exact .inl he
    | model => exact .inr he

def Schema.entry? (s : Schema) : RecordSort → String → Option RecordEntry
  | .definition, name => s.definition? name
  | .model, name => s.model? name

namespace Declaration

@[simp] def Declares : Declaration → Role → String → Prop
  | config _ _, _, _ => False
  | typeAlias owner _, role, name => role = .typeAlias ∧ name = owner.text
  | record sort owner _, role, name => role = .record sort ∧ name = owner.text

lemma Declares.mem_names {d : Declaration} {role : Role} {name : String}
    (h : d.Declares role name) : name ∈ d.names := by
  cases d with
  | config keyword settings => exact h.elim
  | typeAlias owner body => simpa using h.2
  | record sort owner lines => simpa using h.2

def Mentions (d : Declaration) (name : String) : Prop :=
  ∃ tokens ∈ d.expressions, ∃ t ∈ tokens, t.kind = .identifier ∧ t.text = name

end Declaration

/-! ### Properties at a place -/

/-- A property of the constraints of a declaration behind others that every way of making one keeps,
given the declarations of a schema. Of what a declaration mentions it may be assumed, at the earlier
place where that is declared. -/
structure Derives (ds : List Declaration) (s : Schema)
    (P : List Declaration → Declaration → Constraint → Prop) : Prop where
  primitive {before : List Declaration} {d : Declaration} {name : String} {c : Constraint} :
    Registry.standard.primitive? name = some c → P before d c
  call {before : List Declaration} {d : Declaration} {tokens : List Token} {name : String}
      {factory : Factory} {call : Call} {args : List Argument} {c : Constraint} :
    before ++ [d] <+: ds → tokens ∈ d.expressions → Registry.standard.factory? name = some factory →
    Expression.Calls tokens name (args.map Argument.literal?) →
    (∀ inner, .constraint inner ∈ args → P before d inner) → factory.build call args = .ok c →
    P before d c
  typeAlias {before earlier : List Declaration} {d e : Declaration} {a : AliasEntry} :
    before ++ [d] <+: ds → d.Mentions a.name → earlier ++ [e] <+: before →
    e.Declares .typeAlias a.name → a ∈ s.aliases → a.constraints ≠ [] →
    (∀ c ∈ a.constraints, P earlier e c) →
    P before d (Bound.typeAlias a.name a.constraints).toConstraint ∧
      ∀ c ∈ a.constraints, P before d c
  record {before earlier : List Declaration} {d e : Declaration} {sort : RecordSort}
      {r : RecordEntry} :
    before ++ [d] <+: ds → d.Mentions r.name → earlier ++ [e] <+: before →
    e.Declares (.record sort) r.name → r ∈ s.entries sort → r = Resolution.entry r.record →
    r.record.Made (P earlier e) →
    P before d (Bound.record r.record ((Role.record sort).symbol r.name)).toConstraint

def AliasEntry.Placed (ds : List Declaration)
    (P : List Declaration → Declaration → Constraint → Prop) (a : AliasEntry) : Prop :=
  ∃ before d, before ++ [d] <+: ds ∧ d.Declares .typeAlias a.name ∧ a.constraints ≠ [] ∧
    ∀ c ∈ a.constraints, P before d c

def RecordEntry.Placed (ds : List Declaration)
    (P : List Declaration → Declaration → Constraint → Prop) (sort : RecordSort)
    (e : RecordEntry) : Prop :=
  ∃ before d, before ++ [d] <+: ds ∧ d.Declares (.record sort) e.name ∧
    e = Resolution.entry e.record ∧ e.record.Made (P before d)

lemma AliasEntry.Placed.concat {P : List Declaration → Declaration → Constraint → Prop}
    {ds : List Declaration} {a : AliasEntry} (h : a.Placed ds P) (d : Declaration) :
    a.Placed (ds ++ [d]) P := by
  obtain ⟨before, e, hplace, hrest⟩ := h
  exact ⟨before, e, hplace.trans (List.prefix_append _ _), hrest⟩

lemma RecordEntry.Placed.concat {P : List Declaration → Declaration → Constraint → Prop}
    {ds : List Declaration} {e : RecordEntry} {sort : RecordSort} (h : e.Placed ds P sort)
    (d : Declaration) : e.Placed (ds ++ [d]) P sort := by
  obtain ⟨before, e', hplace, hrest⟩ := h
  exact ⟨before, e', hplace.trans (List.prefix_append _ _), hrest⟩

namespace Resolution

variable {P : List Declaration → Declaration → Constraint → Prop} {ds done : List Declaration}
  {s : Schema} {r r' : Resolution} {d : Declaration}

/-- Names are bound to the entries that have been made, and each of these to its name. -/
structure Binds (r : Resolution) : Prop where
  typeAlias : ∀ a, a ∈ r.aliases ↔ r.bindings.lookup a.name = some (.typeAlias a.constraints)
  record : ∀ sort e, e ∈ r.schema.entries sort ↔
    e = entry e.record ∧ r.bindings.lookup e.name = some (.record sort e.record)
  name : ∀ name sort rec, r.bindings.lookup name = some (.record sort rec) → rec.name = name

structure Derived (P : List Declaration → Declaration → Constraint → Prop)
    (ds : List Declaration) (r : Resolution) : Prop where
  typeAlias : ∀ a ∈ r.aliases, a.Placed ds P
  record : ∀ sort, ∀ e ∈ r.schema.entries sort, e.Placed ds P sort

structure Within (r : Resolution) (s : Schema) : Prop where
  typeAlias : ∀ a ∈ r.aliases, a ∈ s.aliases
  record : ∀ sort, ∀ e ∈ r.schema.entries sort, e ∈ s.entries sort

lemma mem_entries_added {r : Resolution} {sort sort' : RecordSort} {e e' : RecordEntry}
    {statements : List String} {dependencies : List (String × List String)}
    {bindings : List (String × Binding)} {symbols : List (String × String)} {calls : Nat} :
    e ∈ (Resolution.schema { r with
        definitions := r.definitions ++ if sort = .definition then [e'] else []
        models := r.models ++ if sort = .model then [e'] else []
        statements := statements
        dependencies := dependencies
        bindings := bindings
        symbols := symbols
        calls := calls }).entries sort' ↔
      e ∈ r.schema.entries sort' ∨ sort' = sort ∧ e = e' := by
  cases sort <;> cases sort' <;> simp [Schema.entries, schema]

lemma Within.earlier (hr : r'.Within s) (h : r.declaration .standard d = .ok r') : r.Within s := by
  cases d with
  | config keyword settings =>
    obtain ⟨config, -, rfl⟩ := settings_eq_ok.mp h
    exact ⟨hr.typeAlias, hr.record⟩
  | typeAlias name body =>
    obtain ⟨-, -, outcome, -, rfl⟩ := typeAlias_eq_ok.mp h
    exact ⟨fun a ha => hr.typeAlias a (List.mem_append_left _ ha), hr.record⟩
  | record sort name lines =>
    obtain ⟨-, -, -, p, -, rfl⟩ := record_eq_ok.mp h
    exact ⟨hr.typeAlias, fun sort e he => hr.record sort e (mem_entries_added.mpr (.inl he))⟩

/-! ### Names and entries -/

lemma lookup_of_free {bindings : List (String × Binding)} {name : String}
    (h : Scope.contains ⟨.standard, bindings⟩ name = false) : bindings.lookup name = none := by
  have hbound := (Bool.or_eq_false_iff.mp h).1
  simpa using hbound

lemma binds_initial : initial.Binds where
  typeAlias := by simp [initial]
  record := by
    intro sort e
    cases sort <;> simp [initial, schema, Schema.entries]
  name := by simp [initial]

lemma Binds.declaration (hr : r.Binds) (h : r.declaration .standard d = .ok r') : r'.Binds := by
  cases d with
  | config keyword settings =>
    obtain ⟨config, -, rfl⟩ := settings_eq_ok.mp h
    exact ⟨hr.typeAlias, hr.record, hr.name⟩
  | typeAlias name body =>
    obtain ⟨hfree, -, outcome, -, rfl⟩ := typeAlias_eq_ok.mp h
    have hlookup (b : Binding) {key : String} {b' : Binding} :
        (r.bindings ++ [(name.text, b)]).lookup key = some b' ↔ _ :=
      lookup_concat_iff (lookup_of_free hfree)
    refine ⟨fun a => ?_, fun sort e => ?_, fun other sort rec hl => ?_⟩
    · rw [List.mem_append, hr.typeAlias, hlookup]
      cases a
      simp
    · rw [hlookup]
      simp only [reduceCtorEq, and_false, or_false]
      exact hr.record sort e
    · rcases (hlookup _).mp hl with hl | ⟨-, hrec⟩
      · exact hr.name other sort rec hl
      · simp at hrec
  | record sort name lines =>
    obtain ⟨hfree, -, -, p, -, rfl⟩ := record_eq_ok.mp h
    have hlookup (b : Binding) {key : String} {b' : Binding} :
        (r.bindings ++ [(name.text, b)]).lookup key = some b' ↔ _ :=
      lookup_concat_iff (lookup_of_free hfree)
    refine ⟨fun a => ?_, fun sort' e => ?_, fun other sort' rec hl => ?_⟩
    · rw [hlookup]
      simpa using hr.typeAlias a
    · rw [mem_entries_added, hr.record, hlookup]
      constructor
      · rintro (⟨hentry, hl⟩ | ⟨rfl, rfl⟩)
        · exact ⟨hentry, .inl hl⟩
        · exact ⟨rfl, .inr ⟨rfl, rfl⟩⟩
      · rintro ⟨hentry, hl | ⟨-, hrec⟩⟩
        · exact .inl ⟨hentry, hl⟩
        · obtain ⟨hsort, hrec⟩ := Binding.record.inj hrec
          exact .inr ⟨hsort, by rw [hentry, hrec]⟩
    · rcases (hlookup _).mp hl with hl | ⟨rfl, hrec⟩
      · exact hr.name other sort' rec hl
      · obtain ⟨-, rfl⟩ := Binding.record.inj hrec
        rfl

lemma binds_of_foldlM (h : ds.foldlM (declaration .standard) initial = .ok r) : r.Binds :=
  foldlM_induct Binds (fun _ _ _ _ hr hstep => hr.declaration hstep) binds_initial h

lemma Binds.mem_entry (hr : r.Binds) {name : String} {sort : RecordSort} {rec : Record}
    (hl : r.bindings.lookup name = some (.record sort rec)) :
    entry rec ∈ r.schema.entries sort := by
  refine (hr.record sort _).mpr ⟨rfl, ?_⟩
  rw [show (entry rec).name = name from hr.name name sort rec hl]
  exact hl

/-! ### The property along the declarations -/

/-- The names that a declaration may use have the property, so its constraints have it too. -/
lemma Derived.keeps (hP : Derives ds s P) (hr : r.Derived P done) (hb : r.Binds)
    (hs : r.Within s) (hd : done ++ [d] <+: ds) {tokens : List Token}
    (htokens : tokens ∈ d.expressions) :
    Expression.Keeps ⟨.standard, r.bindings⟩ tokens (P done d) where
  primitive h := hP.primitive h
  call hfactory hcalls hargs hc := hP.call hd htokens hfactory hcalls hargs hc
  typeAlias {t cs} ht hkind hl := by
    have hmem := (hb.typeAlias ⟨t.text, cs⟩).mpr hl
    obtain ⟨earlier, e, hplace, hdeclares, hne, hcs⟩ := hr.typeAlias _ hmem
    exact hP.typeAlias hd ⟨tokens, htokens, t, ht, hkind, rfl⟩ hplace hdeclares
      (hs.typeAlias _ hmem) hne hcs
  record {t sort rec} ht hkind hl := by
    have hmem := hb.mem_entry hl
    have hname : (entry rec).name = t.text := hb.name t.text sort rec hl
    obtain ⟨earlier, e, hplace, hdeclares, hentry, hmade⟩ := hr.record sort _ hmem
    have hmentions : d.Mentions (entry rec).name := ⟨tokens, htokens, t, ht, hkind, hname.symm⟩
    have hrecord := hP.record hd hmentions hplace hdeclares (hs.record sort _ hmem) hentry hmade
    rwa [hname] at hrecord

lemma Derived.alias_constraints (hP : Derives ds s P) (hr : r.Derived P done) (hb : r.Binds)
    (hs : r.Within s) (hd : done ++ [d] <+: ds) {body : List Token} (hbody : body ∈ d.expressions)
    (hne : body ≠ []) {outcome : Expression.Outcome}
    (h : Expression.resolve ⟨.standard, r.bindings⟩ r.calls body = .ok outcome) :
    outcome.terms.flatMap aliasConstraints ≠ [] ∧
      ∀ c ∈ outcome.terms.flatMap aliasConstraints, P done d c := by
  have hterms := Expression.resolve_keeps (hr.keeps hP hb hs hd hbody) h
  constructor
  · obtain ⟨b, hmem⟩ := List.exists_mem_of_ne_nil _ (Expression.resolve_ne_nil hne h)
    have hsome : aliasConstraints b ≠ [] := by
      cases b with
      | constraint c | record rec binding => simp [aliasConstraints]
      | typeAlias name cs =>
        have hl := Expression.resolve_alias h hmem
        obtain ⟨-, -, -, -, hcs, -⟩ := hr.typeAlias _ ((hb.typeAlias ⟨name, cs⟩).mpr hl)
        exact hcs
    obtain ⟨c, hc⟩ := List.exists_mem_of_ne_nil _ hsome
    exact List.ne_nil_of_mem (List.mem_flatMap.mpr ⟨b, hmem, hc⟩)
  · intro c hc
    obtain ⟨b, hmem, hcb⟩ := List.mem_flatMap.mp hc
    exact (hterms b hmem).2 c hcb

lemma Derived.properties (hP : Derives ds s P) (hr : r.Derived P done) (hb : r.Binds)
    (hs : r.Within s) (hd : done ++ [d] <+: ds) {owner : String} {lines : List PropertyLine}
    (hlines : ∀ line ∈ lines, line.expression ∈ d.expressions ∧ line.expression ≠ [])
    {p p' : Progress} (hp : (Record.mk owner p.properties).Made (P done d))
    (h : lines.foldlM (property ⟨.standard, r.bindings⟩ owner) p = .ok p') :
    (Record.mk owner p'.properties).Made (P done d) := by
  refine foldlM_induct (fun p => (Record.mk owner p.properties).Made (P done d))
    (fun line hline q q' hq hstep => ?_) hp h
  obtain ⟨hmem, hne⟩ := hlines line hline
  obtain ⟨-, -, outcome, ho, rfl⟩ := property_eq_ok.mp hstep
  have hterms := Expression.resolve_keeps (hr.keeps hP hb hs hd hmem) ho
  refine List.forall_mem_append.mpr ⟨hq, List.forall_mem_singleton.mpr ⟨rfl, ?_, ?_⟩⟩
  · simpa using Expression.resolve_ne_nil hne ho
  · intro c hc
    obtain ⟨b, hmem, rfl⟩ := List.mem_map.mp hc
    exact (hterms b hmem).1

/-- **One declaration** adds entries that have the property at its place. -/
lemma Derived.declaration (hP : Derives ds s P) (hr : r.Derived P done) (hb : r.Binds)
    (hd : done ++ [d] <+: ds) (hfilled : Grouping.Filled d)
    (h : r.declaration .standard d = .ok r') (hs : r'.Within s) : r'.Derived P (done ++ [d]) := by
  have hwithin := hs.earlier h
  have hplace : done ++ [d] <+: done ++ [d] := List.prefix_rfl
  have halias := fun a ha => (hr.typeAlias a ha).concat d
  have hrecord := fun sort e he => (hr.record sort e he).concat d
  cases d with
  | config keyword settings =>
    obtain ⟨config, -, rfl⟩ := settings_eq_ok.mp h
    exact ⟨halias, hrecord⟩
  | typeAlias name body =>
    obtain ⟨-, -, outcome, ho, rfl⟩ := typeAlias_eq_ok.mp h
    have hconstraints := hr.alias_constraints hP hb hwithin hd (by simp) hfilled ho
    refine ⟨List.forall_mem_append.mpr ⟨halias, ?_⟩, hrecord⟩
    exact List.forall_mem_singleton.mpr ⟨done, _, hplace, ⟨rfl, rfl⟩, hconstraints⟩
  | record sort name lines =>
    obtain ⟨-, -, -, p, hp, rfl⟩ := record_eq_ok.mp h
    have hlines : ∀ line ∈ lines,
        line.expression ∈ (Declaration.record sort name lines).expressions ∧
          line.expression ≠ [] :=
      fun line hline => ⟨List.mem_map_of_mem hline, hfilled line hline⟩
    have hmade := hr.properties hP hb hwithin hd hlines (fun q hq => by simp at hq) hp
    refine ⟨halias, fun sort' e he => ?_⟩
    rcases mem_entries_added.mp he with he | ⟨rfl, rfl⟩
    · exact hrecord sort' e he
    · exact ⟨done, _, hplace, ⟨rfl, rfl⟩, rfl, hmade⟩

lemma derived_of_foldlM (hP : Derives ds s P) (hfilled : ∀ d ∈ ds, Grouping.Filled d)
    (hdone : done <+: ds) (h : done.foldlM (declaration .standard) initial = .ok r)
    (hs : r.Within s) : r.Derived P done := by
  induction done using List.reverseRecOn generalizing r with
  | nil =>
    rw [List.foldlM_nil, pure_eq_ok] at h
    subst h
    refine ⟨by simp [initial], fun sort => ?_⟩
    cases sort <;> simp [initial, schema, Schema.entries]
  | append_singleton done d ih =>
    obtain ⟨r₁, h₁, h₂⟩ := (foldlM_concat d).mp h
    have hr₁ := ih ((List.prefix_append done [d]).trans hdone) h₁ (hs.earlier h₂)
    exact hr₁.declaration hP (binds_of_foldlM h₁) hdone (hfilled d (hdone.subset (by simp))) h₂ hs

/-! ### Dependencies -/

/-- Names that need no declaration are not declared. -/
lemma lookup_registered {scope : Scope} (hscope : scope.Knows ds) {name : String}
    (hname : Registry.standard.contains name = true) : scope.bindings.lookup name = none := by
  rw [lookup_eq_none, hscope.names]
  intro hmem
  simp [hscope.undeclared name hmem] at hname

lemma lookup_factory {scope : Scope} (hscope : scope.Knows ds) (name : String)
    (hname : (scope.registry.factory? name).isSome = true) : scope.bindings.lookup name = none := by
  rw [hscope.registry] at hname
  exact lookup_registered hscope (by simp [Registry.contains, hname])

lemma references_of_properties {scope : Scope} (hscope : scope.Knows ds) {owner : String}
    {lines : List PropertyLine} {p p' : Progress}
    (h : lines.foldlM (property scope owner) p = .ok p') :
    p'.references = p.references ++
      lines.flatMap fun line => Expression.boundNames scope.bindings line.expression := by
  induction lines generalizing p with
  | nil =>
    rw [List.foldlM_nil, pure_eq_ok] at h
    simp [h]
  | cons line rest ih =>
    rw [List.foldlM_cons, bind_eq_ok] at h
    obtain ⟨p₁, h₁, h₂⟩ := h
    obtain ⟨-, -, outcome, ho, rfl⟩ := property_eq_ok.mp h₁
    have hfirst := Expression.resolve_references (lookup_factory hscope) ho
    rw [ih h₂, hfirst, List.flatMap_cons, List.append_assoc]

/-- What a declaration mentions of the names declared before it has been recorded. -/
def Recorded (ds : List Declaration) (r : Resolution) : Prop :=
  ∀ before d, before ++ [d] <+: ds → ∀ name ∈ d.names, ∃ others,
    (name, others) ∈ r.dependencies ∧
      ∀ other, other ∈ others ↔ other ∈ declaredNames before ∧ d.Mentions other

lemma Recorded.declaration (hr : r.Recorded done) (ht : r.Tracks done)
    (h : r.declaration .standard d = .ok r') : r'.Recorded (done ++ [d]) := by
  have hnames : r.bindings.map (·.1) = declaredNames done := ht.scope.names
  have hadd {more : List (String × List String)}
      (hmore : ∀ name ∈ d.names, ∃ others, (name, others) ∈ more ∧
        ∀ other, other ∈ others ↔ other ∈ declaredNames done ∧ d.Mentions other) :
      Recorded (done ++ [d]) { r with dependencies := r.dependencies ++ more } := by
    intro before e hplace name hname
    rcases List.prefix_concat_iff.mp hplace with heq | hplace
    · obtain ⟨rfl, he⟩ := List.append_inj' heq rfl
      obtain rfl := (List.cons.inj he).1
      obtain ⟨others, hmem, hothers⟩ := hmore name hname
      exact ⟨others, List.mem_append_right _ hmem, hothers⟩
    · obtain ⟨others, hmem, hothers⟩ := hr before e hplace name hname
      exact ⟨others, List.mem_append_left _ hmem, hothers⟩
  cases d with
  | config keyword settings =>
    obtain ⟨config, -, rfl⟩ := settings_eq_ok.mp h
    have hall : Recorded (done ++ [.config keyword settings])
        { r with dependencies := r.dependencies ++ [] } := hadd (by simp)
    simpa [Recorded] using hall
  | typeAlias name body =>
    obtain ⟨-, -, outcome, ho, rfl⟩ := typeAlias_eq_ok.mp h
    refine hadd (List.forall_mem_singleton.mpr
      ⟨outcome.references.eraseDups, by simp, fun other => ?_⟩)
    rw [List.mem_eraseDups, Expression.resolve_references (lookup_factory ht.scope) ho,
      Expression.mem_boundNames, hnames]
    simp [Declaration.Mentions]
  | record sort name lines =>
    obtain ⟨-, -, -, p, hp, rfl⟩ := record_eq_ok.mp h
    refine hadd (List.forall_mem_singleton.mpr
      ⟨p.references.eraseDups, by simp, fun other => ?_⟩)
    rw [List.mem_eraseDups, references_of_properties ht.scope hp, List.nil_append,
      List.mem_flatMap]
    simp only [Expression.mem_boundNames, hnames]
    constructor
    · rintro ⟨line, hline, hdeclared, hmentions⟩
      exact ⟨hdeclared, line.expression, List.mem_map_of_mem hline, hmentions⟩
    · rintro ⟨hdeclared, tokens, htokens, hmentions⟩
      obtain ⟨line, hline, rfl⟩ := List.mem_map.mp htokens
      exact ⟨line, hline, hdeclared, hmentions⟩

lemma recorded_of_foldlM (h : ds.foldlM (declaration .standard) initial = .ok r) :
    r.Recorded ds := by
  induction ds using List.reverseRecOn generalizing r with
  | nil =>
    intro before d hplace
    simp at hplace
  | append_singleton ds d ih =>
    obtain ⟨r₁, h₁, h₂⟩ := (foldlM_concat d).mp h
    exact (ih h₁).declaration (tracks_of_foldlM h₁) h₂

end Resolution

lemma declarations_of_source {source : String} {s : Schema} (h : resolveSource source = .ok s) :
    ∃ ds, parse source = .ok ds ∧ resolve ds = .ok s ∧ ∀ d ∈ ds, Grouping.Filled d := by
  obtain ⟨tokens, ds, htokens, hgroup, hresolve⟩ := resolveSource_eq_ok.mp h
  have hfilled := (Grouping.declares_of_eq_ok (Grouping.group_eq_ok.mp hgroup).2).filled
  exact ⟨ds, bind_eq_ok.mpr ⟨tokens, htokens, hgroup⟩, hresolve, hfilled⟩

lemma exists_of_resolve {ds : List Declaration} {s : Schema} (h : resolve ds = .ok s) :
    ∃ r, ds.foldlM (Resolution.declaration .standard) .initial = .ok r ∧ r.schema = s := by
  obtain ⟨r, hr, hs⟩ := bind_eq_ok.mp h
  exact ⟨r, hr, pure_eq_ok.mp hs⟩

lemma alias?_of_mem {ds : List Declaration} {s : Schema} (h : resolve ds = .ok s)
    {a : AliasEntry} (ha : a ∈ s.aliases) : s.alias? a.name = some a := by
  obtain ⟨r, hr, rfl⟩ := exists_of_resolve h
  have hb := Resolution.binds_of_foldlM hr
  have hsome : (r.schema.alias? a.name).isSome = true :=
    List.find?_isSome.mpr ⟨a, ha, by simp⟩
  obtain ⟨a', ha'⟩ := Option.isSome_iff_exists.mp hsome
  have hname : a'.name = a.name := by simpa using List.find?_some ha'
  have hl := (hb.typeAlias a').mp (List.mem_of_find?_eq_some ha')
  rw [hname, (hb.typeAlias a).mp ha] at hl
  have hconstraints : a.constraints = a'.constraints := by simpa using hl
  rw [ha']
  cases a
  cases a'
  simp_all

lemma entry_of_mem {ds : List Declaration} {s : Schema} (h : resolve ds = .ok s)
    {sort : RecordSort} {e : RecordEntry} (he : e ∈ s.entries sort) :
    e = Resolution.entry e.record := by
  obtain ⟨r, hr, rfl⟩ := exists_of_resolve h
  exact (((Resolution.binds_of_foldlM hr).record sort e).mp he).1

lemma name_of_mem {ds : List Declaration} {s : Schema} (h : resolve ds = .ok s)
    {e : RecordEntry} (he : e ∈ s.definitions ++ s.models) : e.record.name = e.name := by
  obtain ⟨sort, he⟩ := Schema.mem_entries.mp he
  exact (congrArg RecordEntry.name (entry_of_mem h he)).symm

lemma entry_unique {ds : List Declaration} {s : Schema} (h : resolve ds = .ok s)
    {sort sort' : RecordSort} {e e' : RecordEntry} (he : e ∈ s.entries sort)
    (he' : e' ∈ s.entries sort') (hname : e.name = e'.name) : sort = sort' ∧ e = e' := by
  obtain ⟨r, hr, rfl⟩ := exists_of_resolve h
  have hb := Resolution.binds_of_foldlM hr
  obtain ⟨hentry, hl⟩ := (hb.record sort e).mp he
  obtain ⟨hentry', hl'⟩ := (hb.record sort' e').mp he'
  rw [← hname, hl] at hl'
  obtain ⟨hsort, hrecord⟩ := Binding.record.inj (Option.some.inj hl')
  exact ⟨hsort, by rw [hentry, hentry', hrecord]⟩

lemma entry?_of_mem {ds : List Declaration} {s : Schema} (h : resolve ds = .ok s)
    {sort : RecordSort} {e : RecordEntry} (he : e ∈ s.entries sort) :
    s.entry? sort e.name = some e := by
  have hfind : s.entry? sort e.name = (s.entries sort).find? (·.name == e.name) := by
    cases sort <;> rfl
  have hsome : (s.entry? sort e.name).isSome = true := by
    rw [hfind]
    exact List.find?_isSome.mpr ⟨e, he, by simp⟩
  obtain ⟨e', he'⟩ := Option.isSome_iff_exists.mp hsome
  rw [hfind] at he'
  have hname : e'.name = e.name := by simpa using List.find?_some he'
  rw [hfind, he', (entry_unique h (List.mem_of_find?_eq_some he') he hname).2]

/-- **The dependencies of a declared name** are the names declared before that its declaration
mentions. -/
lemma dependencies_of_resolve {ds before : List Declaration} {d : Declaration} {s : Schema}
    (h : resolve ds = .ok s) (hd : before ++ [d] <+: ds) {name : String} (hname : name ∈ d.names) :
    ∃ others, (name, others) ∈ s.dependencies ∧
      ∀ other, other ∈ others ↔ other ∈ declaredNames before ∧ d.Mentions other := by
  obtain ⟨r, hr, rfl⟩ := exists_of_resolve h
  exact Resolution.recorded_of_foldlM hr before d hd name hname

/-- **All entries of a schema have the property**, each where it is declared. -/
lemma placed_of_resolve {P : List Declaration → Declaration → Constraint → Prop}
    {ds : List Declaration} {s : Schema} (hP : Derives ds s P)
    (hfilled : ∀ d ∈ ds, Grouping.Filled d) (h : resolve ds = .ok s) :
    (∀ a ∈ s.aliases, a.Placed ds P) ∧
      ∀ sort, ∀ e ∈ s.entries sort, e.Placed ds P sort := by
  obtain ⟨r, hr, rfl⟩ := exists_of_resolve h
  have hderived := Resolution.derived_of_foldlM hP hfilled List.prefix_rfl hr
    ⟨fun a ha => ha, fun sort e he => he⟩
  exact ⟨hderived.typeAlias, hderived.record⟩

end TypeGuard
