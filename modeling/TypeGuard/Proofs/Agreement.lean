import TypeGuard.Proofs.Provenance
import TypeGuard.Proofs.TypeUnion

/-!
The references of generated code and the checks of the evaluator.

A constraint keeps the check that is run on values and the names that its code retrieves side by
side. Both speak of the same thing: a retrieved name belongs to an earlier declaration, and the
check is the one of that declaration. The types of constraints are made of earlier declarations
as well.
-/

namespace TypeGuard

open Outcome

/-! ### Agreement -/

/-- A union of primitive types, the absent value and records among given declarations, none of them
twice. -/
structure TypeUnion.Fits (before : List Declaration) (u : TypeUnion) : Prop where
  nonempty : u.members ≠ []
  nodup : u.members.Nodup
  members : ∀ name ∈ u.members, (∃ type : Primitive, name = type.name) ∨ name = "undefined" ∨
    ∃ d ∈ before, ∃ sort, d.Declares (.record sort) name

/-- A name of generated code that belongs to a declaration among the given ones, with the check of
what has been stored for it. -/
inductive Target (s : Schema) (before : List Declaration) : String → Check → Prop where
  | typeAlias {d : Declaration} {a : AliasEntry} : d ∈ before → d.Declares .typeAlias a.name →
      s.alias? a.name = some a →
      Target s before (Role.typeAlias.symbol a.name) (.all a.constraints)
  | record {d : Declaration} {sort : RecordSort} {e : RecordEntry} : d ∈ before →
      d.Declares (.record sort) e.name → s.entry? sort e.name = some e →
      Target s before ((Role.record sort).symbol e.name) (.record e.record)

/-- Whether a check rests on other constraints. -/
def Check.isCompound : Check → Bool
  | .optional _ | .all _ | .record _ => true
  | _ => false

/-- What a constraint retrieves is what it checks, given the declarations before its owner. -/
structure Constraint.Agrees (s : Schema) (before : List Declaration) (c : Constraint) : Prop where
  binding : ∀ symbol target, .binding symbol target ∈ c.dependencies →
    Target s before target c.check
  inline : ∀ symbol inner, .inline symbol inner ∈ c.dependencies → c.check = .optional inner
  linked : c.check.isCompound = true → c.dependencies ≠ []
  type : c.type.Fits before

/-- The constraints inside a constraint. -/
inductive Constraint.Reaches : Constraint → Constraint → Prop where
  | refl (c : Constraint) : Reaches c c
  | optional {c inner e : Constraint} : c.check = .optional inner → Reaches inner e → Reaches c e
  | all {c part e : Constraint} {parts : List Constraint} : c.check = .all parts → part ∈ parts →
      Reaches part e → Reaches c e
  | inline {c inner e : Constraint} {symbol : String} : .inline symbol inner ∈ c.dependencies →
      Reaches inner e → Reaches c e

variable {s : Schema} {before earlier : List Declaration}

/-! ### More declarations -/

lemma TypeUnion.Fits.mono {u : TypeUnion} (h : u.Fits earlier) (hsub : earlier ⊆ before) :
    u.Fits before where
  nonempty := h.nonempty
  nodup := h.nodup
  members := by
    intro name hname
    rcases h.members name hname with hprimitive | hundefined | ⟨d, hd, hdeclares⟩
    · exact .inl hprimitive
    · exact .inr (.inl hundefined)
    · exact .inr (.inr ⟨d, hsub hd, hdeclares⟩)

lemma Target.mono {target : String} {check : Check} (h : Target s earlier target check)
    (hsub : earlier ⊆ before) : Target s before target check := by
  cases h with
  | typeAlias hd hdeclares hentry => exact .typeAlias (hsub hd) hdeclares hentry
  | record hd hdeclares hentry => exact .record (hsub hd) hdeclares hentry

lemma Constraint.Agrees.mono {c : Constraint} (h : c.Agrees s earlier) (hsub : earlier ⊆ before) :
    c.Agrees s before where
  binding symbol target hmem := (h.binding symbol target hmem).mono hsub
  inline := h.inline
  linked := h.linked
  type := h.type.mono hsub

/-! ### Types -/

lemma fits_named {name : String}
    (h : (∃ type : Primitive, name = type.name) ∨ name = "undefined" ∨
      ∃ d ∈ before, ∃ sort, d.Declares (.record sort) name) :
    (TypeUnion.named name).Fits before :=
  ⟨by simp [TypeUnion.named], by simp [TypeUnion.named], by simpa [TypeUnion.named] using h⟩

lemma fits_extend {u other : TypeUnion} (hu : u.Fits before) (hother : other.Fits before) :
    (u.extend other).Fits before where
  nonempty := by
    obtain ⟨name, hname⟩ := List.exists_mem_of_ne_nil _ hu.nonempty
    exact List.ne_nil_of_mem (TypeUnion.mem_extend.mpr (.inl hname))
  nodup := TypeUnion.nodup_extend hu.nodup other
  members := by
    intro name hname
    rcases TypeUnion.mem_extend.mp hname with hname | hname
    · exact hu.members name hname
    · exact hother.members name hname

lemma fits_typeOf {cs : List Constraint} (hne : cs ≠ []) (h : ∀ c ∈ cs, c.type.Fits before) :
    (typeOf cs).Fits before where
  nonempty := by
    obtain ⟨c, hc⟩ := List.exists_mem_of_ne_nil cs hne
    obtain ⟨name, hname⟩ := List.exists_mem_of_ne_nil _ (h c hc).nonempty
    exact List.ne_nil_of_mem (mem_typeOf.mpr ⟨c, hc, hname⟩)
  nodup := TypeUnion.nodup_union _
  members := by
    intro name hname
    obtain ⟨c, hc, hname⟩ := mem_typeOf.mp hname
    exact (h c hc).members name hname

/-! ### Constraints -/

def Constraint.AgreesThroughout (s : Schema) (before : List Declaration) (c : Constraint) : Prop :=
  ∀ e, c.Reaches e → e.Agrees s before

lemma agrees_plain {check : Check} {type : TypeUnion} {code : String} {preamble : Option String}
    (hcheck : check.isCompound = false) (htype : type.Fits before) :
    (Constraint.mk check type code preamble []).AgreesThroughout s before := by
  intro e he
  cases he with
  | refl => exact ⟨by simp, by simp, by simp [hcheck], htype⟩
  | optional hoptional _ =>
    obtain rfl : check = .optional _ := hoptional
    simp [Check.isCompound] at hcheck
  | all hall _ _ =>
    obtain rfl : check = .all _ := hall
    simp [Check.isCompound] at hcheck
  | inline hmem _ => simp at hmem

lemma agrees_optional {inner : Constraint} {code symbol : String}
    (h : inner.AgreesThroughout s before) :
    (Constraint.mk (.optional inner) (inner.type.extend (.named "undefined")) code none
      [.inline symbol inner]).AgreesThroughout s before := by
  intro e he
  cases he with
  | refl =>
    refine ⟨by simp, by simp, by simp, ?_⟩
    exact fits_extend (h inner (.refl inner)).type (fits_named (.inr (.inl rfl)))
  | optional hoptional hreaches =>
    obtain rfl := Check.optional.inj hoptional
    exact h e hreaches
  | all hall _ _ => simp at hall
  | inline hmem hreaches =>
    obtain ⟨-, rfl⟩ : _ ∧ _ = inner := by simpa using hmem
    exact h e hreaches

lemma agrees_build {name : String} {factory : Factory} {call : Call} {args : List Argument}
    {c : Constraint} (hf : Registry.standard.factory? name = some factory)
    (hargs : ∀ inner, .constraint inner ∈ args → inner.AgreesThroughout s before)
    (h : factory.build call args = .ok c) : c.AgreesThroughout s before := by
  revert h
  refine Factory.standard_cases
    (motive := fun f => f.build call args = .ok c → c.AgreesThroughout s before)
    ?_ ?_ ?_ ?_ hf
  · intro h
    obtain ⟨-, start, stop, step, -, -, -, rfl⟩ := Factory.range_eq_ok.mp h
    have hunion : TypeUnion.ofList ["string", "number"] = ⟨["string", "number"]⟩ := by decide
    refine agrees_plain rfl ?_
    rw [hunion]
    exact ⟨by simp, by simp, by
      simpa using ⟨.inl ⟨.string, rfl⟩, .inl ⟨.number, rfl⟩⟩⟩
  · intro h
    obtain ⟨-, source, flags, reading, p, -, -, -, -, -, rfl⟩ := Factory.pattern_eq_ok.mp h
    exact agrees_plain rfl (fits_named (.inl ⟨.string, rfl⟩))
  · intro name side measure h
    obtain ⟨-, bound, exclusive, -, -, rfl⟩ := Factory.limit_eq_ok.mp h
    exact agrees_plain rfl (fits_named (.inl ⟨_, rfl⟩))
  · intro h
    obtain ⟨inner, rfl, rfl⟩ := Factory.optional_eq_ok.mp h
    exact agrees_optional (hargs inner (by simp))

/-- **Agreement** is kept by every way of making a constraint. -/
lemma derives_agrees {ds : List Declaration} (h : resolve ds = .ok s) :
    Derives ds s fun before _ c => c.AgreesThroughout s before where
  primitive hprimitive := by
    obtain ⟨type, rfl, rfl⟩ := Registry.standard_primitive hprimitive
    exact agrees_plain rfl (fits_named (.inl ⟨type, rfl⟩))
  call _ _ hf _ hargs hc := agrees_build hf hargs hc
  typeAlias {before earlier d e a} _ _ hplace hdeclares ha hne hcs := by
    have hsub : earlier ++ [e] ⊆ before := hplace.subset
    have hmem : e ∈ before := hsub (by simp)
    have hparts : ∀ c ∈ a.constraints, c.AgreesThroughout s before := fun c hc x hx =>
      (hcs c hc x hx).mono fun d hd => hsub (by simp [hd])
    refine ⟨fun x hx => ?_, hparts⟩
    cases hx with
    | refl =>
      refine ⟨?_, by simp [Bound.toConstraint], by simp [Bound.toConstraint], ?_⟩
      · intro symbol target hdep
        obtain ⟨-, rfl⟩ : _ ∧ target = Role.typeAlias.symbol a.name := by
          simpa [Bound.toConstraint] using hdep
        exact .typeAlias hmem hdeclares (alias?_of_mem h ha)
      · exact fits_typeOf hne fun c hc => (hparts c hc c (.refl c)).type
    | optional hoptional _ => simp [Bound.toConstraint] at hoptional
    | all hall hpart hreaches =>
      obtain rfl := Check.all.inj hall
      exact hparts _ hpart x hreaches
    | inline hmem _ => simp [Bound.toConstraint] at hmem
  record {before earlier d e sort r} _ _ hplace hdeclares hr _ _ := by
    have hmem : e ∈ before := hplace.subset (by simp)
    have hname := name_of_mem h (Schema.mem_entries.mpr ⟨sort, hr⟩)
    intro x hx
    cases hx with
    | refl =>
      refine ⟨?_, by simp [Bound.toConstraint], by simp [Bound.toConstraint], ?_⟩
      · intro symbol target hdep
        obtain ⟨-, rfl⟩ : _ ∧ target = (Role.record sort).symbol r.name := by
          simpa [Bound.toConstraint] using hdep
        exact .record hmem hdeclares (entry?_of_mem h hr)
      · rw [Bound.toConstraint, hname]
        exact fits_named (.inr (.inr ⟨e, hmem, sort, hdeclares⟩))
    | optional hoptional _ => simp [Bound.toConstraint] at hoptional
    | all hall _ _ => simp [Bound.toConstraint] at hall
    | inline hmem _ => simp [Bound.toConstraint] at hmem

/-! ### Schemas -/

/-- **References of generated code do not dangle and agree with the evaluator.** Every constraint
inside an alias or a property retrieves names of declarations before the owner, and checks what has
been stored for these. Aliases and properties have constraints, and their types are unions of
primitive types, the absent value and earlier records. -/
theorem references_agree {source : String} {s : Schema} (h : resolveSource source = .ok s) :
    ∃ ds, parse source = .ok ds ∧
      (∀ a ∈ s.aliases, ∃ before d after, ds = before ++ d :: after ∧
        d.Declares .typeAlias a.name ∧ a.constraints ≠ [] ∧ a.type.Fits before ∧
        ∀ c ∈ a.constraints, ∀ e, c.Reaches e → e.Agrees s before) ∧
      ∀ sort, ∀ r ∈ s.entries sort, ∃ before d after, ds = before ++ d :: after ∧
        d.Declares (.record sort) r.name ∧ r.constraint.check = .record r.record ∧
        r.constraint.type = .named r.name ∧ r.constraint.dependencies = [] ∧
        ∀ p ∈ r.record.properties, p.constraints ≠ [] ∧ p.type.Fits before ∧
          ∀ c ∈ p.constraints, ∀ e, c.Reaches e → e.Agrees s before := by
  obtain ⟨ds, hparse, hresolve, hfilled⟩ := declarations_of_source h
  obtain ⟨haliases, hrecords⟩ := placed_of_resolve (derives_agrees hresolve) hfilled hresolve
  refine ⟨ds, hparse, fun a ha => ?_, fun sort r hr => ?_⟩
  · obtain ⟨before, d, ⟨after, hds⟩, hdeclares, hne, hcs⟩ := haliases a ha
    refine ⟨before, d, after, by simp [← hds], hdeclares, hne, ?_, hcs⟩
    exact fits_typeOf hne fun c hc => (hcs c hc c (.refl c)).type
  · obtain ⟨before, d, ⟨after, hds⟩, hdeclares, hentry, hmade⟩ := hrecords sort r hr
    refine ⟨before, d, after, by simp [← hds], hdeclares, by rw [hentry]; rfl, by rw [hentry]; rfl,
      by rw [hentry]; rfl, fun p hp => ?_⟩
    obtain ⟨htype, hne, hcs⟩ := hmade p hp
    refine ⟨hne, ?_, hcs⟩
    rw [htype]
    exact fits_typeOf hne fun c hc => (hcs c hc c (.refl c)).type

/-- A definition with an optional property that refers to an alias. -/
def linkedSource : String :=
  "alias Name string\n" ++ "define Part \x7b\n  name optional(Name)\n\x7d\n"

/-- Whether a dependency is written in place and retrieves a name itself. -/
def Dependency.leadsTo (name : String) : Dependency → Bool
  | binding _ _ => false
  | inline _ inner => inner.dependencies.any fun
    | binding _ target => target == name
    | inline _ _ => false

theorem references_agree_linked :
    ∃ s, resolveSource linkedSource = .ok s ∧
      ∃ e ∈ s.entries .definition, ∃ p ∈ e.record.properties, ∃ c ∈ p.constraints,
        ∃ inner before, c.check = .optional inner ∧ Target s before "alias$Name" inner.check := by
  have hrun : ((resolveSource linkedSource).toOption.any fun s => s.definitions.any fun e =>
      e.record.properties.any fun p => p.constraints.any fun c =>
        c.dependencies.any (·.leadsTo "alias$Name")) = true := by
    decide +kernel
  obtain ⟨s, hs, hdefinitions⟩ := (Option.any_eq_true _ _).mp hrun
  obtain ⟨e, he, hproperties⟩ := List.any_eq_true.mp hdefinitions
  obtain ⟨p, hp, hconstraints⟩ := List.any_eq_true.mp hproperties
  obtain ⟨c, hc, hdependencies⟩ := List.any_eq_true.mp hconstraints
  obtain ⟨dependency, hdependency, hleads⟩ := List.any_eq_true.mp hdependencies
  have hsource := toOption_eq_some.mp hs
  obtain ⟨ds, -, -, hrecords⟩ := references_agree hsource
  obtain ⟨before, d, after, -, -, -, -, -, hagrees⟩ := hrecords .definition e he
  refine ⟨s, hsource, e, he, p, hp, c, hc, ?_⟩
  cases dependency with
  | binding symbol target => simp [Dependency.leadsTo] at hleads
  | inline symbol inner =>
    obtain ⟨retrieved, hretrieved, htarget⟩ := List.any_eq_true.mp hleads
    have hall := (hagrees p hp).2.2 c hc
    refine ⟨inner, before, (hall c (.refl c)).inline symbol inner hdependency, ?_⟩
    cases retrieved with
    | binding symbol target =>
      obtain rfl : target = "alias$Name" := by simpa using htarget
      exact (hall inner (.inline hdependency (.refl inner))).binding symbol _ hretrieved
    | inline symbol target => simp at htarget

end TypeGuard
