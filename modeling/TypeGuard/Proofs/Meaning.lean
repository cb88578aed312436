import TypeGuard.Proofs.Evaluation
import TypeGuard.Proofs.TypeUnion
import TypeGuard.Proofs.WellFormed

/-!
The meaning of constraints: their type, and what comes of checking values.

The code of a constraint is not part of it. So calls of a factory that differ in their place among
all calls mean the same, and so does an expression in two scopes in which its names mean the same.
-/

namespace TypeGuard

open Outcome

/-! ### The same meaning -/

structure Constraint.Same (c c' : Constraint) : Prop where
  type : c.type = c'.type
  evaluate : ∀ v, c.evaluate v = c'.evaluate v

/-- Lists of constraints that mean the same as a whole. -/
structure Means (cs cs' : List Constraint) : Prop where
  type : typeOf cs = typeOf cs'
  evaluate : ∀ v, evaluateAll cs v = evaluateAll cs' v

structure Property.Same (p p' : Property) : Prop where
  name : p.name = p'.name
  type : p.type = p'.type
  evaluate : ∀ owner v, p.evaluate owner v = p'.evaluate owner v

structure Record.Same (r r' : Record) : Prop where
  name : r.name = r'.name
  properties : List.Forall₂ Property.Same r.properties r'.properties

/-- Declared names that mean the same. How many constraints an alias has counts as well, as only a
single one may be an argument. -/
inductive Binding.Same : Binding → Binding → Prop where
  | typeAlias {cs cs' : List Constraint} : Means cs cs' → cs.length = cs'.length →
      Same (.typeAlias cs) (.typeAlias cs')
  | record {sort : RecordSort} {r r' : Record} : r.Same r' → Same (.record sort r) (.record sort r')

inductive Bound.Same : Bound → Bound → Prop where
  | constraint {c c' : Constraint} : c.Same c' → Same (.constraint c) (.constraint c')
  | typeAlias {name : String} {cs cs' : List Constraint} : Means cs cs' → cs.length = cs'.length →
      Same (.typeAlias name cs) (.typeAlias name cs')
  | record {binding : String} {r r' : Record} : r.Same r' →
      Same (.record r binding) (.record r' binding)

inductive Argument.Same : Argument → Argument → Prop where
  | literal (value : Literal) : Same (.literal value) (.literal value)
  | constraint {c c' : Constraint} : c.Same c' → Same (.constraint c) (.constraint c')

lemma Constraint.Same.refl (c : Constraint) : c.Same c := ⟨rfl, fun _ => rfl⟩

lemma Property.Same.refl (p : Property) : p.Same p := ⟨rfl, rfl, fun _ _ => rfl⟩

lemma Record.Same.refl (r : Record) : r.Same r :=
  ⟨rfl, List.forall₂_same.mpr fun p _ => .refl p⟩

namespace Means

lemma refl (cs : List Constraint) : Means cs cs := ⟨rfl, fun _ => rfl⟩

lemma symm {cs cs' : List Constraint} (h : Means cs cs') : Means cs' cs :=
  ⟨h.type.symm, fun v => (h.evaluate v).symm⟩

lemma trans {cs cs' cs'' : List Constraint} (h : Means cs cs') (h' : Means cs' cs'') :
    Means cs cs'' :=
  ⟨h.type.trans h'.type, fun v => (h.evaluate v).trans (h'.evaluate v)⟩

lemma append {cs cs' ds ds' : List Constraint} (h : Means cs cs') (h' : Means ds ds') :
    Means (cs ++ ds) (cs' ++ ds') where
  type := by rw [typeOf_append, typeOf_append, h.type, h'.type]
  evaluate v := by rw [evaluateAll_append, evaluateAll_append, h.evaluate, h'.evaluate]

lemma single {c c' : Constraint} (h : c.Same c') : Means [c] [c'] where
  type := by rw [typeOf_single, typeOf_single, h.type]
  evaluate v := by rw [evaluateAll_single, evaluateAll_single, h.evaluate]

lemma toConstraint (name : String) (cs : List Constraint) :
    Means [(Bound.typeAlias name cs).toConstraint] cs where
  type := by rw [typeOf_single, Bound.toConstraint, extend_typeOf]
  evaluate v := by
    rw [evaluateAll_single, Constraint.evaluate_eq, Bound.toConstraint, Check.evaluate]

lemma holdAll {cs cs' : List Constraint} (h : Means cs cs') (context : String)
    (v : Option Value) : TypeGuard.holdAll context cs v = TypeGuard.holdAll context cs' v := by
  rw [holdAll_eq, holdAll_eq, h.evaluate]

lemma property {cs cs' : List Constraint} (h : Means cs cs') (name : String) :
    (Property.mk name (typeOf cs) cs).Same ⟨name, typeOf cs', cs'⟩ where
  name := rfl
  type := h.type
  evaluate owner v := by rw [Property.evaluate, Property.evaluate, h.holdAll]

end Means

lemma Binding.Same.refl : ∀ b : Binding, b.Same b
  | .typeAlias cs => .typeAlias (.refl cs) rfl
  | .record _ r => .record (.refl r)

lemma Record.Same.evaluate {r r' : Record} (h : r.Same r') (v : Option Value) :
    r.evaluate v = r'.evaluate v := by
  obtain ⟨owner, properties⟩ := r
  obtain ⟨owner', properties'⟩ := r'
  obtain ⟨rfl, hproperties⟩ : owner = owner' ∧ List.Forall₂ Property.Same properties properties' :=
    ⟨h.name, h.properties⟩
  rw [Record.evaluate, Record.evaluate]
  clear h
  induction hproperties with
  | nil => rfl
  | cons hp _ ih => rw [evaluateProperties, evaluateProperties, hp.evaluate, ih]

namespace Bound.Same

variable {b b' : Bound} {bs bs' : List Bound}

lemma count (h : b.Same b') : b.count = b'.count := by
  cases h with
  | constraint _ | record _ => rfl
  | typeAlias _ hlength => exact hlength

lemma toConstraint (h : b.Same b') : b.toConstraint.Same b'.toConstraint := by
  cases h with
  | constraint hc => exact hc
  | typeAlias hcs _ =>
    refine ⟨hcs.type, fun v => ?_⟩
    rw [Constraint.evaluate_eq, Constraint.evaluate_eq, Bound.toConstraint, Bound.toConstraint,
      Check.evaluate, Check.evaluate, hcs.evaluate]
  | record hr =>
    refine ⟨congrArg TypeUnion.named hr.name, fun v => ?_⟩
    rw [Constraint.evaluate_eq, Constraint.evaluate_eq, Bound.toConstraint, Bound.toConstraint,
      Check.evaluate, Check.evaluate, hr.evaluate]

/-- As constraints of a property, terms mean the same. -/
lemma means_map (h : List.Forall₂ Bound.Same bs bs') :
    Means (bs.map Bound.toConstraint) (bs'.map Bound.toConstraint) := by
  induction h with
  | nil => exact .refl _
  | cons hb _ ih => exact (Means.single hb.toConstraint).append ih

lemma aliasConstraints (h : b.Same b') :
    Means (Resolution.aliasConstraints b) (Resolution.aliasConstraints b') := by
  cases h with
  | constraint hc => exact .single hc
  | typeAlias hcs _ => exact hcs
  | record hr => exact .single (toConstraint (.record hr))

/-- As constraints of an alias, terms mean the same, and are as many. -/
lemma means_flatMap (h : List.Forall₂ Bound.Same bs bs') :
    Means (bs.flatMap Resolution.aliasConstraints) (bs'.flatMap Resolution.aliasConstraints) ∧
      (bs.flatMap Resolution.aliasConstraints).length =
        (bs'.flatMap Resolution.aliasConstraints).length := by
  induction h with
  | nil => exact ⟨.refl _, rfl⟩
  | cons hb _ ih =>
    simp only [List.flatMap_cons, List.length_append, Expression.length_aliasConstraints]
    exact ⟨hb.aliasConstraints.append ih.1, by rw [hb.count, ih.2]⟩

end Bound.Same

/-- In a property terms mean what they mean in an alias, where aliases are replaced by their
constraints. -/
lemma means_flatMap_map (bs : List Bound) :
    Means (bs.flatMap Resolution.aliasConstraints) (bs.map Bound.toConstraint) := by
  induction bs with
  | nil => exact .refl _
  | cons b rest ih =>
    have hfirst : Means (Resolution.aliasConstraints b) [b.toConstraint] := by
      cases b with
      | constraint c | record r binding => exact .refl _
      | typeAlias name cs => exact (Means.toConstraint name cs).symm
    exact hfirst.append ih

/-! ### Calls -/

lemma getElem?_same {α : Type} {literal : α → Literal} {args args' : List Argument}
    (h : List.Forall₂ Argument.Same args args') {index : Nat} {value : Option α}
    (hvalue : args[index]? = value.map fun y => .literal (literal y)) :
    args'[index]? = value.map fun y => .literal (literal y) := by
  induction h generalizing index with
  | nil => exact hvalue
  | cons hfirst _ ih =>
    cases index with
    | succ index => exact ih hvalue
    | zero =>
      cases hfirst with
      | literal _ => exact hvalue
      | constraint _ => cases value <;> simp at hvalue

/-- **A call means the same** wherever it stands, if its arguments do. -/
lemma build_same {name : String} {factory : Factory} {call : Call} {args args' : List Argument}
    {c : Constraint} (hf : Registry.standard.factory? name = some factory)
    (hargs : List.Forall₂ Argument.Same args args') (h : factory.build call args = .ok c)
    (call' : Call) :
    ∃ c', factory.build call' args' = .ok c' ∧ c.Same c' := by
  have hlength := hargs.length_eq
  revert h
  refine Factory.standard_cases (motive := fun f => f.build call args = .ok c →
    ∃ c', f.build call' args' = .ok c' ∧ c.Same c') ?_ ?_ ?_ ?_ hf
  · intro h
    obtain ⟨hle, start, stop, step, h0, h1, h2, rfl⟩ := Factory.range_eq_ok.mp h
    exact ⟨_, Factory.range_eq_ok.mpr ⟨hlength ▸ hle, start, stop, step, getElem?_same hargs h0,
      getElem?_same hargs h1, getElem?_same hargs h2, rfl⟩, .refl _⟩
  · intro h
    obtain ⟨hle, source, flags, reading, p, h0, hsource, h1, hreading, hp, rfl⟩ :=
      Factory.pattern_eq_ok.mp h
    refine ⟨_, Factory.pattern_eq_ok.mpr ⟨hlength ▸ hle, source, flags, reading, p,
      getElem?_same hargs h0, hsource, getElem?_same hargs h1,
      Factory.patternFlags_eq_ok hreading, hp, rfl⟩, rfl, fun v => ?_⟩
    rw [Constraint.evaluate_eq, Constraint.evaluate_eq]
  · intro name side measure h
    obtain ⟨hle, bound, exclusive, h0, h1, rfl⟩ := Factory.limit_eq_ok.mp h
    have hbound : args'[0]? = (some bound).map fun y => .literal (.number y) :=
      getElem?_same hargs h0
    exact ⟨_, Factory.limit_eq_ok.mpr ⟨hlength ▸ hle, bound, exclusive, hbound,
      getElem?_same hargs h1, rfl⟩, .refl _⟩
  · intro h
    obtain ⟨inner, rfl, rfl⟩ := Factory.optional_eq_ok.mp h
    obtain ⟨argument, rest, hfirst, hrest, rfl⟩ := List.forall₂_cons_left_iff.mp hargs
    obtain rfl := List.forall₂_nil_left_iff.mp hrest
    cases hfirst with
    | constraint hinner =>
      refine ⟨_, Factory.optional_eq_ok.mpr ⟨_, rfl, rfl⟩, ?_, fun v => ?_⟩
      · exact congrArg (TypeUnion.extend · _) hinner.type
      · rw [Constraint.evaluate_eq, Constraint.evaluate_eq, Check.evaluate, Check.evaluate,
          hinner.evaluate]

/-! ### Expressions -/

/-- What a scope knows means the same in another one. -/
structure Scope.Refines (scope scope' : Scope) : Prop where
  registry : scope.registry = .standard
  registry' : scope'.registry = .standard
  bound : ∀ name b, scope.bindings.lookup name = some b →
    ∃ b', scope'.bindings.lookup name = some b' ∧ b.Same b'
  free : ∀ name, Registry.standard.contains name = true → scope'.bindings.lookup name = none

namespace Expression

variable {scope scope' : Scope} {tally : Tally}

lemma boundOf_same (hscope : scope.Refines scope') {t : Token} {r : Bound × Tally}
    (h : boundOf scope tally t = .ok r) (tally' : Tally) :
    ∃ r', boundOf scope' tally' t = .ok r' ∧ r.1.Same r'.1 := by
  unfold boundOf at h
  split at h
  · next constraints hl =>
    obtain rfl := Except.ok.inj h
    obtain ⟨b', hl', hsame⟩ := hscope.bound _ _ hl
    cases hsame with
    | typeAlias hcs hlength =>
      exact ⟨_, by rw [boundOf, hl'], .typeAlias hcs hlength⟩
  · next sort record hl =>
    obtain rfl := Except.ok.inj h
    obtain ⟨b', hl', hsame⟩ := hscope.bound _ _ hl
    cases hsame with
    | record hr => exact ⟨_, by rw [boundOf, hl'], .record hr⟩
  · split at h
    · next c hc =>
      obtain rfl := Except.ok.inj h
      rw [hscope.registry] at hc
      have hfree := hscope.free t.text (by simp [Registry.contains, hc])
      refine ⟨(.constraint c, tally'), ?_, .constraint (.refl c)⟩
      rw [boundOf, hfree, hscope.registry', hc]
    · split at h <;> simp at h

lemma operands_same {operands : List Operand}
    (ih : ∀ a, Operand.term a ∈ operands → ∀ tally r, a.evaluate scope tally = .ok r →
      ∀ tally', ∃ r', a.evaluate scope' tally' = .ok r' ∧ r.1.Same r'.1)
    {r : List Argument × Tally} (h : evaluateOperands scope tally operands = .ok r)
    (tally' : Tally) :
    ∃ r', evaluateOperands scope' tally' operands = .ok r' ∧
      List.Forall₂ Argument.Same r.1 r'.1 := by
  induction operands generalizing tally r tally' with
  | nil =>
    obtain rfl := Except.ok.inj h
    exact ⟨_, rfl, .nil⟩
  | cons o rest ihlist =>
    simp only [evaluateOperands, bind_eq_ok, pure_eq_ok] at h ⊢
    obtain ⟨p, hp, q, hq, rfl⟩ := h
    have hfirst : ∃ p', o.evaluate scope' tally' = .ok p' ∧ p.1.Same p'.1 := by
      cases o with
      | literal t =>
        simp only [Operand.evaluate, bind_eq_ok, pure_eq_ok] at hp ⊢
        obtain ⟨value, hvalue, rfl⟩ := hp
        exact ⟨_, ⟨value, hvalue, rfl⟩, .literal value⟩
      | term a =>
        simp only [Operand.evaluate, bind_eq_ok, pure_eq_ok, argumentOf_eq_ok] at hp ⊢
        obtain ⟨b, hb, argument, ⟨hcount, rfl⟩, rfl⟩ := hp
        obtain ⟨b', hb', hsame⟩ := ih a (by simp) tally b hb tally'
        exact ⟨_, ⟨b', hb', _, ⟨hsame.count ▸ hcount, rfl⟩, rfl⟩,
          .constraint hsame.toConstraint⟩
    obtain ⟨p', hp', hargument⟩ := hfirst
    obtain ⟨q', hq', harguments⟩ :=
      ihlist (fun a ha => ih a (List.mem_cons_of_mem _ ha)) hq p'.2
    exact ⟨_, ⟨p', hp', q', hq', rfl⟩, .cons hargument harguments⟩

/-- **A term means the same** in a scope in which its names mean the same. -/
lemma evaluate_same (hscope : scope.Refines scope') {a : Term} {r : Bound × Tally}
    (h : a.evaluate scope tally = .ok r) (tally' : Tally) :
    ∃ r', a.evaluate scope' tally' = .ok r' ∧ r.1.Same r'.1 := by
  induction a generalizing tally r tally' with
  | name t =>
    simp only [Term.evaluate] at h ⊢
    exact boundOf_same hscope h tally'
  | call callee operands ih =>
    simp only [Term.evaluate, bind_eq_ok, pure_eq_ok, factoryOf_eq_ok, hscope.registry,
      hscope.registry'] at h ⊢
    obtain ⟨factory, hfactory, q, hq, c, hc, rfl⟩ := h
    obtain ⟨q', hq', hargs⟩ := operands_same (fun a ha tally r hr => ih a ha hr) hq tally'
    obtain ⟨c', hc', hsame⟩ := build_same hfactory hargs hc ⟨callee, q'.2.calls + 1⟩
    exact ⟨_, ⟨factory, hfactory, q', hq', c', hc', rfl⟩, .constraint hsame⟩

lemma evaluateTerms_same (hscope : scope.Refines scope') {terms : List Term}
    {r : List Bound × Tally} (h : evaluateTerms scope tally terms = .ok r) (tally' : Tally) :
    ∃ r', evaluateTerms scope' tally' terms = .ok r' ∧ List.Forall₂ Bound.Same r.1 r'.1 := by
  induction terms generalizing tally r tally' with
  | nil =>
    obtain rfl := Except.ok.inj h
    exact ⟨_, rfl, .nil⟩
  | cons a rest ih =>
    simp only [evaluateTerms, bind_eq_ok, pure_eq_ok] at h ⊢
    obtain ⟨p, hp, q, hq, rfl⟩ := h
    obtain ⟨p', hp', hfirst⟩ := evaluate_same hscope hp tally'
    obtain ⟨q', hq', hrest⟩ := ih hq p'.2
    exact ⟨_, ⟨p', hp', q', hq', rfl⟩, .cons hfirst hrest⟩

end Expression

end TypeGuard
