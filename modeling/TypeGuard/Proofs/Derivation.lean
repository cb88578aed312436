import Mathlib.Data.List.Infix
import TypeGuard.Proofs.WellFormed

/-!
What the constraints of an expression are made of.

A constraint comes from a primitive type, from a call that is spelled in the expression, or from a
declared name that stands in it. A property of constraints that all these have is a property of
whatever the expression resolves to. The references that are recorded on the way are the declared
names among the tokens, in their order.
-/

namespace TypeGuard

open Outcome

/-- A term has a property, as one constraint and as the constraints that it adds to an alias. -/
def Bound.Has (P : Constraint → Prop) (b : Bound) : Prop :=
  P b.toConstraint ∧ ∀ c ∈ Resolution.aliasConstraints b, P c

lemma Bound.has_constraint {P : Constraint → Prop} {c : Constraint} (h : P c) :
    (Bound.constraint c).Has P :=
  ⟨h, by simpa [Resolution.aliasConstraints, Bound.toConstraint] using h⟩

namespace Expression

/-- Somewhere in the tokens a name is called, with the given literals as operands and gaps for those
that are terms. -/
def Calls (tokens : List Token) (name : String) (values : List (Option Literal)) : Prop :=
  ∃ callee operands ts, (Term.call callee operands).Spelled ts ∧ ts <:+: tokens ∧
    callee.text = name ∧ operands.map Operand.literal? = values

/-- A property of constraints that holds of all that the names in an expression stand for, and that
the calls in it keep. -/
structure Keeps (scope : Scope) (tokens : List Token) (P : Constraint → Prop) : Prop where
  primitive {name : String} {c : Constraint} : scope.registry.primitive? name = some c → P c
  call {name : String} {factory : Factory} {call : Call} {args : List Argument} {c : Constraint} :
    scope.registry.factory? name = some factory →
    Calls tokens name (args.map Argument.literal?) →
    (∀ inner, .constraint inner ∈ args → P inner) → factory.build call args = .ok c → P c
  typeAlias {t : Token} {cs : List Constraint} : t ∈ tokens → t.kind = .identifier →
    scope.bindings.lookup t.text = some (.typeAlias cs) →
    P (Bound.typeAlias t.text cs).toConstraint ∧ ∀ c ∈ cs, P c
  record {t : Token} {sort : RecordSort} {r : Record} : t ∈ tokens → t.kind = .identifier →
    scope.bindings.lookup t.text = some (.record sort r) →
    P (Bound.record r ((Role.record sort).symbol t.text)).toConstraint

variable {scope : Scope} {tokens : List Token} {P : Constraint → Prop} {tally : Tally}

/-! ### Terms -/

/-- The terms among operands are spelled one after the other. -/
lemma Operand.Listed.exists_infix {operands : List Operand} {inner : List Token}
    (h : Operand.Listed operands inner) {a : Term} (ha : Operand.term a ∈ operands) :
    ∃ ts, a.Spelled ts ∧ ts <:+: inner := by
  have hfirst {o : Operand} {ts : List Token} (ho : o.Spelled ts) (heq : Operand.term a = o) :
      a.Spelled ts := by
    subst heq
    cases ho with
    | term hspelled => exact hspelled
  induction operands generalizing inner with
  | nil => simp at ha
  | cons o others ih =>
    cases h with
    | single ho => exact ⟨inner, hfirst ho (by simpa using ha), List.infix_rfl⟩
    | @cons _ next rest comma ts more ho hcomma hmore =>
      rcases List.mem_cons.mp ha with heq | ha
      · exact ⟨ts, hfirst ho heq, (List.prefix_append ts _).isInfix⟩
      · obtain ⟨us, hus, hinside⟩ := ih hmore ha
        refine ⟨us, hus, hinside.trans ?_⟩
        exact ((List.suffix_cons comma more).trans (List.suffix_append ts _)).isInfix

lemma exists_term_of_argument {operands : List Operand} {r : List Argument × Tally}
    (h : evaluateOperands scope tally operands = .ok r) {c : Constraint}
    (hc : Argument.constraint c ∈ r.1) :
    ∃ a tally' q, Operand.term a ∈ operands ∧ a.evaluate scope tally' = .ok q ∧
      c = q.1.toConstraint := by
  induction operands generalizing tally r with
  | nil =>
    obtain rfl := Except.ok.inj h
    simp at hc
  | cons o rest ih =>
    simp only [evaluateOperands, bind_eq_ok, pure_eq_ok] at h
    obtain ⟨p, hp, q, hq, rfl⟩ := h
    rcases List.mem_cons.mp hc with hfirst | hc
    · cases o with
      | literal t =>
        simp only [Operand.evaluate, bind_eq_ok, pure_eq_ok] at hp
        obtain ⟨value, -, rfl⟩ := hp
        simp at hfirst
      | term a =>
        simp only [Operand.evaluate, bind_eq_ok, pure_eq_ok] at hp
        obtain ⟨b, hb, argument, hargument, rfl⟩ := hp
        obtain ⟨-, rfl⟩ := argumentOf_eq_ok.mp hargument
        exact ⟨a, tally, b, by simp, hb, by simpa using hfirst⟩
    · obtain ⟨a, tally', b, ha, hb, heq⟩ := ih hq hc
      exact ⟨a, tally', b, by simp [ha], hb, heq⟩

lemma boundOf_keeps (hP : Keeps scope tokens P) {t : Token} (hmem : t ∈ tokens)
    (hkind : t.kind = .identifier) {r : Bound × Tally} (h : boundOf scope tally t = .ok r) :
    r.1.Has P := by
  unfold boundOf at h
  split at h
  · next constraints hl =>
    obtain rfl := Except.ok.inj h
    exact hP.typeAlias hmem hkind hl
  · next sort record hl =>
    obtain rfl := Except.ok.inj h
    have hrecord := hP.record hmem hkind hl
    exact ⟨hrecord, by simpa [Resolution.aliasConstraints] using hrecord⟩
  · split at h
    · next c hc =>
      obtain rfl := Except.ok.inj h
      exact Bound.has_constraint (hP.primitive hc)
    · split at h <;> simp at h

lemma evaluate_keeps (hP : Keeps scope tokens P) {a : Term} {ts : List Token} (ha : a.Spelled ts)
    (hts : ts <:+: tokens) {r : Bound × Tally} (h : a.evaluate scope tally = .ok r) :
    r.1.Has P := by
  induction a generalizing ts tally r with
  | name t =>
    cases ha with
    | name ht =>
      rw [Term.evaluate] at h
      exact boundOf_keeps hP (hts.subset (by simp)) ht h
  | call callee operands ih =>
    have hspelled := ha
    cases ha with
    | @call _ opener closer _ inner hcallee hopener hcloser hlisted =>
      simp only [Term.evaluate, bind_eq_ok, pure_eq_ok] at h
      obtain ⟨factory, hfactory, q, hq, c, hc, rfl⟩ := h
      have hinner : inner <:+: tokens := by
        refine List.IsInfix.trans ⟨[callee, opener], [closer], ?_⟩ hts
        simp
      have hcalls : Calls tokens callee.text (q.1.map Argument.literal?) :=
        ⟨callee, operands, _, hspelled, hts, rfl, (literals_of_evaluate hq).symm⟩
      refine Bound.has_constraint (hP.call (factoryOf_eq_ok.mp hfactory) hcalls ?_ hc)
      intro d hd
      obtain ⟨a, tally', b, hterm, hb, rfl⟩ := exists_term_of_argument hq hd
      obtain ⟨us, hus, hinside⟩ := hlisted.exists_infix hterm
      exact (ih a hterm hus (hinside.trans hinner) hb).1

lemma evaluateTerms_keep (hP : Keeps scope tokens P) {terms : List Term} {ts : List Token}
    (hterms : Sequence terms ts) (hts : ts <:+: tokens) {r : List Bound × Tally}
    (h : evaluateTerms scope tally terms = .ok r) : ∀ b ∈ r.1, b.Has P := by
  induction hterms generalizing tally r with
  | nil =>
    obtain rfl := Except.ok.inj h
    simp
  | @cons a rest ts more ha _ ih =>
    simp only [evaluateTerms, bind_eq_ok, pure_eq_ok] at h
    obtain ⟨p, hp, q, hq, rfl⟩ := h
    have hfirst : ts <:+: tokens := (List.prefix_append ts more).isInfix.trans hts
    have hmore : more <:+: tokens := (List.suffix_append ts more).isInfix.trans hts
    exact List.forall_mem_cons.mpr ⟨evaluate_keeps hP ha hfirst hp, ih hmore hq⟩

lemma resolve_keeps (hP : Keeps scope tokens P) {calls : Nat} {outcome : Outcome}
    (h : resolve scope calls tokens = .ok outcome) : ∀ b ∈ outcome.terms, b.Has P := by
  obtain ⟨terms, r, hterms, hr, rfl⟩ := terms_of_resolve h
  exact evaluateTerms_keep hP hterms List.infix_rfl hr

/-! ### Aliases in expressions -/

lemma evaluate_alias {a : Term} {r : Bound × Tally} (h : a.evaluate scope tally = .ok r)
    {name : String} {cs : List Constraint} (hr : r.1 = .typeAlias name cs) :
    scope.bindings.lookup name = some (.typeAlias cs) := by
  cases a with
  | name t =>
    rw [Term.evaluate, boundOf] at h
    split at h
    · next constraints hl =>
      obtain rfl := Except.ok.inj h
      obtain ⟨rfl, rfl⟩ := Bound.typeAlias.inj hr
      exact hl
    · obtain rfl := Except.ok.inj h
      simp at hr
    · split at h
      · obtain rfl := Except.ok.inj h
        simp at hr
      · split at h <;> simp at h
  | call callee operands =>
    simp only [Term.evaluate, bind_eq_ok, pure_eq_ok] at h
    obtain ⟨factory, -, q, -, c, -, rfl⟩ := h
    simp at hr

lemma evaluateTerms_alias {terms : List Term} {r : List Bound × Tally}
    (h : evaluateTerms scope tally terms = .ok r) {name : String} {cs : List Constraint}
    (hr : .typeAlias name cs ∈ r.1) : scope.bindings.lookup name = some (.typeAlias cs) := by
  induction terms generalizing tally r with
  | nil =>
    obtain rfl := Except.ok.inj h
    simp at hr
  | cons a rest ih =>
    simp only [evaluateTerms, bind_eq_ok, pure_eq_ok] at h
    obtain ⟨p, hp, q, hq, rfl⟩ := h
    rcases List.mem_cons.mp hr with hr | hr
    · exact evaluate_alias hp hr.symm
    · exact ih hq hr

lemma resolve_alias {calls : Nat} {tokens : List Token} {outcome : Outcome}
    (h : resolve scope calls tokens = .ok outcome) {name : String} {cs : List Constraint}
    (hmem : .typeAlias name cs ∈ outcome.terms) :
    scope.bindings.lookup name = some (.typeAlias cs) := by
  obtain ⟨terms, r, hterms, hr, rfl⟩ := terms_of_resolve h
  exact evaluateTerms_alias hr hmem

lemma resolve_ne_nil (htokens : tokens ≠ []) {calls : Nat} {outcome : Outcome}
    (h : resolve scope calls tokens = .ok outcome) : outcome.terms ≠ [] := by
  obtain ⟨terms, r, hterms, hr, rfl⟩ := terms_of_resolve h
  cases hterms with
  | nil => exact absurd rfl htokens
  | cons _ _ =>
    simp only [evaluateTerms, bind_eq_ok, pure_eq_ok] at hr
    obtain ⟨p, -, q, -, rfl⟩ := hr
    simp

/-! ### References -/

/-- The names among tokens that are bound to a declaration. -/
def boundNames (bindings : List (String × Binding)) (tokens : List Token) : List String :=
  (tokens.filter fun t => t.kind = .identifier && (bindings.lookup t.text).isSome).map (·.text)

lemma boundNames_append (bindings : List (String × Binding)) (first second : List Token) :
    boundNames bindings (first ++ second) =
      boundNames bindings first ++ boundNames bindings second := by
  simp [boundNames]

lemma boundNames_single {bindings : List (String × Binding)} {t : Token}
    (h : t.kind ≠ .identifier) : boundNames bindings [t] = [] := by
  simp [boundNames, h]

lemma mem_boundNames {bindings : List (String × Binding)} {name : String} :
    name ∈ boundNames bindings tokens ↔
      name ∈ bindings.map (·.1) ∧ ∃ t ∈ tokens, t.kind = .identifier ∧ t.text = name := by
  rw [← lookup_isSome]
  constructor
  · intro h
    obtain ⟨t, ht, rfl⟩ := List.mem_map.mp h
    obtain ⟨hmem, hboth⟩ := List.mem_filter.mp ht
    obtain ⟨hkind, hbound⟩ : t.kind = .identifier ∧ (bindings.lookup t.text).isSome = true := by
      simpa using hboth
    exact ⟨hbound, t, hmem, hkind, rfl⟩
  · rintro ⟨hbound, t, hmem, hkind, rfl⟩
    exact List.mem_map.mpr ⟨t, List.mem_filter.mpr ⟨hmem, by simp [hkind, hbound]⟩, rfl⟩

lemma boundOf_references {t : Token} (hkind : t.kind = .identifier) {r : Bound × Tally}
    (h : boundOf scope tally t = .ok r) :
    r.2.references = tally.references ++ boundNames scope.bindings [t] := by
  unfold boundOf at h
  split at h
  · next hl =>
    obtain rfl := Except.ok.inj h
    simp [boundNames, hkind, hl]
  · next hl =>
    obtain rfl := Except.ok.inj h
    simp [boundNames, hkind, hl]
  · next hl =>
    split at h
    · obtain rfl := Except.ok.inj h
      simp [boundNames, hl]
    · split at h <;> simp at h

lemma operands_references {operands : List Operand} {inner : List Token}
    (hlisted : Operand.Listed operands inner)
    (ih : ∀ a, Operand.term a ∈ operands → ∀ ts tally r, a.Spelled ts →
      a.evaluate scope tally = .ok r →
        r.2.references = tally.references ++ boundNames scope.bindings ts)
    {r : List Argument × Tally} (h : evaluateOperands scope tally operands = .ok r) :
    r.2.references = tally.references ++ boundNames scope.bindings inner := by
  have hoperand {o : Operand} (ho : o ∈ operands) {ts : List Token} (hspelled : o.Spelled ts)
      {tally : Tally} {p : Argument × Tally} (hp : o.evaluate scope tally = .ok p) :
      p.2.references = tally.references ++ boundNames scope.bindings ts := by
    cases hspelled with
    | @literal t ht =>
      simp only [Operand.evaluate, bind_eq_ok, pure_eq_ok] at hp
      obtain ⟨value, -, rfl⟩ := hp
      have hkind : t.kind ≠ .identifier := by
        intro hkind
        simp [hkind, Kind.isLiteral] at ht
      simp [boundNames_single hkind]
    | term ha =>
      simp only [Operand.evaluate, bind_eq_ok, pure_eq_ok] at hp
      obtain ⟨b, hb, argument, -, rfl⟩ := hp
      exact ih _ ho _ _ _ ha hb
  induction operands generalizing tally r inner with
  | nil =>
    cases hlisted
    obtain rfl := Except.ok.inj h
    simp [boundNames]
  | cons o others ihlist =>
    simp only [evaluateOperands, bind_eq_ok, pure_eq_ok] at h
    obtain ⟨p, hp, q, hq, rfl⟩ := h
    cases hlisted with
    | single ho =>
      obtain rfl := Except.ok.inj hq
      exact hoperand (by simp) ho hp
    | @cons _ next rest comma ts more ho hcomma hmore =>
      have hfirst := hoperand (by simp) ho hp
      have hrest := ihlist hmore (fun a ha => ih a (List.mem_cons_of_mem _ ha)) hq
        fun ha => hoperand (List.mem_cons_of_mem _ ha)
      have hsplit : ts ++ comma :: more = ts ++ [comma] ++ more := by simp
      rw [hrest, hfirst, hsplit, boundNames_append, boundNames_append,
        boundNames_single (by simp [hcomma])]
      simp

lemma evaluate_references
    (hscope : ∀ name, (scope.registry.factory? name).isSome = true →
      scope.bindings.lookup name = none)
    {a : Term} {ts : List Token} (ha : a.Spelled ts) {r : Bound × Tally}
    (h : a.evaluate scope tally = .ok r) :
    r.2.references = tally.references ++ boundNames scope.bindings ts := by
  induction a generalizing ts tally r with
  | name t =>
    cases ha with
    | name ht =>
      rw [Term.evaluate] at h
      exact boundOf_references ht h
  | call callee operands ih =>
    cases ha with
    | @call _ opener closer _ inner hcallee hopener hcloser hlisted =>
      simp only [Term.evaluate, bind_eq_ok, pure_eq_ok] at h
      obtain ⟨factory, hfactory, q, hq, c, -, rfl⟩ := h
      have hinner := operands_references hlisted (fun a ha ts tally r hts hr => ih a ha hts hr) hq
      have hfree : scope.bindings.lookup callee.text = none :=
        hscope _ (by rw [factoryOf_eq_ok.mp hfactory]; rfl)
      simp [hinner, boundNames, hfree, hopener, hcloser]

/-- **The references of an expression** are the declared names among its tokens. -/
lemma resolve_references
    (hscope : ∀ name, (scope.registry.factory? name).isSome = true →
      scope.bindings.lookup name = none)
    {calls : Nat} {outcome : Outcome} (h : resolve scope calls tokens = .ok outcome) :
    outcome.references = boundNames scope.bindings tokens := by
  have hterms_references {terms : List Term} {ts : List Token} (hterms : Sequence terms ts)
      {tally : Tally} {r : List Bound × Tally} (hr : evaluateTerms scope tally terms = .ok r) :
      r.2.references = tally.references ++ boundNames scope.bindings ts := by
    induction hterms generalizing tally r with
    | nil =>
      obtain rfl := Except.ok.inj hr
      simp [boundNames]
    | cons ha _ ih =>
      simp only [evaluateTerms, bind_eq_ok, pure_eq_ok] at hr
      obtain ⟨p, hp, q, hq, rfl⟩ := hr
      rw [ih hq, evaluate_references hscope ha hp, boundNames_append, List.append_assoc]
  obtain ⟨terms, r, hterms, hr, rfl⟩ := terms_of_resolve h
  simpa using hterms_references hterms hr

end Expression

end TypeGuard
