import Mathlib.Algebra.Ring.Nat
import TypeGuard.Proofs.Arguments
import TypeGuard.Proofs.Term
import TypeGuard.Schema.Resolve

/-!
Well-formed schemas.

Well-formedness is stated of the declarations alone: their settings, the names they declare and
those they generate, and the terms of their expressions, each against the declarations before it.
An expression resolves in a scope that knows the declarations before it exactly if its terms are
allowed there.
-/

namespace TypeGuard

open Outcome Expression

/-! ### What declarations declare, generate and use -/

namespace Declaration

@[simp] def settings : Declaration → List Setting
  | config _ settings => settings
  | _ => []

@[simp] def expressions : Declaration → List (List Token)
  | config _ _ => []
  | typeAlias _ body => [body]
  | record _ _ properties => properties.map (·.expression)

@[simp] def names : Declaration → List String
  | config _ _ => []
  | typeAlias name _ | record _ name _ => [name.text]

/-- The names that a declaration takes in the generated code. -/
@[simp] def generatedNames : Declaration → List String
  | config _ _ => []
  | typeAlias name _ => [Role.typeAlias.symbol name.text]
  | record sort name properties =>
    (Role.record sort).symbol name.text :: Resolution.membersSymbol name.text ::
      properties.map fun p => Resolution.propertySymbol name.text p.name.text

end Declaration

def declaredNames (ds : List Declaration) : List String := ds.flatMap (·.names)

def generatedNames (ds : List Declaration) : List String := ds.flatMap (·.generatedNames)

/-- The names outside of parentheses, given how many of these are open. -/
def outerNames : Nat → List Token → List String
  | _, [] => []
  | depth, t :: rest =>
    match t.kind with
    | .openParen => outerNames (depth + 1) rest
    | .closeParen => outerNames (depth - 1) rest
    | .identifier => if depth = 0 then t.text :: outerNames depth rest else outerNames depth rest
    | _ => outerNames depth rest

/-- Number of constraints that a name stands for, given the declarations from the latest one back.
An alias stands for the constraints of all terms in its body. -/
def sizeSince : List Declaration → String → Nat
  | [], _ => 1
  | .typeAlias owner body :: earlier, name =>
    if name = owner.text then ((outerNames 0 body).map (sizeSince earlier)).sum
    else sizeSince earlier name
  | _ :: earlier, name => sizeSince earlier name

def flattenedSize (before : List Declaration) (name : String) : Nat := sizeSince before.reverse name

/-! ### Well-formed schemas -/

namespace Expression

def Term.size (before : List Declaration) : Term → Nat
  | .name t => flattenedSize before t.text
  | .call _ _ => 1

def Operand.literal? : Operand → Option Literal
  | .literal t => (Literal.ofToken t).toOption
  | .term _ => none

mutual

/-- Terms that may be used behind some declarations: names of primitive types, names declared
before, and calls of factories that accept their operands. -/
inductive Term.Allowed (before : List Declaration) : Term → Prop where
  | primitive {t : Token} : (Registry.standard.primitive? t.text).isSome = true →
      Term.Allowed before (.name t)
  | declared {t : Token} : t.text ∈ declaredNames before → Term.Allowed before (.name t)
  | call {callee : Token} {operands : List Operand} :
      (∀ o ∈ operands, Operand.Allowed before o) →
      Factory.Accepts callee.text (operands.map Operand.literal?) →
      Term.Allowed before (.call callee operands)

/-- Operands that may be used: literals with a value, and terms that stand for at most one
constraint. -/
inductive Operand.Allowed (before : List Declaration) : Operand → Prop where
  | literal {t : Token} {value : Literal} : Literal.ofToken t = .ok value →
      Operand.Allowed before (.literal t)
  | term {a : Term} : Term.Allowed before a → a.size before ≤ 1 →
      Operand.Allowed before (.term a)

end

def Allowed (before : List Declaration) (tokens : List Token) : Prop :=
  ∃ terms, Sequence terms tokens ∧ ∀ a ∈ terms, a.Allowed before

end Expression

/-- A setting with a name for its key and a literal with a value. -/
structure Setting.Valid (s : Setting) : Prop where
  key : s.key.kind = .identifier
  literal : s.value.kind.isLiteral = true
  value : ∃ value, Literal.ofToken s.value = .ok value

/-- **Well-formed schemas.** -/
structure WellFormed (ds : List Declaration) : Prop where
  settings : ∀ d ∈ ds, ∀ s ∈ d.settings, s.Valid
  distinct : (declaredNames ds).Nodup
  undeclared : ∀ name ∈ declaredNames ds, Registry.standard.contains name = false
  generated : (generatedNames ds).Nodup
  expressions : ∀ before d after, ds = before ++ d :: after →
    ∀ tokens ∈ d.expressions, Expression.Allowed before tokens

/-! ### The terms of an expression -/

def Binding.size : Binding → Nat
  | .typeAlias constraints => constraints.length
  | .record _ _ => 1

/-- A scope that knows the names of some declarations, and how many constraints they stand for. -/
structure Scope.Knows (scope : Scope) (ds : List Declaration) : Prop where
  registry : scope.registry = .standard
  names : scope.bindings.map (·.1) = declaredNames ds
  undeclared : ∀ name ∈ declaredNames ds, Registry.standard.contains name = false
  sizes : ∀ name b, scope.bindings.lookup name = some b → b.size = flattenedSize ds name

lemma lookup_isSome {α : Type} {entries : List (String × α)} {key : String} :
    (entries.lookup key).isSome = true ↔ key ∈ entries.map (·.1) := by
  simp [List.lookup_isSome_iff, eq_comm (a := key)]

lemma lookup_eq_none {α : Type} {entries : List (String × α)} {key : String} :
    entries.lookup key = none ↔ key ∉ entries.map (·.1) := by
  rw [← lookup_isSome, Option.not_isSome_iff_eq_none]

/-- What is found with one more entry was found before, or is the new entry. -/
lemma lookup_concat {α : Type} {entries : List (String × α)} {key name : String} {a b : α}
    (h : (entries ++ [(name, a)]).lookup key = some b) :
    entries.lookup key = some b ∨ key = name ∧ b = a := by
  rw [List.lookup_append, Option.or_eq_some_iff] at h
  rcases h with h | ⟨-, h⟩
  · exact .inl h
  · by_cases heq : key = name
    · subst heq
      exact .inr ⟨rfl, by simpa [eq_comm] using h⟩
    · rw [List.lookup_cons, beq_eq_false_iff_ne.mpr heq] at h
      simp at h

lemma lookup_concat_iff {α : Type} {entries : List (String × α)} {key name : String} {a b : α}
    (hfree : entries.lookup name = none) :
    (entries ++ [(name, a)]).lookup key = some b ↔
      entries.lookup key = some b ∨ key = name ∧ b = a := by
  refine ⟨lookup_concat, ?_⟩
  rintro (h | ⟨rfl, rfl⟩)
  · simp [List.lookup_append, h]
  · simp [List.lookup_append, hfree]

lemma sizeSince_of_not_mem {ds : List Declaration} {name : String}
    (h : name ∉ declaredNames ds) : sizeSince ds name = 1 := by
  induction ds with
  | nil => rfl
  | cons d earlier ih =>
    obtain ⟨hd, hearlier⟩ : name ∉ d.names ∧ name ∉ declaredNames earlier := by
      simpa [declaredNames] using h
    cases d with
    | config keyword settings => exact ih hearlier
    | typeAlias owner body =>
      have hne : name ≠ owner.text := by simpa using hd
      rw [sizeSince, if_neg hne]
      exact ih hearlier
    | record sort owner properties => exact ih hearlier

lemma mem_declaredNames_reverse {ds : List Declaration} {name : String} :
    name ∈ declaredNames ds.reverse ↔ name ∈ declaredNames ds := by
  simp [declaredNames]

lemma flattenedSize_of_not_mem {ds : List Declaration} {name : String}
    (h : name ∉ declaredNames ds) : flattenedSize ds name = 1 :=
  sizeSince_of_not_mem (mem_declaredNames_reverse.not.mpr h)

namespace Expression

variable {scope : Scope} {ds : List Declaration} {tally : Tally}

lemma name_allowed (hscope : scope.Knows ds) {t : Token} :
    (∃ r, boundOf scope tally t = .ok r) ↔ Term.Allowed ds (.name t) := by
  have hdeclared : (scope.bindings.lookup t.text).isSome = true ↔ t.text ∈ declaredNames ds := by
    rw [lookup_isSome, hscope.names]
  constructor
  · rintro ⟨r, hr⟩
    unfold boundOf at hr
    split at hr
    · next hl => exact .declared (hdeclared.mp (by simp [hl]))
    · next hl => exact .declared (hdeclared.mp (by simp [hl]))
    · split at hr
      · next c hc =>
        rw [hscope.registry] at hc
        exact .primitive (by simp [hc])
      · split at hr <;> simp at hr
  · intro h
    unfold boundOf
    cases h with
    | primitive hprimitive =>
      obtain ⟨c, hc⟩ := Option.isSome_iff_exists.mp hprimitive
      rw [hscope.registry, hc]
      split <;> exact ⟨_, rfl⟩
    | declared hmem =>
      obtain ⟨b, hb⟩ := Option.isSome_iff_exists.mp (hdeclared.mpr hmem)
      rw [hb]
      cases b <;> exact ⟨_, rfl⟩

lemma count_boundOf (hscope : scope.Knows ds) {t : Token} {r : Bound × Tally}
    (h : boundOf scope tally t = .ok r) : r.1.count = flattenedSize ds t.text := by
  unfold boundOf at h
  split at h
  · next constraints hl =>
    obtain rfl := Except.ok.inj h
    exact hscope.sizes _ _ hl
  · next sort record hl =>
    obtain rfl := Except.ok.inj h
    exact hscope.sizes _ _ hl
  · next hl =>
    rw [lookup_eq_none, hscope.names] at hl
    split at h
    · obtain rfl := Except.ok.inj h
      exact (flattenedSize_of_not_mem hl).symm
    · split at h <;> simp at h

lemma count_evaluate (hscope : scope.Knows ds) {a : Term} {r : Bound × Tally}
    (h : a.evaluate scope tally = .ok r) : r.1.count = a.size ds := by
  cases a with
  | name t => exact count_boundOf hscope (by simpa only [Term.evaluate] using h)
  | call callee operands =>
    simp only [Term.evaluate, bind_eq_ok, pure_eq_ok] at h
    obtain ⟨factory, -, q, -, c, -, rfl⟩ := h
    rfl

/-- An operand is evaluated exactly if it is allowed, given that this holds of the terms inside. -/
lemma operand_allowed (hscope : scope.Knows ds) {o : Operand}
    (ih : ∀ a, o = .term a → ∀ tally, (∃ r, a.evaluate scope tally = .ok r) ↔ a.Allowed ds) :
    (∃ r, o.evaluate scope tally = .ok r) ↔ o.Allowed ds := by
  cases o with
  | literal t =>
    simp only [Operand.evaluate, bind_eq_ok, pure_eq_ok]
    constructor
    · rintro ⟨r, value, hvalue, -⟩
      exact .literal hvalue
    · intro h
      cases h with
      | literal hvalue => exact ⟨_, _, hvalue, rfl⟩
  | term a =>
    simp only [Operand.evaluate, bind_eq_ok, pure_eq_ok]
    constructor
    · rintro ⟨r, q, hq, argument, hargument, -⟩
      have hcount := (argumentOf_eq_ok.mp hargument).1
      rw [count_evaluate hscope hq] at hcount
      exact .term ((ih a rfl tally).mp ⟨q, hq⟩) hcount
    · intro h
      cases h with
      | term hallowed hsize =>
        obtain ⟨q, hq⟩ := (ih a rfl tally).mpr hallowed
        have hcount : q.1.count ≤ 1 := by rwa [count_evaluate hscope hq]
        exact ⟨_, q, hq, _, argumentOf_eq_ok.mpr ⟨hcount, rfl⟩, rfl⟩

lemma literal?_of_evaluate {o : Operand} {r : Argument × Tally}
    (h : o.evaluate scope tally = .ok r) : r.1.literal? = o.literal? := by
  cases o with
  | literal t =>
    simp only [Operand.evaluate, bind_eq_ok, pure_eq_ok] at h
    obtain ⟨value, hvalue, rfl⟩ := h
    simp [Operand.literal?, hvalue, Except.toOption, Argument.literal?]
  | term a =>
    simp only [Operand.evaluate, bind_eq_ok, pure_eq_ok] at h
    obtain ⟨q, -, argument, hargument, rfl⟩ := h
    obtain ⟨-, rfl⟩ := argumentOf_eq_ok.mp hargument
    rfl

lemma literals_of_evaluate {operands : List Operand} {r : List Argument × Tally}
    (h : evaluateOperands scope tally operands = .ok r) :
    r.1.map Argument.literal? = operands.map Operand.literal? := by
  induction operands generalizing tally r with
  | nil =>
    obtain rfl := Except.ok.inj h
    rfl
  | cons o rest ih =>
    simp only [evaluateOperands, bind_eq_ok, pure_eq_ok] at h
    obtain ⟨p, hp, q, hq, rfl⟩ := h
    simp [literal?_of_evaluate hp, ih hq]

lemma operands_allowed (hscope : scope.Knows ds) {operands : List Operand}
    (ih : ∀ a, Operand.term a ∈ operands → ∀ tally,
      (∃ r, a.evaluate scope tally = .ok r) ↔ a.Allowed ds) (tally : Tally) :
    (∃ r, evaluateOperands scope tally operands = .ok r) ↔ ∀ o ∈ operands, o.Allowed ds := by
  induction operands generalizing tally with
  | nil => simp [evaluateOperands]
  | cons o rest ihlist =>
    have ho : ∀ tally, (∃ r, o.evaluate scope tally = .ok r) ↔ o.Allowed ds := fun tally =>
      operand_allowed hscope fun a ha => ih a (by simp [ha])
    have hrest := ihlist fun a ha => ih a (List.mem_cons_of_mem _ ha)
    simp only [evaluateOperands, bind_eq_ok, pure_eq_ok]
    rw [List.forall_mem_cons, ← ho tally]
    constructor
    · rintro ⟨r, p, hp, q, hq, -⟩
      exact ⟨⟨p, hp⟩, (hrest p.2).mp ⟨q, hq⟩⟩
    · rintro ⟨⟨p, hp⟩, hall⟩
      obtain ⟨q, hq⟩ := (hrest p.2).mpr hall
      exact ⟨_, p, hp, q, hq, rfl⟩

/-- **A term is evaluated exactly if it is allowed.** -/
lemma term_allowed (hscope : scope.Knows ds) (a : Term) (tally : Tally) :
    (∃ r, a.evaluate scope tally = .ok r) ↔ a.Allowed ds := by
  induction a generalizing tally with
  | name t =>
    simp only [Term.evaluate]
    exact name_allowed hscope
  | call callee operands ih =>
    simp only [Term.evaluate, bind_eq_ok, pure_eq_ok, factoryOf_eq_ok, hscope.registry]
    constructor
    · rintro ⟨r, factory, hfactory, q, hq, c, hc, -⟩
      have haccepts := (Factory.build_eq_ok_iff hfactory).mp ⟨c, hc⟩
      rw [literals_of_evaluate hq] at haccepts
      exact .call ((operands_allowed hscope ih tally).mp ⟨q, hq⟩) haccepts
    · intro h
      cases h with
      | call hoperands haccepts =>
        obtain ⟨factory, hfactory⟩ := Option.isSome_iff_exists.mp haccepts.isSome
        obtain ⟨q, hq⟩ := (operands_allowed hscope ih tally).mpr hoperands
        rw [← literals_of_evaluate hq] at haccepts
        obtain ⟨c, hc⟩ := (Factory.build_eq_ok_iff hfactory).mpr haccepts
        exact ⟨_, factory, hfactory, q, hq, c, hc, rfl⟩

lemma terms_allowed (hscope : scope.Knows ds) {terms : List Term} :
    (∃ r, evaluateTerms scope tally terms = .ok r) ↔ ∀ a ∈ terms, a.Allowed ds := by
  induction terms generalizing tally with
  | nil => simp [evaluateTerms]
  | cons a rest ih =>
    simp only [evaluateTerms, bind_eq_ok, pure_eq_ok]
    rw [List.forall_mem_cons, ← term_allowed hscope a tally]
    constructor
    · rintro ⟨r, p, hp, q, hq, -⟩
      exact ⟨⟨p, hp⟩, ih.mp ⟨q, hq⟩⟩
    · rintro ⟨⟨p, hp⟩, hall⟩
      obtain ⟨q, hq⟩ := ih.mpr hall
      exact ⟨_, p, hp, q, hq, rfl⟩

/-- **An expression resolves exactly if it is allowed.** -/
lemma resolve_eq_ok_iff (hscope : scope.Knows ds) {calls : Nat} {tokens : List Token} :
    (∃ outcome, resolve scope calls tokens = .ok outcome) ↔ Allowed ds tokens := by
  constructor
  · rintro ⟨outcome, h⟩
    obtain ⟨terms, r, hterms, hr, -⟩ := terms_of_resolve h
    exact ⟨terms, hterms, (terms_allowed hscope).mp ⟨r, hr⟩⟩
  · rintro ⟨terms, hterms, hall⟩
    obtain ⟨r, hr⟩ := (terms_allowed hscope).mpr hall
    exact ⟨_, by rw [resolve_eq hterms, bind_eq_ok]; exact ⟨r, hr, rfl⟩⟩

/-! ### The constraints of an alias -/

lemma outerNames_other {t : Token} (h : t.kind.isLiteral = true ∨ t.kind = .comma) (depth : Nat)
    (rest : List Token) : outerNames depth (t :: rest) = outerNames depth rest := by
  rw [outerNames]
  split <;> simp_all [Kind.isLiteral]

lemma outerNames_operands {operands : List Operand} {inner : List Token}
    (h : Operand.Listed operands inner) {depth : Nat}
    (ih : ∀ a, Operand.term a ∈ operands → ∀ ts, a.Spelled ts → ∀ rest,
      outerNames (depth + 1) (ts ++ rest) = outerNames (depth + 1) rest) (rest : List Token) :
    outerNames (depth + 1) (inner ++ rest) = outerNames (depth + 1) rest := by
  refine h.induct (motive := fun ts => ∀ rest,
    outerNames (depth + 1) (ts ++ rest) = outerNames (depth + 1) rest) ?_ ?_ ?_ ih rest
  · exact fun _ => rfl
  · intro ts us hts hus rest
    rw [List.append_assoc, hts, hus]
  · exact fun t ht rest => outerNames_other ht _ rest

lemma outerNames_inner (a : Term) {ts : List Token} (h : a.Spelled ts) (depth : Nat)
    (rest : List Token) : outerNames (depth + 1) (ts ++ rest) = outerNames (depth + 1) rest := by
  induction a generalizing ts depth rest with
  | name t =>
    cases h with
    | name ht => simp [outerNames, ht]
  | call callee operands ih =>
    cases h with
    | call hcallee hopener hcloser hlisted =>
      have hinner := outerNames_operands hlisted fun a ha ts hts => ih a ha hts (depth + 1)
      simp [outerNames, hcallee, hopener, hinner, hcloser]

/-- The outer names of an expression are those that its terms start with. -/
lemma Sequence.outerNames {terms : List Term} {tokens : List Token} (h : Sequence terms tokens) :
    outerNames 0 tokens = terms.map (·.token.text) := by
  induction h with
  | nil => rfl
  | @cons a rest ts more ha _ ih =>
    cases ha with
    | name ht => simp [TypeGuard.outerNames, ht, ih, Term.token]
    | call hcallee hopener hcloser hlisted =>
      have hinner (rest : List Token) := outerNames_operands hlisted
        (fun a _ ts hts => outerNames_inner a hts 0) rest
      simp [TypeGuard.outerNames, hcallee, hopener, hinner, hcloser, ih, Term.token]

/-- A call stands for one constraint, as its name does: it is not declared. -/
lemma size_eq (hscope : scope.Knows ds) {a : Term} (h : a.Allowed ds) :
    a.size ds = flattenedSize ds a.token.text := by
  cases h with
  | primitive _ | declared _ => rfl
  | @call callee operands _ haccepts =>
    have hnot : callee.text ∉ declaredNames ds := by
      intro hmem
      have hcontains := hscope.undeclared _ hmem
      simp [Registry.contains, haccepts.isSome] at hcontains
    exact (flattenedSize_of_not_mem hnot).symm

lemma length_aliasConstraints (b : Bound) : (Resolution.aliasConstraints b).length = b.count := by
  cases b <;> rfl

lemma counts_evaluate (hscope : scope.Knows ds) {terms : List Term} {r : List Bound × Tally}
    (h : evaluateTerms scope tally terms = .ok r) :
    r.1.map (·.count) = terms.map fun a => flattenedSize ds a.token.text := by
  induction terms generalizing tally r with
  | nil =>
    obtain rfl := Except.ok.inj h
    rfl
  | cons a rest ih =>
    simp only [evaluateTerms, bind_eq_ok, pure_eq_ok] at h
    obtain ⟨p, hp, q, hq, rfl⟩ := h
    have hallowed := (term_allowed hscope a tally).mp ⟨p, hp⟩
    simp [ih hq, count_evaluate hscope hp, size_eq hscope hallowed]

/-- **The constraints of an alias** are as many as the names in its body stand for. -/
lemma length_constraints (hscope : scope.Knows ds) {calls : Nat} {tokens : List Token}
    {outcome : Outcome} (h : resolve scope calls tokens = .ok outcome) :
    (outcome.terms.flatMap Resolution.aliasConstraints).length =
      ((outerNames 0 tokens).map (flattenedSize ds)).sum := by
  obtain ⟨terms, r, hterms, hr, rfl⟩ := terms_of_resolve h
  have hcounts := counts_evaluate hscope hr
  rw [hterms.outerNames, List.length_flatMap]
  simp only [length_aliasConstraints, hcounts, List.map_map, Function.comp_def]

end Expression

end TypeGuard
