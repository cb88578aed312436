import TypeGuard.Proofs.Derivation
import TypeGuard.Proofs.OneLine
import TypeGuard.Proofs.TypeUnion

/-!
The code that constraints are written as.

The code of a constraint stays on one line, under every name that does, and the statements that it
needs declare patterns only. Both hold of primitive types and of names, and every factory keeps
them; so they hold of all that an expression resolves to.
-/

namespace TypeGuard

open Outcome Text

/-! ### Templates of statements -/

mutual

/-- The statements of a constraint with the placeholder still in them. -/
def Constraint.templates : Constraint → List String
  | ⟨_, _, _, preamble, dependencies⟩ => preamble.toList ++ dependencyTemplates dependencies

def dependencyTemplates : List Dependency → List String
  | [] => []
  | d :: rest => d.templates ++ dependencyTemplates rest

def Dependency.templates : Dependency → List String
  | .binding _ _ => []
  | .inline _ target => target.templates

end

mutual

theorem Constraint.statements_eq (name : String) :
    ∀ c : Constraint, c.statements name = c.templates.map (fill name)
  | ⟨_, _, _, preamble, dependencies⟩ => by
    rw [Constraint.statements, Constraint.templates, dependencyStatements_eq name dependencies,
      List.map_append]
    cases preamble <;> rfl

theorem dependencyStatements_eq (name : String) :
    ∀ ds : List Dependency, dependencyStatements name ds = (dependencyTemplates ds).map (fill name)
  | [] => by rw [dependencyStatements, dependencyTemplates, List.map_nil]
  | d :: rest => by
    rw [dependencyStatements, dependencyTemplates, List.map_append, d.statements_eq name,
      dependencyStatements_eq name rest]

theorem Dependency.statements_eq (name : String) :
    ∀ d : Dependency, d.statements name = d.templates.map (fill name)
  | .binding _ _ => by rw [Dependency.statements, Dependency.templates, List.map_nil]
  | .inline _ target => by
    rw [Dependency.statements, Dependency.templates, target.statements_eq name]

end

/-! ### Code on one line -/

def IsPattern (statement : String) : Prop :=
  ∃ call source flags, statement = Factory.patternStatement call source flags

mutual

/-- A constraint whose code and types stay on one line, and whose statements declare patterns. -/
def Constraint.Neat : Constraint → Prop
  | ⟨_, type, code, preamble, dependencies⟩ =>
    (∀ name ∈ type.members, OneLine name) ∧ OneLine code ∧
      (∀ statement ∈ preamble, IsPattern statement) ∧ allNeat dependencies

def allNeat : List Dependency → Prop
  | [] => True
  | d :: rest => d.Neat ∧ allNeat rest

def Dependency.Neat : Dependency → Prop
  | .binding symbol target => OneLine symbol ∧ OneLine target
  | .inline symbol target => OneLine symbol ∧ target.Neat

end

lemma oneLine_fill {name text : String} (hname : OneLine name) (htext : OneLine text) :
    OneLine (fill name text) :=
  oneLine_substitute hname htext

lemma oneLine_typeText {type : TypeUnion} (h : ∀ name ∈ type.members, OneLine name) :
    OneLine type.text := by
  unfold TypeUnion.text
  split
  · decide
  · exact oneLine_intercalate (by decide) h

lemma allNeat_symbol {ds : List Dependency} (h : allNeat ds) : ∀ d ∈ ds, OneLine d.symbol := by
  induction ds with
  | nil => simp
  | cons d rest ih =>
    rw [allNeat] at h
    refine List.forall_mem_cons.mpr ⟨?_, ih h.2⟩
    have hd := h.1
    cases d <;> (rw [Dependency.Neat] at hd; exact hd.1)

lemma Constraint.Neat.type {c : Constraint} (h : c.Neat) :
    ∀ name ∈ c.type.members, OneLine name := by
  cases c
  rw [Constraint.Neat] at h
  exact h.1

lemma oneLine_retrieval {symbol : String} (h : OneLine symbol) : OneLine (retrieval symbol) := by
  rw [retrieval, oneLine_append]
  exact ⟨by decide, h⟩

lemma oneLine_accessor {symbol : String} (h : OneLine symbol) : OneLine (accessor symbol) := by
  have hretrieval := oneLine_retrieval h
  unfold accessor
  simp only [oneLine_append, h, hretrieval, and_true]
  and_intros <;> decide

mutual

/-- **The code of a neat constraint stays on one line.** -/
theorem Constraint.Neat.oneLine {name : String} (hname : OneLine name) :
    ∀ {c : Constraint}, c.Neat → OneLine (c.codeAs name)
  | ⟨_, type, code, preamble, dependencies⟩, h => by
    rw [Constraint.Neat] at h
    obtain ⟨htype, hcode, -, hdependencies⟩ := h
    have hretrievals := allNeat.oneLine hname hdependencies
    have hfill := oneLine_fill hname hcode
    have htext := oneLine_typeText htype
    have hsymbols : ∀ symbol ∈ dependencies.map fun d => fill name d.symbol, OneLine symbol := by
      intro symbol hmem
      obtain ⟨d, hd, rfl⟩ := List.mem_map.mp hmem
      exact oneLine_fill hname (allNeat_symbol hdependencies d hd)
    unfold Constraint.codeAs
    cases dependencies with
    | nil =>
      simp only [oneLine_append, hfill, htext, and_true]
      and_intros <;> decide
    | cons d rest =>
      have hcomma : OneLine ", " := by decide
      have hheads := oneLine_intercalate hcomma
        (List.forall_mem_map.mpr fun symbol hmem => oneLine_retrieval (hsymbols symbol hmem))
      have haccessors := oneLine_join
        (List.forall_mem_map.mpr fun symbol hmem => oneLine_accessor (hsymbols symbol hmem))
      have hbodies := oneLine_intercalate hcomma hretrievals
      simp only [oneLine_append, hfill, htext, hheads, haccessors, hbodies, and_true]
      and_intros <;> decide

theorem allNeat.oneLine {name : String} (hname : OneLine name) :
    ∀ {ds : List Dependency}, allNeat ds → ∀ code ∈ retrievals name ds, OneLine code
  | [], _ => by simp [retrievals]
  | d :: rest, h => by
    rw [allNeat] at h
    rw [retrievals]
    exact List.forall_mem_cons.mpr ⟨h.1.oneLine hname, allNeat.oneLine hname h.2⟩

theorem Dependency.Neat.oneLine {name : String} (hname : OneLine name) :
    ∀ {d : Dependency}, d.Neat → OneLine (d.retrieved name)
  | .binding symbol target, h => by
    rw [Dependency.Neat] at h
    rw [Dependency.retrieved, oneLine_append]
    exact ⟨by decide, h.2⟩
  | .inline symbol target, h => by
    rw [Dependency.Neat] at h
    rw [Dependency.retrieved, oneLine_append]
    exact ⟨by decide, h.2.oneLine hname⟩

end

mutual

theorem Constraint.Neat.isPattern :
    ∀ {c : Constraint}, c.Neat → ∀ statement ∈ c.templates, IsPattern statement
  | ⟨_, _, _, preamble, dependencies⟩, h => by
    rw [Constraint.Neat] at h
    obtain ⟨-, -, hpreamble, hdependencies⟩ := h
    have hrest := allNeat.isPattern hdependencies
    rw [Constraint.templates]
    intro statement hmem
    rcases List.mem_append.mp hmem with hmem | hmem
    · exact hpreamble statement (by simpa using hmem)
    · exact hrest statement hmem

theorem allNeat.isPattern :
    ∀ {ds : List Dependency}, allNeat ds → ∀ statement ∈ dependencyTemplates ds, IsPattern statement
  | [], _ => by simp [dependencyTemplates]
  | d :: rest, h => by
    rw [allNeat] at h
    rw [dependencyTemplates]
    exact List.forall_mem_append.mpr ⟨h.1.isPattern, allNeat.isPattern h.2⟩

theorem Dependency.Neat.isPattern :
    ∀ {d : Dependency}, d.Neat → ∀ statement ∈ d.templates, IsPattern statement
  | .binding _ _, _ => by simp [Dependency.templates]
  | .inline _ target, h => by
    rw [Dependency.Neat] at h
    rw [Dependency.templates]
    exact h.2.isPattern

end

/-! ### The factories -/

lemma oneLine_primitive (type : Primitive) : OneLine type.name := by
  cases type <;> decide

lemma oneLine_message (misuse : RangeMisuse) : OneLine misuse.message := by
  cases misuse <;> decide +kernel

lemma oneLine_typeTest (type : Primitive) : OneLine (Factory.typeTest type) := by
  unfold Factory.typeTest
  simp only [oneLine_append, oneLine_primitive, and_true]
  and_intros <;> decide

lemma oneLine_returned (misuse : RangeMisuse) : OneLine (Factory.returned misuse) := by
  unfold Factory.returned
  simp only [oneLine_append, oneLine_message, and_true]
  and_intros <;> decide

lemma oneLine_rangeCode (start stop step : Option Float) :
    OneLine (Factory.rangeCode start stop step) := by
  unfold Factory.rangeCode
  simp only
  split
  · simp only [oneLine_append, oneLine_typeTest, oneLine_returned, oneLine_numberText, and_true]
    and_intros <;> decide
  · simp only [oneLine_append, oneLine_typeTest, oneLine_returned, oneLine_numberText, and_true]
    and_intros <;> decide
  · split
    · simp only [oneLine_append, oneLine_typeTest, oneLine_message, oneLine_numberText, and_true]
      and_intros <;> decide
    · simp only [oneLine_append, oneLine_typeTest, oneLine_numberText, and_true]
      and_intros <;> decide
  · simp only [oneLine_append, oneLine_message, and_true]
    and_intros <;> decide

lemma oneLine_limitCode (l : Limit) : OneLine (Factory.limitCode l) := by
  have hmeasure : OneLine (Factory.measureCode l.measure) := by
    cases l.measure <;> decide
  have hoperator : OneLine (Factory.operator l.side l.exclusive) := by
    cases l.side <;> cases l.exclusive <;> decide
  unfold Factory.limitCode
  simp only [oneLine_append, oneLine_typeTest, oneLine_numberText, hmeasure, hoperator, and_true]
  and_intros <;> decide

lemma plain_neat {check : Check} {type : TypeUnion} {code : String}
    (htype : ∀ name ∈ type.members, OneLine name) (hcode : OneLine code) :
    (Constraint.plain check type code).Neat := by
  rw [Constraint.plain, Constraint.Neat]
  exact ⟨htype, hcode, by simp, by simp [allNeat]⟩

lemma Primitive.constraint_neat (type : Primitive) : type.constraint.Neat := by
  refine plain_neat ?_ ?_
  · simpa [TypeUnion.named] using oneLine_primitive type
  · rw [oneLine_append]
    exact ⟨by decide, oneLine_typeTest type⟩

lemma Factory.build_neat {name : String} {factory : Factory} {call : Call} {args : List Argument}
    {c : Constraint} (hfactory : Registry.standard.factory? name = some factory)
    (hargs : ∀ inner, .constraint inner ∈ args → inner.Neat)
    (hbuild : factory.build call args = .ok c) : c.Neat := by
  revert hbuild
  refine Factory.standard_cases (motive := fun factory => factory.build call args = .ok c → c.Neat)
    ?_ ?_ ?_ ?_ hfactory
  · intro hbuild
    obtain ⟨-, start, stop, step, -, -, -, rfl⟩ := range_eq_ok.mp hbuild
    refine plain_neat ?_ (oneLine_rangeCode start stop step)
    simp only [TypeUnion.ofList, List.foldl, TypeUnion.mem_insert]
    rintro member ((hmem | rfl) | rfl)
    · simp [TypeUnion.empty] at hmem
    · decide
    · decide
  · intro hbuild
    obtain ⟨-, source, flags, reading, p, -, -, -, -, -, rfl⟩ := pattern_eq_ok.mp hbuild
    rw [Constraint.Neat]
    refine ⟨?_, ?_, ?_, by simp [allNeat]⟩
    · simp only [TypeUnion.named, List.mem_singleton, forall_eq]
      decide
    · unfold patternSymbol
      simp only [oneLine_append, oneLine_typeTest, oneLine_nat, and_true]
      and_intros <;> decide
    · rintro statement ⟨⟩
      exact ⟨call, _, _, rfl⟩
  · intro name side measure hbuild
    obtain ⟨-, bound, exclusive, -, -, rfl⟩ := limit_eq_ok.mp hbuild
    refine plain_neat ?_ (oneLine_limitCode _)
    simpa [TypeUnion.named] using oneLine_primitive (limitType measure)
  · intro hbuild
    obtain ⟨inner, rfl, rfl⟩ := optional_eq_ok.mp hbuild
    have hinner := hargs inner (by simp)
    have hsymbol : OneLine (optionalSymbol call) := by
      unfold optionalSymbol
      simp only [oneLine_append, oneLine_nat, and_true]
      and_intros <;> decide
    rw [Constraint.Neat]
    refine ⟨?_, ?_, by simp, ?_⟩
    · intro member hmem
      rcases TypeUnion.mem_extend.mp hmem with hmem | hmem
      · exact hinner.type member hmem
      · obtain rfl := List.mem_singleton.mp hmem
        decide
    · unfold optionalCode
      simp only [oneLine_append, hsymbol, and_true]
      and_intros <;> decide
    · simp only [allNeat, Dependency.Neat, and_true]
      exact ⟨hsymbol, hinner⟩

/-! ### Names -/

lemma typeAlias_neat {name : String} {constraints : List Constraint} (hname : OneLine name)
    (h : ∀ c ∈ constraints, c.Neat) : (Bound.typeAlias name constraints).toConstraint.Neat := by
  rw [Bound.toConstraint, Constraint.Neat]
  refine ⟨?_, ?_, by simp, ?_⟩
  · intro member hmem
    obtain ⟨c, hc, hmem⟩ := mem_typeOf.mp hmem
    exact (h c hc).type member hmem
  · simp only [oneLine_append, hname, and_true]
    and_intros <;> decide
  · simp only [allNeat, Dependency.Neat, Role.symbol, oneLine_append, hname, and_true]
    and_intros <;> decide

lemma record_neat {r : Record} {binding : String} (hname : OneLine r.name)
    (hbinding : OneLine binding) : (Bound.record r binding).toConstraint.Neat := by
  rw [Bound.toConstraint, Constraint.Neat]
  refine ⟨by simpa [TypeUnion.named] using hname, ?_, by simp, ?_⟩
  · simp only [oneLine_append, hname, and_true]
    and_intros <;> decide
  · simp only [allNeat, Dependency.Neat, oneLine_append, hname, hbinding, and_true]
    decide

/-- A property of constraints that holds of all that the names of a scope stand for, and that its
factories keep. -/
structure Scope.Keeps (scope : Scope) (P : Constraint → Prop) : Prop where
  primitive {name : String} {c : Constraint} : scope.registry.primitive? name = some c → P c
  call {name : String} {factory : Factory} {call : Call} {args : List Argument} {c : Constraint} :
    scope.registry.factory? name = some factory → (∀ inner, .constraint inner ∈ args → P inner) →
    factory.build call args = .ok c → P c
  typeAlias {name : String} {cs : List Constraint} :
    scope.bindings.lookup name = some (.typeAlias cs) →
    P (Bound.typeAlias name cs).toConstraint ∧ ∀ c ∈ cs, P c
  record {name : String} {sort : RecordSort} {r : Record} :
    scope.bindings.lookup name = some (.record sort r) →
    P (Bound.record r ((Role.record sort).symbol name)).toConstraint

lemma Expression.resolve_has {scope : Scope} {P : Constraint → Prop} (hscope : scope.Keeps P)
    {calls : Nat} {tokens : List Token} {outcome : Outcome}
    (h : resolve scope calls tokens = .ok outcome) : ∀ b ∈ outcome.terms, b.Has P := by
  refine resolve_keeps ⟨hscope.primitive, ?_, ?_, ?_⟩ h
  · exact fun hfactory _ hargs hc => hscope.call hfactory hargs hc
  · exact fun _ _ hl => hscope.typeAlias hl
  · exact fun _ _ hl => hscope.record hl

end TypeGuard
