import TypeGuard.Proofs.Outcome
import TypeGuard.Schema.Resolve

/-!
What resolving one declaration takes and what it adds to the schema.
-/

namespace TypeGuard

def Schema.records (s : Schema) : List Record := (s.definitions ++ s.models).map (·.record)

namespace Resolution

open Outcome

variable {registry : Registry} {r r' : Resolution}

lemma checkFree_eq_ok {scope : Scope} {name : Token} :
    checkFree scope name = .ok () ↔ scope.contains name.text = false := by
  unfold checkFree
  split <;> simp_all

lemma reserve_eq_ok {owner symbol : String} {anchor : Token}
    {symbols symbols' : List (String × String)} :
    reserve owner symbol anchor symbols = .ok symbols' ↔
      symbols.lookup symbol = none ∧ symbols' = (symbol, owner) :: symbols := by
  unfold reserve
  cases symbols.lookup symbol with
  | none => simp [eq_comm]
  | some previous => simp

lemma settings_eq_ok {keyword : Token} {settings : List Setting} :
    r.declaration registry (.config keyword settings) = .ok r' ↔
      ∃ config, settings.foldlM setting r.config = .ok config ∧
        r' = { r with config := config } := by
  rw [declaration, bind_eq_ok]
  simp only [pure_eq_ok, eq_comm (b := r')]

lemma typeAlias_eq_ok {name : Token} {body : List Token} :
    r.typeAlias registry name body = .ok r' ↔
      Scope.contains ⟨registry, r.bindings⟩ name.text = false ∧
      r.symbols.lookup (Role.typeAlias.symbol name.text) = none ∧
      ∃ outcome, Expression.resolve ⟨registry, r.bindings⟩ r.calls body = .ok outcome ∧
        r' = { r with
          aliases := r.aliases ++ [⟨name.text, outcome.terms.flatMap aliasConstraints⟩]
          dependencies := r.dependencies ++ [(name.text, outcome.references.eraseDups)]
          bindings := r.bindings ++
            [(name.text, .typeAlias (outcome.terms.flatMap aliasConstraints))]
          symbols := (Role.typeAlias.symbol name.text, name.text) :: r.symbols
          calls := outcome.calls } := by
  simp only [typeAlias, bind_eq_ok, pure_eq_ok]
  constructor
  · rintro ⟨⟨⟩, hfree, symbols, hsym, outcome, ho, rfl⟩
    obtain ⟨hl, rfl⟩ := reserve_eq_ok.mp hsym
    exact ⟨checkFree_eq_ok.mp hfree, hl, outcome, ho, rfl⟩
  · rintro ⟨hfree, hl, outcome, ho, rfl⟩
    exact ⟨(), checkFree_eq_ok.mpr hfree, _, reserve_eq_ok.mpr ⟨hl, rfl⟩, outcome, ho, rfl⟩

/-- A property adds its constraints, statements and reserved name to the record under way. -/
lemma property_eq_ok {scope : Scope} {owner : String} {p p' : Progress} {line : PropertyLine} :
    property scope owner p line = .ok p' ↔
      (p.properties.any (·.name == line.name.text)) = false ∧
      p.symbols.lookup (propertySymbol owner line.name.text) = none ∧
      ∃ outcome, Expression.resolve scope p.calls line.expression = .ok outcome ∧
        p' = {
          properties := p.properties ++ [⟨line.name.text,
            typeOf (outcome.terms.map Bound.toConstraint), outcome.terms.map Bound.toConstraint⟩]
          statements := p.statements ++ (outcome.terms.map Bound.toConstraint).flatMap
              (·.statements (propertySymbol owner line.name.text))
            ++ [propertyStatement (propertySymbol owner line.name.text)
              (outcome.terms.map Bound.toConstraint)]
          references := p.references ++ outcome.references
          symbols := (propertySymbol owner line.name.text, owner) :: p.symbols
          calls := outcome.calls } := by
  by_cases hany : (p.properties.any (·.name == line.name.text)) = true
  · simp only [property, hany, if_true, bind_eq_ok, throw_ne_ok, false_and, exists_false]
    simp
  · simp only [property, hany, if_false, bind_eq_ok, pure_eq_ok, true_and, Bool.false_eq_true]
    constructor
    · rintro ⟨symbols, hsym, outcome, ho, rfl⟩
      obtain ⟨hl, rfl⟩ := reserve_eq_ok.mp hsym
      exact ⟨hl, outcome, ho, rfl⟩
    · rintro ⟨hl, outcome, ho, rfl⟩
      exact ⟨_, reserve_eq_ok.mpr ⟨hl, rfl⟩, outcome, ho, rfl⟩

/-- A record resolves its properties one after the other and adds an entry and a binding. -/
lemma record_eq_ok {sort : RecordSort} {name : Token} {lines : List PropertyLine} :
    r.record registry sort name lines = .ok r' ↔
      Scope.contains ⟨registry, r.bindings⟩ name.text = false ∧
      r.symbols.lookup ((Role.record sort).symbol name.text) = none ∧
      (((Role.record sort).symbol name.text, name.text) :: r.symbols).lookup
        (membersSymbol name.text) = none ∧
      ∃ p, lines.foldlM (property ⟨registry, r.bindings⟩ name.text)
          ⟨[], [], [], (membersSymbol name.text, name.text) ::
            ((Role.record sort).symbol name.text, name.text) :: r.symbols, r.calls⟩ = .ok p ∧
        r' = { r with
          definitions := r.definitions ++
            if sort = .definition then [entry ⟨name.text, p.properties⟩] else []
          models := r.models ++ if sort = .model then [entry ⟨name.text, p.properties⟩] else []
          statements := r.statements ++ p.statements ++ [membersStatement name.text p.properties]
          dependencies := r.dependencies ++ [(name.text, p.references.eraseDups)]
          bindings := r.bindings ++ [(name.text, .record sort ⟨name.text, p.properties⟩)]
          symbols := p.symbols
          calls := p.calls } := by
  simp only [record, bind_eq_ok]
  constructor
  · rintro ⟨⟨⟩, hfree, symbols, hsym, symbols', hsym', p, hp, hr⟩
    obtain ⟨hl, rfl⟩ := reserve_eq_ok.mp hsym
    obtain ⟨hl', rfl⟩ := reserve_eq_ok.mp hsym'
    refine ⟨checkFree_eq_ok.mp hfree, hl, hl', p, hp, ?_⟩
    cases sort <;> simpa using (pure_eq_ok.mp hr).symm
  · rintro ⟨hfree, hl, hl', p, hp, rfl⟩
    refine ⟨(), checkFree_eq_ok.mpr hfree, _, reserve_eq_ok.mpr ⟨hl, rfl⟩, _,
      reserve_eq_ok.mpr ⟨hl', rfl⟩, p, hp, ?_⟩
    cases sort <;> simp [pure_eq_ok]

/-! ### The records of a schema -/

lemma mem_records_added {sort : RecordSort} {definitions models : List RecordEntry}
    {e : RecordEntry} {rec : Record} :
    rec ∈ ((definitions ++ if sort = .definition then [e] else []) ++
        (models ++ if sort = .model then [e] else [])).map (·.record) ↔
      rec ∈ (definitions ++ models).map (·.record) ∨ rec = e.record := by
  cases sort <;> simp [or_comm, or_left_comm, eq_comm]

lemma records_subset {d : Declaration} (h : r.declaration registry d = .ok r') :
    ∀ rec ∈ r.schema.records, rec ∈ r'.schema.records := by
  cases d with
  | config keyword settings =>
    obtain ⟨config, -, rfl⟩ := settings_eq_ok.mp h
    exact fun rec hrec => hrec
  | typeAlias name body =>
    obtain ⟨-, -, outcome, -, rfl⟩ := typeAlias_eq_ok.mp h
    exact fun rec hrec => hrec
  | record sort name lines =>
    obtain ⟨-, -, -, p, -, rfl⟩ := record_eq_ok.mp h
    exact fun rec hrec => mem_records_added.mpr (.inl hrec)

/-- The name of a record is not one that needs no declaration. -/
lemma contains_of_declaration {d : Declaration}
    (hr : ∀ rec ∈ r.schema.records, registry.contains rec.name = false)
    (h : r.declaration registry d = .ok r') :
    ∀ rec ∈ r'.schema.records, registry.contains rec.name = false := by
  cases d with
  | config keyword settings =>
    obtain ⟨config, -, rfl⟩ := settings_eq_ok.mp h
    exact hr
  | typeAlias name body =>
    obtain ⟨-, -, outcome, -, rfl⟩ := typeAlias_eq_ok.mp h
    exact hr
  | record sort name lines =>
    obtain ⟨hfree, -, -, p, -, rfl⟩ := record_eq_ok.mp h
    intro rec hrec
    rcases mem_records_added.mp hrec with hrec | rfl
    · exact hr rec hrec
    · exact (Bool.or_eq_false_iff.mp hfree).2

end Resolution

lemma contains_of_resolveWith {registry : Registry} {ds : List Declaration} {s : Schema}
    (h : resolveWith registry ds = .ok s) :
    ∀ rec ∈ s.records, registry.contains rec.name = false := by
  obtain ⟨r, hr, hs⟩ := Outcome.bind_eq_ok.mp h
  obtain rfl := Outcome.pure_eq_ok.mp hs
  exact Outcome.foldlM_induct
    (fun r => ∀ rec ∈ r.schema.records, registry.contains rec.name = false)
    (fun d _ r r' hr hstep => Resolution.contains_of_declaration hr hstep)
    (by simp [Resolution.initial, Resolution.schema, Schema.records]) hr

end TypeGuard
