import TypeGuard.Proofs.Closure
import TypeGuard.Proofs.Evaluation
import TypeGuard.Proofs.Factory
import TypeGuard.Proofs.Pipeline
import TypeGuard.Proofs.TypeUnion

/-!
The types that are written out are those of the values that pass.

A type name stands for values, which may be absent: the names of primitive types for the values of
that type, `undefined` for no value at all, and the name of a record for everything whose fields
inhabit the types of its properties. A constraint is sound if every value that passes inhabits a
member of its type, and all constraints of a schema are.
-/

namespace TypeGuard

mutual

/-- Whether a value, which may be absent, belongs to the type of a name. -/
inductive Inhabits (records : List Record) : String → Option Value → Prop where
  | string (s : String) : Inhabits records "string" (some (.string s))
  | number (x : Float) : Inhabits records "number" (some (.number x))
  | boolean (b : Bool) : Inhabits records "boolean" (some (.bool b))
  | undefined : Inhabits records "undefined" none
  | record {r : Record} {v : Option Value} :
      r ∈ records → HasFields records r.properties v → Inhabits records r.name v

/-- Whether every field of a value belongs to a member of the type of its property. A value that is
absent or not an object has no fields. -/
inductive HasFields (records : List Record) : List Property → Option Value → Prop where
  | nil {v : Option Value} : HasFields records [] v
  | cons {p : Property} {rest : List Property} {member : String} {v : Option Value} :
      member ∈ p.type.members → Inhabits records member (v.bind (·.field? p.name)) →
      HasFields records rest v → HasFields records (p :: rest) v

end

lemma hasFields_of_forall {records : List Record} {ps : List Property} {v : Option Value}
    (h : ∀ p ∈ ps, ∃ member ∈ p.type.members, Inhabits records member (v.bind (·.field? p.name))) :
    HasFields records ps v := by
  induction ps with
  | nil => exact .nil
  | cons p rest ih =>
    obtain ⟨⟨member, hm, hi⟩, hrest⟩ := List.forall_mem_cons.mp h
    exact .cons hm hi (ih hrest)

/-- Every value that passes inhabits a member of the type. -/
def Constraint.Sound (records : List Record) (c : Constraint) : Prop :=
  ∀ v, c.evaluate v = .ok .pass → ∃ member ∈ c.type.members, Inhabits records member v

variable {records : List Record}

/-! ### Primitive types and factories -/

lemma Primitive.inhabits_of_accepts {type : Primitive} {v : Option Value}
    (h : type.accepts v = true) : Inhabits records type.name v := by
  unfold Primitive.accepts at h
  split at h
  · exact .string _
  · exact .number _
  · exact .boolean _
  · simp at h

lemma Primitive.constraint_sound (type : Primitive) : type.constraint.Sound records := by
  intro v h
  rw [Constraint.evaluate_eq] at h
  simp only [Primitive.constraint, Constraint.plain, Check.evaluate, Except.ok.injEq,
    Verdict.ofBool_eq_pass] at h
  exact ⟨type.name, by simp [Primitive.constraint, Constraint.plain, TypeUnion.named],
    inhabits_of_accepts h⟩

lemma number_or_string_of_range {start stop step : Option Float} {v : Option Value}
    (h : evaluateRange start stop step v = .ok .pass) :
    (Value.number? v).isSome ∨ (Value.string? v).isSome := by
  by_contra hno
  obtain ⟨hn, hs⟩ : Value.number? v = none ∧ Value.string? v = none := by simpa using hno
  unfold evaluateRange at h
  simp only [hn, hs, Value.length?, Option.isSome_none, Option.any_none, Verdict.ofBool,
    Bool.false_eq_true, if_false, Option.map_none] at h
  split at h <;> repeat' split at h
  all_goals simp at h

lemma inhabits_of_number {v : Option Value} (h : (Value.number? v).isSome) :
    Inhabits records "number" v := by
  unfold Value.number? at h
  split at h
  · exact .number _
  · simp at h

lemma inhabits_of_string {v : Option Value} (h : (Value.string? v).isSome) :
    Inhabits records "string" v := by
  unfold Value.string? at h
  split at h
  · exact .string _
  · simp at h

lemma limit_sound {l : Limit} {code : String} :
    Constraint.Sound records
      (.plain (.limit l) (.named (Factory.limitType l.measure).name) code) := by
  intro v h
  rw [Constraint.evaluate_eq] at h
  simp only [Constraint.plain, Check.evaluate, Except.ok.injEq, Verdict.ofBool_eq_pass,
    Limit.admits, Option.any_eq_true] at h
  obtain ⟨x, hx, -⟩ := h
  refine ⟨(Factory.limitType l.measure).name, by simp [Constraint.plain, TypeUnion.named], ?_⟩
  unfold Limit.measured at hx
  cases hm : l.measure with
  | value =>
    rw [hm] at hx
    exact inhabits_of_number (by simp only at hx; simp [hx])
  | length =>
    rw [hm] at hx
    obtain ⟨s, hs, -⟩ := Option.map_eq_some_iff.mp hx
    exact inhabits_of_string (by simp [hs])

lemma optional_cases {inner : Constraint} {v : Option Value}
    (h : (Check.optional inner).evaluate v = .ok .pass) :
    inner.evaluate v = .ok .pass ∨ v = none := by
  rw [Check.evaluate] at h
  split at h
  · exact .inr (by simpa [Verdict.ofBool_eq_pass] using h)
  · exact .inl h

lemma build_sound {name : String} {factory : Factory} {call : Call} {args : List Argument}
    {c : Constraint} (hf : Registry.standard.factory? name = some factory)
    (hargs : ∀ inner, .constraint inner ∈ args → inner.Sound records)
    (h : factory.build call args = .ok c) : c.Sound records := by
  revert h
  refine Factory.standard_cases (motive := fun factory => factory.build call args = .ok c → _)
    ?_ ?_ ?_ ?_ hf
  · intro h
    obtain ⟨-, start, stop, step, -, -, -, rfl⟩ := Factory.range_eq_ok.mp h
    intro v hv
    rw [Constraint.evaluate_eq] at hv
    simp only [Constraint.plain, Check.evaluate] at hv
    have hmembers : (TypeUnion.ofList ["string", "number"]).members = ["string", "number"] := by
      decide
    rcases number_or_string_of_range hv with hn | hs
    · exact ⟨"number", by simp [Constraint.plain, hmembers], inhabits_of_number hn⟩
    · exact ⟨"string", by simp [Constraint.plain, hmembers], inhabits_of_string hs⟩
  · intro h
    obtain ⟨-, source, flags, reading, p, -, -, -, -, -, rfl⟩ := Factory.pattern_eq_ok.mp h
    intro v hv
    rw [Constraint.evaluate_eq] at hv
    simp only [Check.evaluate, Except.ok.injEq, Verdict.ofBool_eq_pass, Option.any_eq_true] at hv
    obtain ⟨s, hs, -⟩ := hv
    exact ⟨"string", by simp [TypeUnion.named], inhabits_of_string (by simp [hs])⟩
  · intro name side measure h
    obtain ⟨-, bound, exclusive, -, -, rfl⟩ := Factory.limit_eq_ok.mp h
    exact limit_sound
  · intro h
    obtain ⟨inner, rfl, rfl⟩ := Factory.optional_eq_ok.mp h
    intro v hv
    rw [Constraint.evaluate_eq] at hv
    rcases optional_cases hv with hi | rfl
    · obtain ⟨member, hm, hin⟩ := hargs inner (by simp) v hi
      exact ⟨member, TypeUnion.mem_extend.mpr (.inl hm), hin⟩
    · exact ⟨"undefined", TypeUnion.mem_extend.mpr (.inr (by simp [TypeUnion.named])), .undefined⟩

/-! ### Aliases and records -/

/-- A value that passes sound constraints, of which there is one, inhabits a member of the union of
their types. -/
lemma inhabits_of_forall {cs : List Constraint} {v : Option Value} (hne : cs ≠ [])
    (hcs : ∀ c ∈ cs, c.Sound records) (h : ∀ c ∈ cs, c.evaluate v = .ok .pass) :
    ∃ member ∈ (typeOf cs).members, Inhabits records member v := by
  obtain ⟨c, hc⟩ := List.exists_mem_of_ne_nil cs hne
  obtain ⟨member, hm, hin⟩ := hcs c hc v (h c hc)
  exact ⟨member, mem_typeOf.mpr ⟨c, hc, hm⟩, hin⟩

lemma Record.Made.inhabits {r : Record} (hr : r.Made (Constraint.Sound records))
    {v : Option Value} (h : r.evaluate v = .ok true) :
    ∀ p ∈ r.properties,
      ∃ member ∈ p.type.members, Inhabits records member (v.bind (·.field? p.name)) := by
  intro p hp
  obtain ⟨htype, hne, hcs⟩ := hr p hp
  rw [htype]
  exact inhabits_of_forall hne hcs (Record.evaluate_eq_true.mp h p hp)

/-- **Soundness** is kept by every way of making a constraint. -/
lemma closed_sound : Closed Registry.standard records (Constraint.Sound records) where
  primitive h := by
    obtain ⟨type, -, rfl⟩ := Registry.standard_primitive h
    exact type.constraint_sound
  call hf hargs h := build_sound hf hargs h
  typeAlias name cs hne hcs v hv := by
    rw [Constraint.evaluate_eq] at hv
    simp only [Bound.toConstraint, Check.evaluate] at hv
    exact inhabits_of_forall hne hcs (evaluateAll_eq_pass.mp hv)
  record {r} binding hmem hr v hv := by
    rw [Constraint.evaluate_eq] at hv
    simp only [Bound.toConstraint, Check.evaluate] at hv
    have heval : r.evaluate v = .ok true := by
      rcases hb : r.evaluate v with fault | b
      · rw [hb] at hv
        exact absurd hv (by simp [Except.map])
      · rw [hb] at hv
        simpa [Except.map, Verdict.ofBool_eq_pass] using hv
    exact ⟨r.name, by simp [Bound.toConstraint, TypeUnion.named],
      .record hmem (hasFields_of_forall (hr.inhabits heval))⟩

/-! ### Schemas -/

/-- The name of a primitive type that no record takes stands for the values of that type only. -/
lemma Primitive.inhabits_iff {type : Primitive} {v : Option Value}
    (h : ∀ r ∈ records, Registry.standard.contains r.name = false) :
    Inhabits records type.name v ↔ type.accepts v = true := by
  refine ⟨fun hi => ?_, inhabits_of_accepts⟩
  have htaken : Registry.standard.contains type.name = true := by cases type <;> decide
  generalize hn : type.name = name at hi
  cases hi with
  | string s => cases type <;> first | rfl | simp [Primitive.name] at hn
  | number x => cases type <;> first | rfl | simp [Primitive.name] at hn
  | boolean b => cases type <;> first | rfl | simp [Primitive.name] at hn
  | undefined => cases type <;> simp [Primitive.name] at hn
  | record hr hfields =>
    rw [hn, h _ hr] at htaken
    exact absurd htaken (by simp)

/-- **The types of a schema are those of the values it accepts.** Every property of a value that is
valid for a definition or a model inhabits a member of the type of the property, and a value that
passes an alias inhabits a member of its type. The names of primitive types keep their meaning. -/
theorem inhabits_of_validate {source : String} {s : Schema} (h : resolveSource source = .ok s) :
    (∀ e ∈ s.definitions ++ s.models, ∀ v, e.validate v = .ok true →
      ∀ p ∈ e.record.properties,
        ∃ member ∈ p.type.members, Inhabits s.records member (v.field? p.name)) ∧
    (∀ a ∈ s.aliases, ∀ v, a.test v = .ok true →
      ∃ member ∈ a.type.members, Inhabits s.records member (some v)) ∧
    ∀ (type : Primitive) v, Inhabits s.records type.name v ↔ type.accepts v = true := by
  obtain ⟨tokens, ds, -, hgroup, hresolve⟩ := resolveSource_eq_ok.mp h
  have hfilled := (Grouping.declares_of_eq_ok (Grouping.group_eq_ok.mp hgroup).2).filled
  obtain ⟨haliases, hrecords⟩ := resolveWith_holds closed_sound hfilled hresolve
  refine ⟨fun e he v hv p hp => ?_, fun a ha v hv => ?_, fun type v => ?_⟩
  · have hmem : e.record ∈ s.records := List.mem_map_of_mem he
    exact (hrecords e.record hmem).inhabits hv p hp
  · obtain ⟨hne, hcs⟩ := haliases a ha
    exact inhabits_of_forall hne hcs (holdAll_eq_true.mp hv)
  · exact Primitive.inhabits_iff (contains_of_resolveWith hresolve)

/-- A model that refers to a definition, with an optional property that refers to an alias. -/
def nestedSource : String :=
  "alias Name string\n"
    ++ "define Part \x7b\n  name optional(Name)\n  used boolean\n\x7d\n"
    ++ "model Whole \x7b\n  part Part\n\x7d\n"

def nestedValue : Value := .object [("part", .object [("used", .bool true)])]

theorem inhabits_of_validate_nested :
    ∃ s, resolveSource nestedSource = .ok s ∧
      ∃ e ∈ s.models, e.validate nestedValue = .ok true ∧
        ∃ p ∈ e.record.properties, p.name = "part" ∧
          ∃ member ∈ p.type.members, Inhabits s.records member (nestedValue.field? p.name) := by
  have hrun : ((resolveSource nestedSource).toOption.any fun s => s.models.any fun e =>
      (e.validate nestedValue).toOption == some true &&
        e.record.properties.any (·.name == "part")) = true := by
    decide +kernel
  obtain ⟨s, hs, hmodels⟩ := (Option.any_eq_true _ _).mp hrun
  obtain ⟨e, he, hboth⟩ := List.any_eq_true.mp hmodels
  obtain ⟨hvalid, hpart⟩ := Bool.and_eq_true_iff.mp hboth
  obtain ⟨p, hp, hname⟩ := List.any_eq_true.mp hpart
  have hsource : resolveSource nestedSource = .ok s := by
    cases h : resolveSource nestedSource <;> simp_all [Except.toOption]
  have hvalidate : e.validate nestedValue = .ok true := by
    cases h : e.validate nestedValue <;> simp_all [Except.toOption]
  refine ⟨s, hsource, e, he, hvalidate, p, hp, by simpa using hname, ?_⟩
  exact (inhabits_of_validate hsource).1 e (by simp [he]) nestedValue hvalidate p hp

end TypeGuard
