import TypeGuard.Proofs.Evaluation
import TypeGuard.Proofs.Provenance
import TypeGuard.Proofs.TypeUnion

/-!
Absent properties.

A property that is not optional does not have to be there: a value that is not an object has no
fields, and a record whose properties may all be absent accepts such a value, and so also no value
at all. But this is the only way. Without the absent value in its type, a property may be absent
exactly if every member of the type is a record of this kind.
-/

namespace TypeGuard

open Outcome

/-- Some record of the name accepts values without fields. -/
def AcceptsNothing (records : List Record) (name : String) : Prop :=
  ∃ r ∈ records, r.name = name ∧ r.validate .null = .ok true

lemma Record.validate_null (r : Record) : r.validate .null = r.evaluate none :=
  Record.evaluate_congr fun _ _ => rfl

/-- A constraint that the absent value passes, without being a member of the type, is one of records
only that accept it. -/
def Constraint.Requires (records : List Record) (c : Constraint) : Prop :=
  "undefined" ∉ c.type.members →
    (c.evaluate none = .ok .pass ↔ ∀ member ∈ c.type.members, AcceptsNothing records member)

variable {records : List Record}

lemma not_acceptsNothing (hnames : ∀ r ∈ records, Registry.standard.contains r.name = false)
    (type : Primitive) : ¬ AcceptsNothing records type.name := by
  rintro ⟨r, hr, hname, -⟩
  have htaken : Registry.standard.contains type.name = true := by cases type <;> decide
  have hfree := hnames r hr
  rw [hname, htaken] at hfree
  simp at hfree

lemma requires_primitive (hnames : ∀ r ∈ records, Registry.standard.contains r.name = false)
    {c : Constraint} {type : Primitive} (htype : type.name ∈ c.type.members)
    (h : c.evaluate none ≠ .ok .pass) : c.Requires records := by
  intro _
  constructor
  · intro hpass
    exact absurd hpass h
  · intro hall
    exact absurd (hall type.name htype) (not_acceptsNothing hnames type)

lemma evaluateRange_none (start stop step : Option Float) :
    evaluateRange start stop step none ≠ .ok .pass := by
  unfold evaluateRange
  simp only [Value.string?, Value.number?, Option.isSome_none, Option.any_none, Verdict.ofBool,
    Bool.false_eq_true, if_false]
  split
  · split_ifs <;> simp
  · split_ifs <;> simp
  · split_ifs <;> simp
  · simp

lemma Limit.admits_none (l : Limit) : l.admits none = false := by
  unfold Limit.admits Limit.measured
  split <;> simp [Value.number?, Value.length?, Value.string?]

lemma build_requires (hnames : ∀ r ∈ records, Registry.standard.contains r.name = false)
    {name : String} {factory : Factory} {call : Call} {args : List Argument} {c : Constraint}
    (hf : Registry.standard.factory? name = some factory)
    (h : factory.build call args = .ok c) : c.Requires records := by
  revert h
  refine Factory.standard_cases
    (motive := fun f => f.build call args = .ok c → c.Requires records) ?_ ?_ ?_ ?_ hf
  · intro h
    obtain ⟨-, start, stop, step, -, -, -, rfl⟩ := Factory.range_eq_ok.mp h
    have hstring : Primitive.string.name ∈ (TypeUnion.ofList ["string", "number"]).members := by
      decide
    refine requires_primitive hnames hstring ?_
    rw [Constraint.evaluate_eq, Constraint.plain, Check.evaluate]
    exact evaluateRange_none start stop step
  · intro h
    obtain ⟨-, source, flags, reading, p, -, -, -, -, -, rfl⟩ := Factory.pattern_eq_ok.mp h
    have hstring : Primitive.string.name ∈ (TypeUnion.named "string").members := by decide
    refine requires_primitive hnames hstring ?_
    simp [Constraint.evaluate_eq, Check.evaluate, Value.string?, Verdict.ofBool]
  · intro name side measure h
    obtain ⟨-, bound, exclusive, -, -, rfl⟩ := Factory.limit_eq_ok.mp h
    refine requires_primitive hnames (List.mem_singleton.mpr rfl) ?_
    simp [Constraint.evaluate_eq, Constraint.plain, Check.evaluate, Limit.admits_none,
      Verdict.ofBool]
  · intro h hundefined
    obtain ⟨inner, rfl, rfl⟩ := Factory.optional_eq_ok.mp h
    exact absurd (TypeUnion.mem_extend.mpr (.inr (List.mem_singleton.mpr rfl))) hundefined

lemma forall_evaluate_none {cs : List Constraint} (hcs : ∀ c ∈ cs, c.Requires records)
    (hundefined : "undefined" ∉ (typeOf cs).members) :
    (∀ c ∈ cs, c.evaluate none = .ok .pass) ↔
      ∀ member ∈ (typeOf cs).members, AcceptsNothing records member := by
  have hone : ∀ c ∈ cs, c.evaluate none = .ok .pass ↔
      ∀ member ∈ c.type.members, AcceptsNothing records member := fun c hc =>
    hcs c hc fun hmem => hundefined (mem_typeOf.mpr ⟨c, hc, hmem⟩)
  constructor
  · intro hpass member hmember
    obtain ⟨c, hc, hmember⟩ := mem_typeOf.mp hmember
    exact (hone c hc).mp (hpass c hc) member hmember
  · intro hall c hc
    exact (hone c hc).mpr fun member hmember => hall member (mem_typeOf.mpr ⟨c, hc, hmember⟩)

/-- **Requiring a value** is kept by every way of making a constraint. -/
lemma closed_requires (hnames : ∀ r ∈ records, Registry.standard.contains r.name = false)
    (hunique : ∀ r ∈ records, ∀ r' ∈ records, r.name = r'.name → r = r') :
    Closed Registry.standard records (Constraint.Requires records) where
  primitive h := by
    obtain ⟨type, -, rfl⟩ := Registry.standard_primitive h
    refine requires_primitive hnames (List.mem_singleton.mpr rfl) ?_
    cases type <;> simp [Constraint.evaluate_eq, Primitive.constraint, Constraint.plain,
      Check.evaluate, Primitive.accepts, Verdict.ofBool]
  call hf _ h := build_requires hnames hf h
  typeAlias name cs _ hcs hundefined := by
    rw [Constraint.evaluate_eq, Bound.toConstraint, Check.evaluate, evaluateAll_eq_pass]
    exact forall_evaluate_none hcs hundefined
  record {r} binding hr _ _ := by
    rw [Constraint.evaluate_eq, Bound.toConstraint, Check.evaluate_record_eq_pass,
      ← Record.validate_null]
    simp only [TypeUnion.named, List.forall_mem_singleton]
    constructor
    · intro h
      exact ⟨r, hr, rfl, h⟩
    · rintro ⟨r', hr', hname, h⟩
      rwa [← hunique r' hr' r hr hname]

/-! ### Schemas -/

lemma record_unique {ds : List Declaration} {s : Schema} (h : resolve ds = .ok s) :
    ∀ r ∈ s.records, ∀ r' ∈ s.records, r.name = r'.name → r = r' := by
  intro r hr r' hr' hname
  obtain ⟨e, he, rfl⟩ := List.mem_map.mp hr
  obtain ⟨e', he', rfl⟩ := List.mem_map.mp hr'
  rw [name_of_mem h he, name_of_mem h he'] at hname
  obtain ⟨sort, he⟩ := Schema.mem_entries.mp he
  obtain ⟨sort', he'⟩ := Schema.mem_entries.mp he'
  rw [(entry_unique h he he' hname).2]

/-- **A property without the absent value in its type is required**, unless every member of the type
is a record that accepts values without fields. In that case the property passes when it is absent,
also from a value that is not an object. -/
theorem validate_absent {source : String} {s : Schema} (h : resolveSource source = .ok s) :
    ∀ e ∈ s.definitions ++ s.models, ∀ p ∈ e.record.properties, "undefined" ∉ p.type.members →
      ∀ v : Value, v.field? p.name = none →
        ((∃ member ∈ p.type.members, ∀ e' ∈ s.definitions ++ s.models, e'.name = member →
          e'.validate .null ≠ .ok true) → e.validate v ≠ .ok true) ∧
        ((∀ member ∈ p.type.members, ∃ e' ∈ s.definitions ++ s.models, e'.name = member ∧
          e'.validate .null = .ok true) → p.evaluate e.name (some v) = .ok true) := by
  obtain ⟨ds, -, hresolve, hfilled⟩ := declarations_of_source h
  have hclosed := closed_requires (contains_of_resolveWith hresolve) (record_unique hresolve)
  have hmade := (resolveWith_holds hclosed hfilled hresolve).2
  intro e he p hp hundefined v hv
  obtain ⟨htype, -, hcs⟩ := hmade e.record (List.mem_map_of_mem he) p hp
  rw [htype] at hundefined ⊢
  have habsent : (∀ c ∈ p.constraints, c.evaluate none = .ok .pass) ↔
      ∀ member ∈ (typeOf p.constraints).members, AcceptsNothing s.records member :=
    forall_evaluate_none hcs hundefined
  constructor
  · rintro ⟨member, hmember, hnone⟩ hvalid
    have hpass := Record.evaluate_eq_true.mp hvalid p hp
    rw [Option.bind_some, hv] at hpass
    obtain ⟨r, hr, hname, hnull⟩ := habsent.mp hpass member hmember
    obtain ⟨e', he', rfl⟩ := List.mem_map.mp hr
    exact hnone e' he' ((name_of_mem hresolve he').symm.trans hname) hnull
  · intro hall
    rw [Property.evaluate_eq_true, Option.bind_some, hv]
    refine habsent.mpr fun member hmember => ?_
    obtain ⟨e', he', hname, hnull⟩ := hall member hmember
    exact ⟨e'.record, List.mem_map_of_mem he', (name_of_mem hresolve he').trans hname, hnull⟩

/-- A model with a property of a record that has one property itself. -/
def partSource (expression : String) : String :=
  "define T \x7b\n  x " ++ expression ++ "\n\x7d\nmodel S \x7b\n  p T\n\x7d\n"

def RecordEntry.refersTo (e : RecordEntry) (type : String) : Bool :=
  e.record.properties.any fun p => p.type = .named type

theorem validate_absent_part :
    ∃ s, resolveSource (partSource "string") = .ok s ∧
      ∃ e ∈ s.models, e.refersTo "T" ∧ e.validate (.object []) ≠ .ok true := by
  have hrun : ((resolveSource (partSource "string")).toOption.any fun s =>
      (s.models.any (·.refersTo "T")) && (s.definitions ++ s.models).all fun e =>
        e.name != "T" || (e.validate .null).toOption == some false) = true := by
    decide +kernel
  obtain ⟨s, hs, hboth⟩ := (Option.any_eq_true _ _).mp hrun
  obtain ⟨hmodels, hstrict⟩ := Bool.and_eq_true_iff.mp hboth
  obtain ⟨e, he, hrefers⟩ := List.any_eq_true.mp hmodels
  obtain ⟨p, hp, htype⟩ := List.any_eq_true.mp hrefers
  replace htype : p.type = .named "T" := by simpa using htype
  have hsource := toOption_eq_some.mp hs
  have hundefined : "undefined" ∉ p.type.members := by
    rw [htype]
    decide
  refine ⟨s, hsource, e, he, hrefers, ?_⟩
  refine (validate_absent hsource e (by simp [he]) p hp hundefined (.object []) rfl).1
    ⟨"T", by simp [htype, TypeUnion.named], fun e' he' hname hvalid => ?_⟩
  have hfalse := List.all_eq_true.mp hstrict e' he'
  simp [hname, hvalid, Except.toOption] at hfalse

/-- A property that is not optional may be missing. -/
theorem valid_without_property :
    ∃ s, resolveSource (partSource "optional(string)") = .ok s ∧
      ∃ e ∈ s.models, ∃ p ∈ e.record.properties, "undefined" ∉ p.type.members ∧
        (Value.object []).field? p.name = none ∧ e.validate (.object []) = .ok true := by
  have hrun : ((resolveSource (partSource "optional(string)")).toOption.any fun s =>
      s.models.any fun e =>
        e.refersTo "T" && (e.validate (.object [])).toOption == some true) = true := by
    decide +kernel
  obtain ⟨s, hs, hmodels⟩ := (Option.any_eq_true _ _).mp hrun
  obtain ⟨e, he, hboth⟩ := List.any_eq_true.mp hmodels
  obtain ⟨hrefers, hvalid⟩ := Bool.and_eq_true_iff.mp hboth
  obtain ⟨p, hp, htype⟩ := List.any_eq_true.mp hrefers
  replace htype : p.type = .named "T" := by simpa using htype
  refine ⟨s, toOption_eq_some.mp hs, e, he, p, hp, by rw [htype]; decide, rfl, ?_⟩
  exact toOption_eq_some.mp (by simpa using hvalid)

end TypeGuard
