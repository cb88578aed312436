import Mathlib.Data.List.Basic
import TypeGuard.Proofs.Faults

/-!
Keys that no record declares are ignored, at every depth.

A check looks at a value itself only to tell texts, numbers and truth values, and at the fields of a
value only under the names of properties. So values that are equal without all other keys cannot be
told apart, however records, aliases and optional constraints are nested.
-/

namespace TypeGuard

open Outcome

/-! ### Values without some keys -/

namespace Value

/-- Values that are equal as JSON data: the order of the entries of an object does not count. -/
inductive Equal : Value → Value → Prop where
  | null : Equal null null
  | bool (value : Bool) : Equal (bool value) (bool value)
  | number (value : Float) : Equal (number value) (number value)
  | string (value : String) : Equal (string value) (string value)
  | array {items items' : List Value} : List.Forall₂ Equal items items' →
      Equal (array items) (array items')
  | object {entries entries' : List (String × Value)} :
      (∀ key, Option.Rel Equal (entries.lookup key) (entries'.lookup key)) →
      Equal (object entries) (object entries')

mutual

lemma Equal.refl : ∀ v : Value, v.Equal v
  | .null => .null
  | .bool value => .bool value
  | .number value => .number value
  | .string value => .string value
  | .array items => .array (equal_items items)
  | .object entries => .object (equal_entries entries)

lemma equal_items : ∀ items : List Value, List.Forall₂ Equal items items
  | [] => .nil
  | v :: rest => .cons (Equal.refl v) (equal_items rest)

lemma equal_entries : ∀ (entries : List (String × Value)) (key : String),
    Option.Rel Equal (entries.lookup key) (entries.lookup key)
  | [], _ => .none
  | (name, v) :: rest, key => by
    rw [List.lookup_cons]
    split
    · exact .some (Equal.refl v)
    · exact equal_entries rest key

end

mutual

/-- A value without the entries under other keys, at every depth. -/
def restrict (keys : List String) : Value → Value
  | array items => array (restrictItems keys items)
  | object entries => object (restrictEntries keys entries)
  | other => other

def restrictItems (keys : List String) : List Value → List Value
  | [] => []
  | v :: rest => v.restrict keys :: restrictItems keys rest

def restrictEntries (keys : List String) : List (String × Value) → List (String × Value)
  | [] => []
  | (key, v) :: rest =>
    if key ∈ keys then (key, v.restrict keys) :: restrictEntries keys rest
    else restrictEntries keys rest

end

variable {keys : List String} {v w : Value} {a b : Option Value}

lemma lookup_restrictEntries {key : String} (hkey : key ∈ keys) (entries : List (String × Value)) :
    (restrictEntries keys entries).lookup key = (entries.lookup key).map (restrict keys) := by
  induction entries with
  | nil => rfl
  | cons entry rest ih =>
    obtain ⟨name, v⟩ := entry
    by_cases heq : key = name
    · subst heq
      simp [restrictEntries, hkey]
    · by_cases hname : name ∈ keys
      · simp [restrictEntries, hname, List.lookup_cons, beq_eq_false_iff_ne.mpr heq, ih]
      · simp [restrictEntries, hname, List.lookup_cons, beq_eq_false_iff_ne.mpr heq, ih]

/-- Under the keys that are kept, the fields are kept as well. -/
lemma field?_restrict {key : String} (hkey : key ∈ keys) (v : Value) :
    (v.restrict keys).field? key = (v.field? key).map (restrict keys) := by
  cases v with
  | object entries => exact lookup_restrictEntries hkey entries
  | null | bool _ | number _ | string _ | array _ => rfl

lemma Equal.field? (h : v.Equal w) (key : String) :
    Option.Rel Equal (v.field? key) (w.field? key) := by
  cases h with
  | object hentries => exact hentries key
  | null | bool _ | number _ | string _ | array _ => exact .none

/-- Values, present or absent, that are equal without all other keys. -/
def AgreeOn (keys : List String) : Option Value → Option Value → Prop :=
  Option.Rel fun v w => (v.restrict keys).Equal (w.restrict keys)

namespace AgreeOn

lemma field (h : AgreeOn keys a b) {key : String} (hkey : key ∈ keys) :
    AgreeOn keys (a.bind (·.field? key)) (b.bind (·.field? key)) := by
  cases h with
  | none => exact .none
  | @some v w hvw =>
    have hfields := hvw.field? key
    rw [field?_restrict hkey, field?_restrict hkey] at hfields
    show AgreeOn keys (v.field? key) (w.field? key)
    cases hv : v.field? key <;> cases hw : w.field? key <;> simp_all [AgreeOn]

lemma isNone (h : AgreeOn keys a b) : a.isNone = b.isNone := by
  cases h <;> rfl

/-- What is seen of a value that is not an object is seen of both. -/
lemma seen {α : Type} {view : Option Value → α} (h : AgreeOn keys a b)
    (hrestrict : ∀ v : Value, view (some (v.restrict keys)) = view (some v))
    (hequal : ∀ v w : Value, v.Equal w → view (some v) = view (some w)) : view a = view b := by
  cases h with
  | none => rfl
  | @some v w hvw => rw [← hrestrict v, ← hrestrict w, hequal _ _ hvw]

lemma number? (h : AgreeOn keys a b) : Value.number? a = Value.number? b :=
  h.seen (fun v => by cases v <;> rfl) fun v w hvw => by cases hvw <;> rfl

lemma string? (h : AgreeOn keys a b) : Value.string? a = Value.string? b :=
  h.seen (fun v => by cases v <;> rfl) fun v w hvw => by cases hvw <;> rfl

lemma length? (h : AgreeOn keys a b) : Value.length? a = Value.length? b := by
  rw [Value.length?, Value.length?, h.string?]

lemma accepts (h : AgreeOn keys a b) (type : Primitive) : type.accepts a = type.accepts b :=
  h.seen (fun v => by cases type <;> cases v <;> rfl) fun v w hvw => by
    cases type <;> cases hvw <;> rfl

end AgreeOn

end Value

/-! ### Constraints -/

open Value

/-- A constraint that cannot tell values apart that are equal without all other keys. -/
def Constraint.Ignores (keys : List String) (c : Constraint) : Prop :=
  ∀ a b, AgreeOn keys a b → c.evaluate a = c.evaluate b

variable {keys : List String} {a b : Option Value}

lemma evaluateAll_agree {cs : List Constraint} (hcs : ∀ c ∈ cs, c.Ignores keys)
    (h : AgreeOn keys a b) : evaluateAll cs a = evaluateAll cs b := by
  induction cs with
  | nil => rfl
  | cons c rest ih =>
    obtain ⟨hc, hrest⟩ := List.forall_mem_cons.mp hcs
    rw [evaluateAll, evaluateAll, hc a b h, ih hrest]

/-- A record looks at its fields under the names of its properties. -/
lemma Record.evaluate_agree {r : Record} (hmade : r.Made (Constraint.Ignores keys))
    (hkeys : ∀ p ∈ r.properties, p.name ∈ keys) (h : AgreeOn keys a b) :
    r.evaluate a = r.evaluate b := by
  have houtcomes : r.outcomes a = r.outcomes b := by
    refine List.flatMap_congr fun p hp => List.map_congr_left fun c hc => ?_
    rw [(hmade p hp).2.2 c hc _ _ (h.field (hkeys p hp))]
  rw [Record.evaluate_eq_settled, Record.evaluate_eq_settled, houtcomes]

lemma evaluateRange_agree (h : AgreeOn keys a b) (start stop step : Option Float) :
    evaluateRange start stop step a = evaluateRange start stop step b := by
  unfold evaluateRange
  rw [h.string?, h.number?, h.length?]

lemma Limit.admits_agree (h : AgreeOn keys a b) (l : Limit) : l.admits a = l.admits b := by
  rw [Limit.admits, Limit.admits, Limit.measured, Limit.measured, h.number?, h.length?]

lemma build_ignores {name : String} {factory : Factory} {call : Call} {args : List Argument}
    {c : Constraint} (hf : Registry.standard.factory? name = some factory)
    (hargs : ∀ inner, .constraint inner ∈ args → inner.Ignores keys)
    (h : factory.build call args = .ok c) : c.Ignores keys := by
  intro a b hab
  rw [Constraint.evaluate_eq, Constraint.evaluate_eq]
  revert h
  refine Factory.standard_cases (motive := fun f => f.build call args = .ok c →
    c.check.evaluate a = c.check.evaluate b) ?_ ?_ ?_ ?_ hf
  · intro h
    obtain ⟨-, start, stop, step, -, -, -, rfl⟩ := Factory.range_eq_ok.mp h
    rw [Constraint.plain, Check.evaluate, Check.evaluate, evaluateRange_agree hab]
  · intro h
    obtain ⟨-, source, flags, reading, p, -, -, -, -, -, rfl⟩ := Factory.pattern_eq_ok.mp h
    rw [Check.evaluate, Check.evaluate, hab.string?]
  · intro name side measure h
    obtain ⟨-, bound, exclusive, -, -, rfl⟩ := Factory.limit_eq_ok.mp h
    rw [Constraint.plain, Check.evaluate, Check.evaluate, Limit.admits_agree hab]
  · intro h
    obtain ⟨inner, rfl, rfl⟩ := Factory.optional_eq_ok.mp h
    rw [Check.evaluate, Check.evaluate, hargs inner (by simp) a b hab, hab.isNone]

def Schema.propertyNames (s : Schema) : List String :=
  s.records.flatMap fun r => r.properties.map (·.name)

lemma Schema.mem_propertyNames {s : Schema} {r : Record} (hr : r ∈ s.records) :
    ∀ p ∈ r.properties, p.name ∈ s.propertyNames := fun _ hp =>
  List.mem_flatMap.mpr ⟨r, hr, List.mem_map_of_mem hp⟩

/-- **Every way of making a constraint** keeps to the names of properties. -/
lemma closed_ignores (s : Schema) :
    Closed .standard s.records (Constraint.Ignores s.propertyNames) where
  primitive hprimitive := by
    obtain ⟨type, -, rfl⟩ := Registry.standard_primitive hprimitive
    intro a b hab
    rw [Constraint.evaluate_eq, Constraint.evaluate_eq, Primitive.constraint, Constraint.plain,
      Check.evaluate, Check.evaluate, hab.accepts]
  call hf hargs hc := build_ignores hf hargs hc
  typeAlias name cs _ hcs := by
    intro a b hab
    rw [Constraint.evaluate_eq, Constraint.evaluate_eq, Bound.toConstraint, Check.evaluate,
      Check.evaluate, evaluateAll_agree hcs hab]
  record binding hr hmade := by
    intro a b hab
    rw [Constraint.evaluate_eq, Constraint.evaluate_eq, Bound.toConstraint, Check.evaluate,
      Check.evaluate, Record.evaluate_agree hmade (Schema.mem_propertyNames hr) hab]

/-! ### Schemas -/

/-- **Keys that are not declared are ignored.** Values that are equal once all entries are removed,
at every depth, whose keys are not names of properties, give the same results for every definition,
model and alias, faults included. -/
theorem undeclared_ignored {source : String} {s : Schema} (h : resolveSource source = .ok s)
    {v w : Value} (hvw : (v.restrict s.propertyNames).Equal (w.restrict s.propertyNames)) :
    (∀ e ∈ s.definitions ++ s.models, e.validate v = e.validate w) ∧
      ∀ a ∈ s.aliases, a.test v = a.test w := by
  obtain ⟨ds, -, hresolve, hfilled⟩ := declarations_of_source h
  obtain ⟨haliases, hrecords⟩ := resolveWith_holds (closed_ignores s) hfilled hresolve
  have hagree : AgreeOn s.propertyNames (some v) (some w) := .some hvw
  constructor
  · intro e he
    have hmem : e.record ∈ s.records := List.mem_map_of_mem he
    exact Record.evaluate_agree (hrecords e.record hmem) (Schema.mem_propertyNames hmem) hagree
  · intro a ha
    rw [AliasEntry.test, AliasEntry.test, holdAll_eq, holdAll_eq,
      evaluateAll_agree (haliases a ha).2 hagree]

def partedSource : String :=
  "define Part \x7b\n  name string\n  open optional(boolean)\n\x7d\n"
    ++ "model Whole \x7b\n  part Part\n\x7d\n"

def partedValue : Value :=
  .object [("part", .object [("name", .string "x"), ("open", .bool true)])]

/-- That value with a further key at each depth, and with its entries in another order. -/
def notedValue : Value :=
  .object [("note", .null),
    ("part", .object [("open", .bool true), ("hint", .array []), ("name", .string "x")])]

lemma notedValue_equal :
    (notedValue.restrict ["name", "open", "part"]).Equal
      (partedValue.restrict ["name", "open", "part"]) := by
  refine .object fun key => ?_
  by_cases hpart : key = "part"
  · subst hpart
    refine .some (.object fun key => ?_)
    by_cases hname : key = "name"
    · subst hname
      exact .some (.refl _)
    by_cases hopen : key = "open"
    · subst hopen
      exact .some (.refl _)
    simp [restrictEntries, List.lookup_cons, beq_eq_false_iff_ne.mpr hname,
      beq_eq_false_iff_ne.mpr hopen]
  · simp [restrictEntries, List.lookup_cons, beq_eq_false_iff_ne.mpr hpart]

theorem undeclared_ignored_parted :
    ∃ s, resolveSource partedSource = .ok s ∧
      (notedValue.restrict s.propertyNames).Equal (partedValue.restrict s.propertyNames) ∧
      ∃ e ∈ s.models, e.validate partedValue = .ok true ∧ e.validate notedValue = .ok true := by
  have hrun : ((resolveSource partedSource).toOption.any fun s =>
      decide (s.propertyNames = ["name", "open", "part"]) && s.models.any fun e =>
        match e.validate partedValue with
        | .ok passed => passed
        | .error _ => false) = true := by
    decide +kernel
  obtain ⟨s, hs, hboth⟩ := (Option.any_eq_true _ _).mp hrun
  obtain ⟨hnames, hmodels⟩ := (Bool.and_eq_true _ _).mp hboth
  obtain ⟨e, he, hpassed⟩ := List.any_eq_true.mp hmodels
  have hsource := toOption_eq_some.mp hs
  have hvalid : e.validate partedValue = .ok true := by
    split at hpassed <;> simp_all
  have hequal : (notedValue.restrict s.propertyNames).Equal
      (partedValue.restrict s.propertyNames) := by
    rw [of_decide_eq_true hnames]
    exact notedValue_equal
  refine ⟨s, hsource, hequal, e, he, hvalid, ?_⟩
  rw [(undeclared_ignored hsource hequal).1 e (by simp [he]), hvalid]

end TypeGuard
