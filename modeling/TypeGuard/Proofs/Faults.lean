import Mathlib.Logic.Relation
import TypeGuard.Proofs.Evaluation
import TypeGuard.Proofs.Provenance

/-!
Where the faults of a check come from.

The first constraint that a value does not pass decides what comes of checking it: a failure makes
it invalid, a diagnostic becomes a fault that names the property, and a fault is passed on. So a
diagnostic names the innermost record that met it, and the other faults go back to a call. Both are
found by following the names that declarations mention, which the dependencies of the schema record.
-/

namespace TypeGuard

open Outcome

/-! ### The constraint that decides -/

/-- The outcomes of all constraints of a record, with the properties they belong to. -/
def Record.outcomes (r : Record) (v : Option Value) : List (String × Except Fault Verdict) :=
  r.properties.flatMap fun p =>
    p.constraints.map fun c => (p.name, c.evaluate (v.bind (·.field? p.name)))

/-- An outcome with nothing but passes before it: the first one that is not a pass, unless it is a
pass itself. -/
def Decides (outcomes : List (String × Except Fault Verdict)) (name : String)
    (outcome : Except Fault Verdict) : Prop :=
  ∃ front back, outcomes = front ++ (name, outcome) :: back ∧ ∀ o ∈ front, o.2 = .ok .pass

/-- The fault that an outcome ends a check with. -/
def escalated (context : String) : Except Fault Verdict → Option Fault
  | .ok (.diagnostic misuse) => some (.diagnostic context misuse)
  | .error fault => some fault
  | _ => none

/-- What a sequence of outcomes comes to. -/
def settled (owner : String) : List (String × Except Fault Verdict) → Except Fault Bool
  | [] => .ok true
  | (_, .ok .pass) :: rest => settled owner rest
  | (_, .ok .fail) :: _ => .ok false
  | (name, .ok (.diagnostic misuse)) :: _ => .error (.diagnostic (owner ++ "." ++ name) misuse)
  | (_, .error fault) :: _ => .error fault

section Settled

variable {owner name name' : String} {outcome outcome' : Except Fault Verdict}
  {outcomes : List (String × Except Fault Verdict)}

lemma decides_nil : ¬ Decides [] name outcome := by
  rintro ⟨front, back, h, -⟩
  simp at h

lemma decides_cons : Decides ((name', outcome') :: outcomes) name outcome ↔
    name' = name ∧ outcome' = outcome ∨ outcome' = .ok .pass ∧ Decides outcomes name outcome := by
  constructor
  · rintro ⟨_ | ⟨first, front⟩, back, h, hfront⟩
    · obtain ⟨⟨rfl, rfl⟩, -⟩ : (name' = name ∧ outcome' = outcome) ∧ _ := by simpa using h
      exact .inl ⟨rfl, rfl⟩
    · obtain ⟨rfl, hrest⟩ := List.cons.inj h
      obtain ⟨hfirst, hfront⟩ := List.forall_mem_cons.mp hfront
      exact .inr ⟨hfirst, front, back, hrest, hfront⟩
  · rintro (⟨rfl, rfl⟩ | ⟨rfl, front, back, rfl, hfront⟩)
    · exact ⟨[], outcomes, rfl, by simp⟩
    · exact ⟨_ :: front, back, rfl, List.forall_mem_cons.mpr ⟨rfl, hfront⟩⟩

lemma settled_eq_false :
    settled owner outcomes = .ok false ↔ ∃ name, Decides outcomes name (.ok .fail) := by
  induction outcomes with
  | nil => simp [settled, decides_nil]
  | cons first rest ih =>
    obtain ⟨name', fault | _ | _ | misuse⟩ := first <;> simp [settled, decides_cons, ih]

/-- A check ends with a fault exactly if the outcome that decides is one or becomes one. -/
lemma settled_eq_error {fault : Fault} :
    settled owner outcomes = .error fault ↔ ∃ name outcome, Decides outcomes name outcome ∧
      escalated (owner ++ "." ++ name) outcome = some fault := by
  induction outcomes with
  | nil => simp [settled, decides_nil]
  | cons first rest ih =>
    obtain ⟨name', fault' | _ | _ | misuse⟩ := first <;>
      simp [settled, decides_cons, ih, escalated, or_and_right, exists_or]

lemma settled_append (more : List (String × Except Fault Verdict)) :
    settled owner (outcomes ++ more) =
      match settled owner outcomes with
      | .ok true => settled owner more
      | other => other := by
  induction outcomes with
  | nil => simp [settled]
  | cons first rest ih =>
    obtain ⟨name', fault | _ | _ | misuse⟩ := first <;> simp [settled, ih]

end Settled

lemma holdAll_eq_settled {owner name : String} {cs : List Constraint} {v : Option Value} :
    holdAll (owner ++ "." ++ name) cs v =
      settled owner (cs.map fun c => (name, c.evaluate v)) := by
  induction cs with
  | nil => simp [holdAll, settled]
  | cons c rest ih =>
    rw [holdAll, List.map_cons]
    rcases c.evaluate v with fault | _ | _ | misuse <;> simp [settled, ih]

/-- **A record** is checked constraint by constraint. -/
lemma Record.evaluate_eq_settled (r : Record) (v : Option Value) :
    r.evaluate v = settled r.name (r.outcomes v) := by
  obtain ⟨owner, properties⟩ := r
  rw [Record.evaluate, Record.outcomes]
  induction properties with
  | nil => simp [evaluateProperties, settled]
  | cons p rest ih =>
    have hproperty : p.evaluate owner v = settled owner
        (p.constraints.map fun c => (p.name, c.evaluate (v.bind (·.field? p.name)))) := by
      cases p
      rw [Property.evaluate, holdAll_eq_settled]
    rw [evaluateProperties, List.flatMap_cons, settled_append, ← hproperty]
    rcases p.evaluate owner v with fault | _ | _
    · rfl
    · rfl
    · exact ih

lemma Record.mem_of_decides {r : Record} {v : Option Value} {name : String}
    {outcome : Except Fault Verdict} (h : Decides (r.outcomes v) name outcome) :
    ∃ p ∈ r.properties, p.name = name ∧
      ∃ c ∈ p.constraints, c.evaluate (v.bind (·.field? p.name)) = outcome := by
  obtain ⟨front, back, hsplit, -⟩ := h
  have hmem : (name, outcome) ∈ r.outcomes v := by simp [hsplit]
  obtain ⟨p, hp, hconstraint⟩ := List.mem_flatMap.mp hmem
  obtain ⟨c, hc, heq⟩ := List.mem_map.mp hconstraint
  obtain ⟨hname, houtcome⟩ := Prod.mk.inj heq
  exact ⟨p, hp, hname, c, hc, houtcome⟩

lemma error_of_evaluateAll {cs : List Constraint} {v : Option Value} {fault : Fault}
    (h : evaluateAll cs v = .error fault) : ∃ c ∈ cs, c.evaluate v = .error fault := by
  induction cs with
  | nil => simp [evaluateAll] at h
  | cons c rest ih =>
    rw [evaluateAll] at h
    rcases hc : c.evaluate v with fault' | _ | _ | misuse <;> simp only [hc] at h
    · exact ⟨c, by simp, by rw [hc, h]⟩
    · obtain ⟨c', hc', herror⟩ := ih h
      exact ⟨c', by simp [hc'], herror⟩
    · simp at h
    · simp at h

/-! ### Origins -/

def Schema.DependsOn (s : Schema) (name other : String) : Prop :=
  ∃ others, (name, others) ∈ s.dependencies ∧ other ∈ others

def Schema.Reaches (s : Schema) : String → String → Prop := Relation.ReflTransGen s.DependsOn

/-- The constraints that are run on the value a constraint is run on. -/
inductive Constraint.Part : Constraint → Constraint → Prop where
  | refl (c : Constraint) : Part c c
  | optional {c inner d : Constraint} : c.check = .optional inner → Part inner d → Part c d
  | all {c part d : Constraint} {parts : List Constraint} : c.check = .all parts → part ∈ parts →
      Part part d → Part c d

/-- The records that a constraint applies to its value. -/
def Constraint.Contains (c : Constraint) (r : Record) : Prop :=
  ∃ d, c.Part d ∧ d.check = .record r

/-- Applied to a value, a record applies others to the fields of the value, and so on. -/
inductive Record.Applies : Record → Option Value → Record → Option Value → Prop where
  | self (r : Record) (v : Option Value) : Applies r v r v
  | field {r r' target : Record} {v w : Option Value} {p : Property} {c : Constraint} :
      p ∈ r.properties → c ∈ p.constraints → c.Contains r' →
      Applies r' (v.bind (·.field? p.name)) target w → Applies r v target w

/-- A diagnostic was met at a property of a record that is reached from a name and applied by
another record. -/
def Record.Meets (s : Schema) (owner : String) (r : Record) (v : Option Value) (context : String)
    (misuse : RangeMisuse) : Prop :=
  ∃ target ∈ s.records, ∃ w, r.Applies v target w ∧ s.Reaches owner target.name ∧
    ∃ p ∈ target.properties, context = target.name ++ "." ++ p.name ∧
      ∃ c ∈ p.constraints, c.evaluate (w.bind (·.field? p.name)) = .ok (.diagnostic misuse)

/-- A declaration that is reached from a name calls the range factory, with given literals. -/
def CallsRange (ds : List Declaration) (s : Schema) (owner : String)
    (values : List (Option Literal)) : Prop :=
  ∃ d ∈ ds, ∃ name ∈ d.names, s.Reaches owner name ∧
    ∃ tokens ∈ d.expressions, Expression.Calls tokens "range" values

/-- A fault has an origin that is reached from a name, for a value to which records of a kind are
applied. -/
def Originates (ds : List Declaration) (s : Schema) (owner : String) (applied : Record → Prop)
    (v : Option Value) : Fault → Prop
  | .diagnostic context misuse => ∃ r, applied r ∧ r.Meets s owner v context misuse
  | .range _ => ∃ x : Float, x < 0 ∧ CallsRange ds s owner [some (.number x)]
  | .conversion _ => CallsRange ds s owner []

variable {ds before : List Declaration} {d : Declaration} {s : Schema} {owner name : String}
  {v : Option Value} {fault : Fault}

lemma CallsRange.mono {values : List (Option Literal)} (h : CallsRange ds s name values)
    (hreach : s.Reaches owner name) : CallsRange ds s owner values := by
  obtain ⟨d, hd, other, hother, hreaches, hcalls⟩ := h
  exact ⟨d, hd, other, hother, hreach.trans hreaches, hcalls⟩

lemma Originates.mono {applied applied' : Record → Prop} (h : Originates ds s name applied v fault)
    (hreach : s.Reaches owner name) (happlied : ∀ r, applied r → applied' r) :
    Originates ds s owner applied' v fault := by
  cases fault with
  | diagnostic context misuse =>
    obtain ⟨r, hr, target, htarget, w, happlies, hreaches, hmet⟩ := h
    exact ⟨r, happlied r hr, target, htarget, w, happlies, hreach.trans hreaches, hmet⟩
  | range misuse =>
    obtain ⟨x, hx, hcalls⟩ := h
    exact ⟨x, hx, hcalls.mono hreach⟩
  | conversion misuse => exact CallsRange.mono h hreach

/-- The faults of a constraint have origins reached from the names of a declaration. -/
def Constraint.Traced (ds : List Declaration) (s : Schema) (d : Declaration) (c : Constraint) :
    Prop :=
  ∀ owner ∈ d.names, ∀ v fault, c.evaluate v = .error fault →
    Originates ds s owner c.Contains v fault

/-! ### Calls -/

/-- A range faults on texts, if its only argument is negative, and on all values without a first
argument, or with a third one but no second. -/
lemma evaluateRange_eq_error {start stop step : Option Float}
    (h : evaluateRange start stop step v = .error fault) :
    (∃ x misuse, start = some x ∧ stop = none ∧ step = none ∧ x < 0 ∧ fault = .range misuse) ∨
      ∃ misuse, (start = none ∨ stop = none ∧ step ≠ none) ∧ fault = .conversion misuse := by
  unfold evaluateRange at h
  rcases start with _ | start
  · exact .inr ⟨_, .inl rfl, by simpa [eq_comm] using h⟩
  rcases stop with _ | stop <;> rcases step with _ | step <;> simp only at h
  · split_ifs at h with hneg
    exact .inl ⟨start, _, rfl, rfl, rfl, hneg, by simpa [eq_comm] using h⟩
  · exact .inr ⟨_, .inr ⟨rfl, by simp⟩, by simpa [eq_comm] using h⟩
  · split_ifs at h
  · split_ifs at h

lemma range_arguments {args : List Argument} {start : Option Float}
    (h0 : args[0]? = start.map fun y => .literal (.number y)) (h1 : args[1]? = none) :
    args.map Argument.literal? = (start.map fun x => some (.number x)).toList := by
  match args with
  | [] =>
    cases start with
    | none => rfl
    | some x => simp at h0
  | [first] =>
    cases start with
    | none => simp at h0
    | some x =>
      obtain rfl : first = .literal (.number x) := by simpa using h0
      rfl
  | _ :: _ :: _ => simp at h1

lemma range_traced {call : Call} {args : List Argument} {c : Constraint} {tokens : List Token}
    (hd : d ∈ ds) (htokens : tokens ∈ d.expressions)
    (hcalls : Expression.Calls tokens "range" (args.map Argument.literal?))
    (h : Factory.range call args = .ok c) : c.Traced ds s d := by
  obtain ⟨-, start, stop, step, h0, h1, h2, rfl⟩ := Factory.range_eq_ok.mp h
  intro owner howner v fault herror
  have hown {values : List (Option Literal)} (hvalues : args.map Argument.literal? = values) :
      CallsRange ds s owner values :=
    ⟨d, hd, owner, howner, .refl, tokens, htokens, hvalues ▸ hcalls⟩
  rw [Constraint.evaluate_eq, Constraint.plain, Check.evaluate] at herror
  rcases evaluateRange_eq_error herror with ⟨x, misuse, rfl, rfl, -, hx, rfl⟩ | ⟨misuse, hnone, rfl⟩
  · exact ⟨x, hx, hown (range_arguments h0 (by simpa using h1))⟩
  · rcases hnone with rfl | ⟨rfl, hstep⟩
    · have hlength : args.length ≤ 0 := by simpa using h0
      exact hown (range_arguments h0 (List.getElem?_eq_none (by omega)))
    · -- a third argument stands behind a second one
      have hlength : args.length ≤ 1 := by simpa using h1
      have hthird : args[2]? = none := List.getElem?_eq_none (by omega)
      rw [hthird] at h2
      cases step <;> simp at h2 hstep

lemma traced_of_ok {c : Constraint} (h : ∀ v, ∃ verdict, c.evaluate v = .ok verdict) :
    c.Traced ds s d := by
  intro owner _ v fault herror
  obtain ⟨verdict, hok⟩ := h v
  simp [hok] at herror

lemma optional_traced {inner c : Constraint} (hc : c.check = .optional inner)
    (h : inner.Traced ds s d) : c.Traced ds s d := by
  intro owner howner v fault herror
  rw [Constraint.evaluate_eq, hc, Check.evaluate] at herror
  have hinner : inner.evaluate v = .error fault := by
    rcases hi : inner.evaluate v with fault' | _ | _ | misuse <;> simp_all
  refine (h owner howner v fault hinner).mono .refl ?_
  rintro r ⟨part, hpart, hrecord⟩
  exact ⟨part, .optional hc hpart, hrecord⟩

/-- The faults of a call come from its arguments or, if it is one of the range factory, from
itself. -/
lemma build_traced {name : String} {factory : Factory} {call : Call} {args : List Argument}
    {c : Constraint} {tokens : List Token} (hd : d ∈ ds) (htokens : tokens ∈ d.expressions)
    (hf : Registry.standard.factory? name = some factory)
    (hcalls : Expression.Calls tokens name (args.map Argument.literal?))
    (hargs : ∀ inner, .constraint inner ∈ args → inner.Traced ds s d)
    (h : factory.build call args = .ok c) : c.Traced ds s d := by
  obtain rfl : factory.name = name := by simpa using List.find?_some hf
  revert h hcalls
  refine Factory.standard_cases (motive := fun f => f.build call args = .ok c →
    Expression.Calls tokens f.name (args.map Argument.literal?) → c.Traced ds s d) ?_ ?_ ?_ ?_ hf
  · intro h hcalls
    exact range_traced hd htokens hcalls h
  · intro h _
    obtain ⟨-, source, flags, reading, p, -, -, -, -, -, rfl⟩ := Factory.pattern_eq_ok.mp h
    exact traced_of_ok fun v => ⟨_, by rw [Constraint.evaluate_eq, Check.evaluate]⟩
  · intro name side measure h _
    obtain ⟨-, bound, exclusive, -, -, rfl⟩ := Factory.limit_eq_ok.mp h
    exact traced_of_ok fun v =>
      ⟨_, by rw [Constraint.evaluate_eq, Constraint.plain, Check.evaluate]⟩
  · intro h _
    obtain ⟨inner, rfl, rfl⟩ := Factory.optional_eq_ok.mp h
    exact optional_traced rfl (hargs inner (by simp))

/-! ### References -/

lemma error_of_map {x : Except Fault Bool} (h : x.map Verdict.ofBool = .error fault) :
    x = .error fault := by
  cases x <;> simp_all [Except.map]

lemma Record.originates {r : Record} (hr : r ∈ s.records)
    (hmade : r.Made (Constraint.Traced ds s d)) (howner : r.name ∈ d.names)
    (h : r.evaluate v = .error fault) :
    Originates ds s r.name (· = r) v fault := by
  rw [Record.evaluate_eq_settled, settled_eq_error] at h
  obtain ⟨name, outcome, hdecides, hescalated⟩ := h
  obtain ⟨p, hp, rfl, c, hc, rfl⟩ := Record.mem_of_decides hdecides
  rcases houtcome : c.evaluate (v.bind (·.field? p.name)) with fault' | _ | _ | misuse
  · obtain rfl : fault' = fault := by simpa [houtcome, escalated] using hescalated
    have hfield := (hmade p hp).2.2 c hc r.name howner _ fault' houtcome
    cases fault' with
    | diagnostic context misuse =>
      obtain ⟨r', hr', target, htarget, w, happlies, hmet⟩ := hfield
      exact ⟨r, rfl, target, htarget, w, .field hp hc hr' happlies, hmet⟩
    | range misuse => exact hfield
    | conversion misuse => exact hfield
  · simp [houtcome, escalated] at hescalated
  · simp [houtcome, escalated] at hescalated
  · obtain rfl : Fault.diagnostic (r.name ++ "." ++ p.name) misuse = fault := by
      simpa [houtcome, escalated] using hescalated
    exact ⟨r, rfl, r, hr, v, .self r v, .refl, p, hp, rfl, c, hc, houtcome⟩

lemma reaches_of_mentions (h : resolve ds = .ok s) (hd : before ++ [d] <+: ds)
    (howner : owner ∈ d.names) (hmentions : d.Mentions name) (hname : name ∈ declaredNames before) :
    s.Reaches owner name := by
  obtain ⟨others, hmem, hothers⟩ := dependencies_of_resolve h hd howner
  exact .single ⟨others, hmem, (hothers name).mpr ⟨hname, hmentions⟩⟩

lemma mem_declaredNames_of_place {earlier : List Declaration} {e : Declaration}
    (hplace : earlier ++ [e] <+: before) (hname : name ∈ e.names) : name ∈ declaredNames before :=
  List.mem_flatMap.mpr ⟨e, hplace.subset (by simp), hname⟩

/-- **Origins** are kept by every way of making a constraint. -/
lemma derives_traced (h : resolve ds = .ok s) :
    Derives ds s fun _ d c => c.Traced ds s d where
  primitive hprimitive := by
    obtain ⟨type, -, rfl⟩ := Registry.standard_primitive hprimitive
    exact traced_of_ok fun v => ⟨_, by
      rw [Constraint.evaluate_eq, Primitive.constraint, Constraint.plain, Check.evaluate]⟩
  call hd htokens hf hcalls hargs hc :=
    build_traced (hd.subset (by simp)) htokens hf hcalls hargs hc
  typeAlias {before earlier d e a} hd hmentions hplace hdeclares ha _ hcs := by
    have hname := hdeclares.mem_names
    have hparts : ∀ c ∈ a.constraints, c.Traced ds s d := by
      intro c hc owner howner v fault herror
      have hreach := reaches_of_mentions h hd howner hmentions
        (mem_declaredNames_of_place hplace hname)
      exact (hcs c hc a.name hname v fault herror).mono hreach fun _ hr => hr
    refine ⟨fun owner howner v fault herror => ?_, hparts⟩
    rw [Constraint.evaluate_eq, Bound.toConstraint, Check.evaluate] at herror
    obtain ⟨c, hc, herror⟩ := error_of_evaluateAll herror
    refine (hparts c hc owner howner v fault herror).mono .refl ?_
    rintro r ⟨part, hpart, hrecord⟩
    exact ⟨part, .all rfl hc hpart, hrecord⟩
  record {before earlier d e sort r} hd hmentions hplace hdeclares hr _ hmade := by
    intro owner howner v fault herror
    have hmem := Schema.mem_entries.mpr ⟨sort, hr⟩
    have hname := name_of_mem h hmem
    have hreach := reaches_of_mentions h hd howner hmentions
      (mem_declaredNames_of_place hplace hdeclares.mem_names)
    rw [Constraint.evaluate_eq, Bound.toConstraint, Check.evaluate] at herror
    have horigin := Record.originates (List.mem_map_of_mem hmem) hmade
      (hname ▸ hdeclares.mem_names) (error_of_map herror)
    rw [hname] at horigin
    refine horigin.mono hreach ?_
    rintro r' rfl
    exact ⟨_, .refl _, rfl⟩

/-! ### Schemas -/

/-- **What comes of checking a value.** It is valid exactly if it passes every constraint, invalid
exactly if the first constraint it does not pass fails, and otherwise there is a fault. A diagnostic
names a property of a record that is reached along dependencies, at which it was met by the part of
the value that the record was applied to. The other faults come from a call of the range factory
with a negative number as its only argument, and from one without arguments. -/
theorem validate_outcome {source : String} {s : Schema} (h : resolveSource source = .ok s) :
    ∃ ds, parse source = .ok ds ∧ ∀ e ∈ s.definitions ++ s.models, ∀ v : Value,
      (e.validate v = .ok true ↔ ∀ p ∈ e.record.properties, ∀ c ∈ p.constraints,
        c.evaluate (v.field? p.name) = .ok .pass) ∧
      (e.validate v = .ok false ↔
        ∃ name, Decides (e.record.outcomes (some v)) name (.ok .fail)) ∧
      (∀ fault, e.validate v = .error fault ↔
        ∃ name outcome, Decides (e.record.outcomes (some v)) name outcome ∧
          escalated (e.name ++ "." ++ name) outcome = some fault) ∧
      (∀ context misuse, e.validate v = .error (.diagnostic context misuse) →
        ∃ target ∈ s.records, ∃ w, e.record.Applies (some v) target w ∧
          s.Reaches e.name target.name ∧
          ∃ p ∈ target.properties, context = target.name ++ "." ++ p.name ∧
            ∃ c ∈ p.constraints,
              c.evaluate (w.bind (·.field? p.name)) = .ok (.diagnostic misuse)) ∧
      (∀ misuse, e.validate v = .error (.range misuse) →
        ∃ x : Float, x < 0 ∧ ∃ d ∈ ds, ∃ name ∈ d.names, s.Reaches e.name name ∧
          ∃ tokens ∈ d.expressions, Expression.Calls tokens "range" [some (.number x)]) ∧
      (∀ misuse, e.validate v = .error (.conversion misuse) →
        ∃ d ∈ ds, ∃ name ∈ d.names, s.Reaches e.name name ∧
          ∃ tokens ∈ d.expressions, Expression.Calls tokens "range" []) := by
  obtain ⟨ds, hparse, hresolve, hfilled⟩ := declarations_of_source h
  have hplaced := (placed_of_resolve (derives_traced hresolve) hfilled hresolve).2
  refine ⟨ds, hparse, fun e he v => ?_⟩
  obtain ⟨sort, hsort⟩ := Schema.mem_entries.mp he
  obtain ⟨before, d, -, hdeclares, -, hmade⟩ := hplaced sort e hsort
  have hname := name_of_mem hresolve he
  have hsettled : e.validate v = settled e.name (e.record.outcomes (some v)) := by
    rw [← hname]
    exact Record.evaluate_eq_settled e.record (some v)
  have horigin {fault : Fault} (herror : e.validate v = .error fault) :
      Originates ds s e.name (· = e.record) (some v) fault := by
    rw [← hname]
    exact Record.originates (List.mem_map_of_mem he) hmade (hname ▸ hdeclares.mem_names) herror
  refine ⟨Record.evaluate_eq_true, ?_, fun fault => ?_, fun context misuse herror => ?_,
    fun misuse herror => horigin herror, fun misuse herror => horigin herror⟩
  · rw [hsettled, settled_eq_false]
  · rw [hsettled, settled_eq_error]
  · obtain ⟨r, rfl, hmet⟩ := horigin herror
    exact hmet

/-- A model that reaches a call without arguments through a definition and an alias. -/
def faultySource : String :=
  "alias Unbounded range()\n"
    ++ "define Inner \x7b\n  x Unbounded\n\x7d\n"
    ++ "model Outer \x7b\n  inner Inner\n\x7d\n"

theorem validate_outcome_faulty :
    ∃ s, resolveSource faultySource = .ok s ∧
      ∃ e ∈ s.models, e.validate (.object []) = .error (.conversion .noArguments) ∧
        ∃ ds, parse faultySource = .ok ds ∧
          ∃ d ∈ ds, ∃ name ∈ d.names, s.Reaches e.name name ∧
            ∃ tokens ∈ d.expressions, Expression.Calls tokens "range" [] := by
  have hrun : ((resolveSource faultySource).toOption.any fun s => s.models.any fun e =>
      match e.validate (.object []) with
      | .ok _ => false
      | .error fault => fault = .conversion .noArguments) = true := by
    decide +kernel
  obtain ⟨s, hs, hmodels⟩ := (Option.any_eq_true _ _).mp hrun
  obtain ⟨e, he, hfault⟩ := List.any_eq_true.mp hmodels
  have hsource := toOption_eq_some.mp hs
  have herror : e.validate (.object []) = .error (.conversion .noArguments) := by
    split at hfault <;> simp_all
  obtain ⟨ds, hparse, hall⟩ := validate_outcome hsource
  obtain ⟨-, -, -, -, -, hconversion⟩ := hall e (by simp [he]) (.object [])
  exact ⟨s, hsource, e, he, herror, ds, hparse, hconversion .noArguments herror⟩

end TypeGuard
