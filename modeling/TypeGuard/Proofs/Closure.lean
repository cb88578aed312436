import TypeGuard.Proofs.Grouping
import TypeGuard.Proofs.Resolution

/-!
What holds of every constraint of a schema.

Constraints come from primitive types, from calls, and from references to aliases and records. A
property that all four ways of making one keep is carried along the reading of an expression token
by token, and along the declarations of a schema one by one.
-/

namespace TypeGuard

open Outcome

/-- A record whose properties have constraints with a property, and the types of these. -/
def Record.Made (P : Constraint → Prop) (r : Record) : Prop :=
  ∀ p ∈ r.properties,
    p.type = typeOf p.constraints ∧ p.constraints ≠ [] ∧ ∀ c ∈ p.constraints, P c

/-- A property of constraints that is kept by every way of making one. -/
structure Closed (registry : Registry) (records : List Record) (P : Constraint → Prop) : Prop where
  primitive {name : String} {c : Constraint} : registry.primitive? name = some c → P c
  call {name : String} {factory : Factory} {call : Call} {args : List Argument} {c : Constraint} :
    registry.factory? name = some factory → (∀ inner, .constraint inner ∈ args → P inner) →
    factory.build call args = .ok c → P c
  typeAlias (name : String) {cs : List Constraint} :
    cs ≠ [] → (∀ c ∈ cs, P c) → P (Bound.typeAlias name cs).toConstraint
  record {r : Record} (binding : String) :
    r ∈ records → r.Made P → P (Bound.record r binding).toConstraint

variable {registry : Registry} {records : List Record} {P : Constraint → Prop}

/-- A declared name stands for constraints with the property, or for a record made of such. -/
def Binding.Holds (records : List Record) (P : Constraint → Prop) : Binding → Prop
  | .typeAlias cs => cs ≠ [] ∧ ∀ c ∈ cs, P c
  | .record _ r => r ∈ records ∧ r.Made P

/-- A term has the property, as one constraint and as the constraints it adds to an alias. -/
structure Bound.Holds (P : Constraint → Prop) (b : Bound) : Prop where
  whole : P b.toConstraint
  nonempty : Resolution.aliasConstraints b ≠ []
  part : ∀ c ∈ Resolution.aliasConstraints b, P c

lemma Bound.Holds.constraint {c : Constraint} (h : P c) : (Bound.constraint c).Holds P :=
  ⟨h, by simp [Resolution.aliasConstraints], by
    simpa [Resolution.aliasConstraints, Bound.toConstraint] using h⟩

lemma Closed.holds_typeAlias (hP : Closed registry records P) (name : String)
    {cs : List Constraint} (hne : cs ≠ []) (h : ∀ c ∈ cs, P c) :
    (Bound.typeAlias name cs).Holds P :=
  ⟨hP.typeAlias name hne h, hne, h⟩

lemma Closed.holds_record (hP : Closed registry records P) {r : Record} (binding : String)
    (hr : r ∈ records) (h : r.Made P) : (Bound.record r binding).Holds P := by
  have hc := hP.record binding hr h
  exact ⟨hc, by simp [Resolution.aliasConstraints], by simpa [Resolution.aliasConstraints] using hc⟩

structure Scope.Holds (records : List Record) (P : Constraint → Prop) (scope : Scope) : Prop where
  closed : Closed scope.registry records P
  binding : ∀ name b, scope.bindings.lookup name = some b → b.Holds records P

/-! ### Expressions -/

namespace Expression

/-- An open call of a known factory, whose arguments have the property. -/
structure Frame.Holds (registry : Registry) (P : Constraint → Prop) (f : Frame) : Prop where
  known : ∃ name, registry.factory? name = some f.factory
  argument : ∀ inner, Argument.constraint inner ∈ f.arguments → P inner

structure State.Holds (registry : Registry) (P : Constraint → Prop) (s : State) : Prop where
  frame : ∀ f ∈ s.frames, f.Holds registry P
  result : ∀ b ∈ s.results, b.Holds P

/-- Something has been read: a call is open, or a term is complete. -/
def State.Begun (s : State) : Prop := s.frames ≠ [] ∨ s.results ≠ []

lemma deliver_holds {s s' : State} {t : Token} {b : Bound} (hs : s.Holds registry P)
    (hb : b.Holds P) (h : s.deliver t b = .ok s') : s'.Holds registry P ∧ s'.Begun := by
  unfold State.deliver at h
  split at h
  · obtain rfl := Except.ok.inj h
    refine ⟨⟨hs.frame, fun b' hb' => ?_⟩, .inr (by simp)⟩
    rcases List.mem_append.mp hb' with hb' | hb'
    · exact hs.result b' hb'
    · exact List.mem_singleton.mp hb' ▸ hb
  · next frame outer hf =>
    split at h
    · simp at h
    · obtain rfl := Except.ok.inj h
      have hframe := hs.frame frame (by simp [hf])
      refine ⟨⟨fun f hf' => ?_, hs.result⟩, .inl (by simp)⟩
      rcases List.mem_cons.mp hf' with rfl | hf'
      · refine ⟨hframe.known, fun inner hi => ?_⟩
        rcases List.mem_append.mp hi with hi | hi
        · exact hframe.argument inner hi
        · obtain rfl : inner = b.toConstraint := by simpa using hi
          exact hb.whole
      · exact hs.frame f (by simp [hf, hf'])

lemma invoke_holds (hP : Closed registry records P) {s s' : State} {frame : Frame}
    {outer : List Frame} (hs : s.Holds registry P) (hf : s.frames = frame :: outer)
    (h : s.invoke frame outer = .ok s') : s'.Holds registry P ∧ s'.Begun := by
  obtain ⟨c, hc, hd⟩ := bind_eq_ok.mp h
  have hframe := hs.frame frame (by simp [hf])
  obtain ⟨name, hname⟩ := hframe.known
  refine deliver_holds ?_ (.constraint (hP.call hname hframe.argument hc)) hd
  exact ⟨fun f hf' => hs.frame f (by simp [hf, hf']), hs.result⟩

lemma reference_holds {scope : Scope} (hS : scope.Holds records P) {s s' : State}
    {t : Token} (hs : s.Holds scope.registry P) (h : s.reference scope t = .ok s') :
    s'.Holds scope.registry P ∧ s'.Begun := by
  unfold State.reference at h
  split at h
  · next binding hl =>
    have hb := hS.binding t.text binding hl
    cases binding with
    | typeAlias cs =>
      refine deliver_holds ?_ (hS.closed.holds_typeAlias t.text hb.1 hb.2) h
      exact ⟨hs.frame, hs.result⟩
    | record sort r =>
      refine deliver_holds ?_ (hS.closed.holds_record _ hb.1 hb.2) h
      exact ⟨hs.frame, hs.result⟩
  · split at h
    · next c hp => exact deliver_holds hs (.constraint (hS.closed.primitive hp)) h
    · split at h <;> simp at h

lemma call_holds {scope : Scope} {s s' : State} {t : Token} (hs : s.Holds scope.registry P)
    (h : s.call scope t = .ok s') : s'.Holds scope.registry P ∧ s'.Begun := by
  unfold State.call at h
  split at h
  · next factory hf =>
    obtain rfl := Except.ok.inj h
    refine ⟨⟨fun f hf' => ?_, hs.result⟩, .inl (by simp)⟩
    rcases List.mem_cons.mp hf' with rfl | hf'
    · exact ⟨⟨t.text, hf⟩, by simp⟩
    · exact hs.frame f hf'
  · split at h <;> simp at h

lemma term_holds {scope : Scope} (hS : scope.Holds records P) {s s' : State}
    {t : Token} {called : Bool} (hs : s.Holds scope.registry P)
    (h : s.term scope t called = .ok s') : s'.Holds scope.registry P ∧ s'.Begun := by
  unfold State.term at h
  split at h
  · exact call_holds hs h
  · exact reference_holds hS hs h

/-- A frame may change its phase, and take literals as arguments. -/
lemma State.Holds.replace {s : State} {frame frame' : Frame} {outer : List Frame}
    (hs : s.Holds registry P) (hf : s.frames = frame :: outer)
    (hfactory : frame'.factory = frame.factory)
    (hargs : ∀ inner, Argument.constraint inner ∈ frame'.arguments →
      Argument.constraint inner ∈ frame.arguments) :
    State.Holds registry P { s with frames := frame' :: outer } := by
  have hframe := hs.frame frame (by simp [hf])
  refine ⟨fun f hf' => ?_, hs.result⟩
  rcases List.mem_cons.mp hf' with rfl | hf'
  · exact ⟨hfactory ▸ hframe.known, fun inner hi => hframe.argument inner (hargs inner hi)⟩
  · exact hs.frame f (by simp [hf, hf'])

lemma argument_holds {scope : Scope} (hS : scope.Holds records P) {s s' : State}
    {frame : Frame} {outer : List Frame} {t : Token} {called : Bool}
    (hs : s.Holds scope.registry P) (hf : s.frames = frame :: outer)
    (h : s.argument scope frame outer t called = .ok s') :
    s'.Holds scope.registry P ∧ s'.Begun := by
  unfold State.argument at h
  split at h
  · obtain ⟨value, -, hv⟩ := bind_eq_ok.mp h
    obtain rfl := pure_eq_ok.mp hv
    exact ⟨hs.replace hf rfl (by simp), .inl (by simp)⟩
  · split at h
    · exact term_holds hS hs h
    · simp at h

/-- **One token** keeps the property. -/
lemma step_holds {scope : Scope} (hS : scope.Holds records P) {s s' : State}
    {t : Token} {called : Bool} (hs : s.Holds scope.registry P)
    (h : s.step scope t called = .ok s') : s'.Holds scope.registry P ∧ s'.Begun := by
  unfold State.step at h
  split at h
  · split at h
    · exact term_holds hS hs h
    · simp at h
  · next frame outer hf =>
    split at h
    · obtain rfl := Except.ok.inj h
      exact ⟨hs.replace hf rfl (by simp), .inl (by simp)⟩
    · split at h
      · exact invoke_holds hS.closed hs hf h
      · exact argument_holds hS hs hf h
    · exact argument_holds hS hs hf h
    · split at h
      · obtain rfl := Except.ok.inj h
        exact ⟨hs.replace hf rfl (by simp), .inl (by simp)⟩
      · split at h
        · exact invoke_holds hS.closed hs hf h
        · simp at h

lemma run_holds {scope : Scope} (hS : scope.Holds records P) {s s' : State}
    {tokens : List Token} (hs : s.Holds scope.registry P)
    (h : State.run scope s tokens = .ok s') :
    s'.Holds scope.registry P ∧ s'.frames = [] ∧ (s.Begun ∨ tokens ≠ [] → s'.Begun) := by
  induction tokens generalizing s with
  | nil =>
    rw [State.run] at h
    split at h
    · next hf =>
      obtain rfl := Except.ok.inj h
      exact ⟨hs, hf, by simp⟩
    · simp at h
  | cons t rest ih =>
    rw [State.run] at h
    split at h
    · simp at h
    · next s₁ h₁ =>
      obtain ⟨hs₁, hbegun⟩ := step_holds hS hs h₁
      obtain ⟨hs', hframes, hb⟩ := ih hs₁ h
      exact ⟨hs', hframes, fun _ => hb (.inl hbegun)⟩

/-- **An expression** resolves to terms with the property, and to at least one of them. -/
lemma resolve_holds {scope : Scope} (hS : scope.Holds records P) {calls : Nat}
    {tokens : List Token} {outcome : Outcome} (h : resolve scope calls tokens = .ok outcome) :
    (∀ b ∈ outcome.terms, b.Holds P) ∧ (tokens ≠ [] → outcome.terms ≠ []) := by
  obtain ⟨s, hs, ho⟩ := bind_eq_ok.mp h
  obtain rfl := pure_eq_ok.mp ho
  obtain ⟨hholds, hframes, hbegun⟩ := run_holds hS ⟨by simp, by simp⟩ hs
  refine ⟨hholds.result, fun hne => ?_⟩
  exact (hbegun (.inr hne)).resolve_left (by simp [hframes])

end Expression

/-! ### Declarations -/

namespace Resolution

structure Holds (records : List Record) (P : Constraint → Prop) (r : Resolution) : Prop where
  typeAlias : ∀ a ∈ r.aliases, a.constraints ≠ [] ∧ ∀ c ∈ a.constraints, P c
  record : ∀ rec ∈ r.schema.records, rec.Made P
  binding : ∀ b ∈ r.bindings, b.2.Holds records P

lemma Holds.scope (hP : Closed registry records P) {r : Resolution} (hr : r.Holds records P) :
    Scope.Holds records P ⟨registry, r.bindings⟩ := by
  refine ⟨hP, fun name b hb => ?_⟩
  obtain ⟨front, back, heq, -⟩ := List.lookup_eq_some_iff.mp hb
  have hmem : (name, b) ∈ r.bindings := by rw [show r.bindings = _ from heq]; simp
  exact hr.binding (name, b) hmem

lemma typeAlias_holds (hP : Closed registry records P) {r r' : Resolution} {name : Token}
    {body : List Token} (hne : body ≠ []) (hr : r.Holds records P)
    (h : r.typeAlias registry name body = .ok r') : r'.Holds records P := by
  obtain ⟨-, -, outcome, ho, rfl⟩ := typeAlias_eq_ok.mp h
  obtain ⟨hterms, hsome⟩ := Expression.resolve_holds (hr.scope hP) ho
  have hconstraints : outcome.terms.flatMap aliasConstraints ≠ [] := by
    obtain ⟨b, hb⟩ := List.exists_mem_of_ne_nil _ (hsome hne)
    obtain ⟨c, hc⟩ := List.exists_mem_of_ne_nil _ (hterms b hb).nonempty
    exact List.ne_nil_of_mem (List.mem_flatMap.mpr ⟨b, hb, hc⟩)
  have hall : ∀ c ∈ outcome.terms.flatMap aliasConstraints, P c := by
    intro c hc
    obtain ⟨b, hb, hcb⟩ := List.mem_flatMap.mp hc
    exact (hterms b hb).part c hcb
  refine ⟨fun a ha => ?_, hr.record, fun b hb => ?_⟩
  · rcases List.mem_append.mp ha with ha | ha
    · exact hr.typeAlias a ha
    · obtain rfl := List.mem_singleton.mp ha
      exact ⟨hconstraints, hall⟩
  · rcases List.mem_append.mp hb with hb | hb
    · exact hr.binding b hb
    · obtain rfl := List.mem_singleton.mp hb
      exact ⟨hconstraints, hall⟩

lemma property_holds {scope : Scope} (hS : scope.Holds records P) {owner : String}
    {p p' : Progress} {line : PropertyLine} (hne : line.expression ≠ [])
    (hp : (Record.mk owner p.properties).Made P) (h : property scope owner p line = .ok p') :
    (Record.mk owner p'.properties).Made P := by
  obtain ⟨-, -, outcome, ho, rfl⟩ := property_eq_ok.mp h
  obtain ⟨hterms, hsome⟩ := Expression.resolve_holds hS ho
  intro q hq
  rcases List.mem_append.mp hq with hq | hq
  · exact hp q hq
  · obtain rfl := List.mem_singleton.mp hq
    refine ⟨rfl, by simpa using hsome hne, fun c hc => ?_⟩
    obtain ⟨b, hb, rfl⟩ := List.mem_map.mp hc
    exact (hterms b hb).whole

lemma record_holds (hP : Closed registry records P) {r r' : Resolution} {sort : RecordSort}
    {name : Token} {lines : List PropertyLine} (hne : ∀ line ∈ lines, line.expression ≠ [])
    (hr : r.Holds records P) (hin : ∀ rec ∈ r'.schema.records, rec ∈ records)
    (h : r.record registry sort name lines = .ok r') : r'.Holds records P := by
  obtain ⟨-, -, -, p, hp, rfl⟩ := record_eq_ok.mp h
  have hmade : (Record.mk name.text p.properties).Made P := by
    refine foldlM_induct (fun p => (Record.mk name.text p.properties).Made P)
      (fun line hline q q' hq hstep => ?_) (fun q hq => by simp at hq) hp
    exact property_holds (hr.scope hP) (hne line hline) hq hstep
  refine ⟨hr.typeAlias, fun rec hrec => ?_, fun b hb => ?_⟩
  · rcases mem_records_added.mp hrec with hrec | rfl
    · exact hr.record rec hrec
    · exact hmade
  · rcases List.mem_append.mp hb with hb | hb
    · exact hr.binding b hb
    · obtain rfl := List.mem_singleton.mp hb
      exact ⟨hin _ (mem_records_added.mpr (.inr rfl)), hmade⟩

lemma declaration_holds (hP : Closed registry records P) {r r' : Resolution} {d : Declaration}
    (hd : Grouping.Filled d) (hr : r.Holds records P)
    (hin : ∀ rec ∈ r'.schema.records, rec ∈ records) (h : r.declaration registry d = .ok r') :
    r'.Holds records P := by
  cases d with
  | config keyword settings =>
    obtain ⟨config, -, rfl⟩ := settings_eq_ok.mp h
    exact ⟨hr.typeAlias, hr.record, hr.binding⟩
  | typeAlias name body => exact typeAlias_holds hP hd hr h
  | record sort name lines => exact record_holds hP hd hr hin h

end Resolution

lemma resolveWith_holds {ds : List Declaration} {s : Schema}
    (hP : Closed registry s.records P) (hds : ∀ d ∈ ds, Grouping.Filled d)
    (h : resolveWith registry ds = .ok s) :
    (∀ a ∈ s.aliases, a.constraints ≠ [] ∧ ∀ c ∈ a.constraints, P c) ∧
      ∀ r ∈ s.records, r.Made P := by
  obtain ⟨r, hr, hs⟩ := bind_eq_ok.mp h
  obtain rfl := pure_eq_ok.mp hs
  -- the records made so far are records of the schema, as long as all later ones are
  have hinv := foldlM_induct
    (fun r' => (∀ rec ∈ r'.schema.records, rec ∈ r.schema.records) →
      r'.Holds r.schema.records P)
    (fun d hd r₁ r₂ hr₁ hstep hin => Resolution.declaration_holds hP (hds d hd)
      (hr₁ fun rec hrec => hin rec (Resolution.records_subset hstep rec hrec)) hin hstep)
    (fun _ => ⟨by simp [Resolution.initial],
      by simp [Resolution.initial, Resolution.schema, Schema.records],
      by simp [Resolution.initial]⟩) hr
  have hholds := hinv fun rec hrec => hrec
  exact ⟨hholds.typeAlias, hholds.record⟩

end TypeGuard
