import TypeGuard.Proofs.Faults

/-!
Schemas with well-formed ranges never fault.

Only ranges misuse their arguments, and a well-formed one does not. So every constraint of a schema
with well-formed ranges either passes or fails, on whatever value, present or absent, it is run.
Whether all ranges are well-formed can be read off the tokens.
-/

namespace TypeGuard

open Outcome

/-- The arguments of a well-formed range: one number that is not negative, or two of which the
second is above the first. -/
inductive ProperRange : List (Option Literal) → Prop where
  | single {x : Float} : ¬ x < 0 → ProperRange [some (.number x)]
  | pair {start stop : Float} : ¬ stop ≤ start →
      ProperRange [some (.number start), some (.number stop)]

/-- A constraint that passes or fails on every value. -/
def Constraint.Definite (c : Constraint) : Prop :=
  ∀ v, c.evaluate v = .ok .pass ∨ c.evaluate v = .ok .fail

/-! ### Combined constraints -/

variable {v : Option Value}

lemma Verdict.ofBool_cases (passed : Bool) :
    Verdict.ofBool passed = .pass ∨ Verdict.ofBool passed = .fail := by
  cases passed
  · exact .inr rfl
  · exact .inl rfl

lemma definite_of_check {c : Constraint}
    (h : ∀ v, ∃ passed, c.check.evaluate v = .ok (.ofBool passed)) : c.Definite := by
  intro v
  obtain ⟨passed, hpassed⟩ := h v
  rw [Constraint.evaluate_eq, hpassed]
  exact (Verdict.ofBool_cases passed).imp (congrArg _) (congrArg _)

lemma evaluateAll_definite {cs : List Constraint} (hcs : ∀ c ∈ cs, c.Definite) (v : Option Value) :
    evaluateAll cs v = .ok .pass ∨ evaluateAll cs v = .ok .fail := by
  induction cs with
  | nil => exact .inl rfl
  | cons c rest ih =>
    obtain ⟨hc, hrest⟩ := List.forall_mem_cons.mp hcs
    rw [evaluateAll]
    rcases hc v with hpass | hfail
    · rw [hpass]
      exact ih hrest
    · rw [hfail]
      exact .inr rfl

lemma holdAll_definite {cs : List Constraint} (hcs : ∀ c ∈ cs, c.Definite) (context : String)
    (v : Option Value) : ∃ passed, holdAll context cs v = .ok passed := by
  rw [holdAll_eq]
  rcases evaluateAll_definite hcs v with hpass | hfail
  · exact ⟨true, by rw [hpass]⟩
  · exact ⟨false, by rw [hfail]⟩

/-- What decides about a record is a pass or a failure, so it is not a fault. -/
lemma Record.evaluate_definite {r : Record} (hmade : r.Made Constraint.Definite)
    (v : Option Value) : ∃ passed, r.evaluate v = .ok passed := by
  rcases h : r.evaluate v with fault | passed
  · rw [Record.evaluate_eq_settled, settled_eq_error] at h
    obtain ⟨name, outcome, hdecides, hescalated⟩ := h
    obtain ⟨p, hp, rfl, c, hc, rfl⟩ := Record.mem_of_decides hdecides
    rcases (hmade p hp).2.2 c hc (v.bind (·.field? p.name)) with hpass | hfail
    · simp [hpass, escalated] at hescalated
    · simp [hfail, escalated] at hescalated
  · exact ⟨passed, rfl⟩

lemma Record.check_definite {r : Record} (hmade : r.Made Constraint.Definite) (v : Option Value) :
    ∃ passed, (Check.record r).evaluate v = .ok (.ofBool passed) := by
  obtain ⟨passed, hpassed⟩ := Record.evaluate_definite hmade v
  exact ⟨passed, by rw [Check.evaluate, hpassed]; rfl⟩

lemma optional_definite {inner c : Constraint} (hc : c.check = .optional inner)
    (h : inner.Definite) : c.Definite := by
  intro v
  rw [Constraint.evaluate_eq, hc, Check.evaluate]
  rcases h v with hpass | hfail
  · rw [hpass]
    exact .inl rfl
  · rw [hfail]
    exact (Verdict.ofBool_cases v.isNone).imp (congrArg _) (congrArg _)

/-! ### Ranges -/

lemma evaluateRange_single {x : Float} (hx : ¬ x < 0) (v : Option Value) :
    ∃ passed, evaluateRange (some x) none none v = .ok (.ofBool passed) := by
  simp only [evaluateRange, if_neg hx]
  split <;> exact ⟨_, rfl⟩

lemma evaluateRange_pair {start stop : Float} (h : ¬ stop ≤ start) (v : Option Value) :
    ∃ passed, evaluateRange (some start) (some stop) none v = .ok (.ofBool passed) := by
  simp only [evaluateRange, if_neg h]
  exact ⟨_, rfl⟩

lemma number_inj {x y : Option Float}
    (h : x.map (fun z => Argument.literal (.number z)) = y.map fun z => .literal (.number z)) :
    x = y := by
  cases x <;> cases y <;> simp_all

lemma range_definite {call : Call} {args : List Argument} {c : Constraint}
    (hproper : ProperRange (args.map Argument.literal?)) (h : Factory.range call args = .ok c) :
    c.Definite := by
  obtain ⟨-, start, stop, step, h0, h1, h2, rfl⟩ := Factory.range_eq_ok.mp h
  refine definite_of_check fun v => ?_
  rw [Constraint.plain, Check.evaluate]
  generalize hvalues : args.map Argument.literal? = values at hproper
  cases hproper with
  | @single x hx =>
    have hliterals : args.map Argument.literal? = [Literal.number x].map some := hvalues
    obtain rfl := Factory.eq_map_literal.mp hliterals
    obtain rfl : some x = start := number_inj h0
    obtain rfl : none = stop := number_inj h1
    obtain rfl : none = step := number_inj h2
    exact evaluateRange_single hx v
  | @pair x y hxy =>
    have hliterals : args.map Argument.literal? = [Literal.number x, .number y].map some := hvalues
    obtain rfl := Factory.eq_map_literal.mp hliterals
    obtain rfl : some x = start := number_inj h0
    obtain rfl : some y = stop := number_inj h1
    obtain rfl : none = step := number_inj h2
    exact evaluateRange_pair hxy v

lemma build_definite {name : String} {factory : Factory} {call : Call} {args : List Argument}
    {c : Constraint} (hf : Registry.standard.factory? name = some factory)
    (hproper : name = "range" → ProperRange (args.map Argument.literal?))
    (hargs : ∀ inner, .constraint inner ∈ args → inner.Definite)
    (h : factory.build call args = .ok c) : c.Definite := by
  obtain rfl : factory.name = name := by simpa using List.find?_some hf
  revert h hproper
  refine Factory.standard_cases (motive := fun f => f.build call args = .ok c →
    (f.name = "range" → ProperRange (args.map Argument.literal?)) → c.Definite) ?_ ?_ ?_ ?_ hf
  · intro h hproper
    exact range_definite (hproper rfl) h
  · intro h _
    obtain ⟨-, source, flags, reading, p, -, -, -, -, -, rfl⟩ := Factory.pattern_eq_ok.mp h
    exact definite_of_check fun v => ⟨_, by rw [Check.evaluate]⟩
  · intro name side measure h _
    obtain ⟨-, bound, exclusive, -, -, rfl⟩ := Factory.limit_eq_ok.mp h
    exact definite_of_check fun v => ⟨_, by rw [Constraint.plain, Check.evaluate]⟩
  · intro h _
    obtain ⟨inner, rfl, rfl⟩ := Factory.optional_eq_ok.mp h
    exact optional_definite rfl (hargs inner (by simp))

variable {ds : List Declaration} {s : Schema}

/-- **Passing or failing** is kept by every way of making a constraint, if all ranges are
well-formed. -/
lemma derives_definite
    (hranges : ∀ d ∈ ds, ∀ tokens ∈ d.expressions, ∀ values,
      Expression.Calls tokens "range" values → ProperRange values) :
    Derives ds s fun _ _ c => c.Definite where
  primitive hprimitive := by
    obtain ⟨type, -, rfl⟩ := Registry.standard_primitive hprimitive
    exact definite_of_check fun v => ⟨_, by
      rw [Primitive.constraint, Constraint.plain, Check.evaluate]⟩
  call hd htokens hf hcalls hargs hc := by
    refine build_definite hf ?_ hargs hc
    rintro rfl
    exact hranges _ (hd.subset (by simp)) _ htokens _ hcalls
  typeAlias {before earlier d e a} _ _ _ _ _ _ hcs := by
    refine ⟨fun v => ?_, hcs⟩
    rw [Constraint.evaluate_eq, Bound.toConstraint, Check.evaluate]
    exact evaluateAll_definite hcs v
  record _ _ _ _ _ _ hmade := definite_of_check (Record.check_definite hmade)

/-! ### Ranges among tokens -/

namespace Expression

/-- Whether the tokens behind a name are the arguments of a well-formed range, with parentheses. -/
def properBehind : List Token → Bool
  | _ :: first :: closer :: rest =>
    match Literal.ofToken first with
    | .ok (.number x) =>
      if closer.kind = .closeParen then decide (¬ x < 0)
      else match rest with
        | second :: closer :: _ =>
          match Literal.ofToken second with
          | .ok (.number y) => decide (closer.kind = .closeParen) && decide (¬ y ≤ x)
          | _ => false
        | _ => false
    | _ => false
  | _ => false

def properRanges : List Token → Bool
  | [] => true
  | t :: rest => (t.text != "range" || properBehind rest) && properRanges rest

lemma properRanges_append {front back : List Token} (h : properRanges (front ++ back) = true) :
    properRanges back = true := by
  induction front with
  | nil => exact h
  | cons t rest ih => exact ih ((Bool.and_eq_true _ _).mp h).2

lemma Operand.Spelled.eq_literal {o : Operand} {ts more rest : List Token} {t : Token}
    {value : Literal} (ho : o.Spelled ts) (htokens : ts ++ more = t :: rest)
    (hvalue : Literal.ofToken t = .ok value) : o.literal? = some value ∧ more = rest := by
  have hname {a : Token} (ha : a = t) (hkind : a.kind = .identifier) : False := by
    subst ha
    simp [Literal.ofToken, hkind] at hvalue
  cases ho with
  | literal _ =>
    obtain ⟨rfl, rfl⟩ := List.cons.inj htokens
    simp [Operand.literal?, hvalue, Except.toOption]
  | term ha =>
    cases ha with
    | name hkind => exact (hname (List.cons.inj htokens).1 hkind).elim
    | call hkind _ _ _ => exact (hname (List.cons.inj htokens).1 hkind).elim

lemma properBehind_eq_true {tokens : List Token} (h : properBehind tokens = true) :
    ∃ opener first x next rest, tokens = opener :: first :: next :: rest ∧
      Literal.ofToken first = .ok (.number x) ∧
      (next.kind = .closeParen ∧ ¬ x < 0 ∨
        next.kind ≠ .closeParen ∧ ∃ second y closer back, rest = second :: closer :: back ∧
          Literal.ofToken second = .ok (.number y) ∧ closer.kind = .closeParen ∧ ¬ y ≤ x) := by
  unfold properBehind at h
  split at h
  · next opener first next rest =>
    split at h
    · next x hx =>
      refine ⟨opener, first, x, next, rest, rfl, hx, ?_⟩
      split at h
      · next hnext => exact .inl ⟨hnext, of_decide_eq_true h⟩
      · next hnext =>
        split at h
        · next second closer back =>
          split at h
          · next y hy =>
            obtain ⟨hcloser, hxy⟩ := (Bool.and_eq_true _ _).mp h
            exact .inr ⟨hnext, second, y, closer, back, rfl, hy, of_decide_eq_true hcloser,
              of_decide_eq_true hxy⟩
          · simp at h
        · simp at h
    · simp at h
  · simp at h

lemma properRange_of_behind {operands : List Operand} {opener closer : Token}
    {inner back : List Token} (hlisted : Operand.Listed operands inner)
    (hcloser : closer.kind = .closeParen)
    (h : properBehind (opener :: (inner ++ closer :: back)) = true) :
    ProperRange (operands.map Operand.literal?) := by
  obtain ⟨opener', first, x, next, rest, htokens, hx, hcases⟩ := properBehind_eq_true h
  replace htokens := (List.cons.inj htokens).2
  cases hlisted with
  | nil =>
    obtain ⟨rfl, -⟩ := List.cons.inj htokens
    simp [Literal.ofToken, hcloser] at hx
  | single ho =>
    obtain ⟨hfirst, hmore⟩ := ho.eq_literal htokens hx
    obtain ⟨rfl, rfl⟩ := List.cons.inj hmore
    obtain ⟨-, hx⟩ := hcases.resolve_right fun hnext => hnext.1 hcloser
    simpa [hfirst] using ProperRange.single hx
  | cons ho hcomma hmore =>
    rw [List.append_assoc, List.cons_append] at htokens
    obtain ⟨hfirst, heq⟩ := ho.eq_literal htokens hx
    obtain ⟨rfl, rfl⟩ := List.cons.inj heq
    obtain ⟨-, second, y, last, back, hrest, hy, hlast, hxy⟩ :=
      hcases.resolve_left fun hnext => by simp [hcomma] at hnext
    cases hmore with
    | single ho' =>
      obtain ⟨hsecond, -⟩ := ho'.eq_literal hrest hy
      simpa [hfirst, hsecond] using ProperRange.pair hxy
    | cons ho' hcomma' _ =>
      rw [List.append_assoc] at hrest
      obtain ⟨-, heq⟩ := ho'.eq_literal hrest hy
      obtain ⟨rfl, -⟩ := List.cons.inj heq
      simp [hcomma'] at hlast

lemma properRange_of_calls {tokens : List Token} (h : properRanges tokens = true)
    {values : List (Option Literal)} (hcalls : Calls tokens "range" values) :
    ProperRange values := by
  obtain ⟨callee, operands, ts, hspelled, ⟨front, back, rfl⟩, htext, rfl⟩ := hcalls
  cases hspelled with
  | @call _ opener closer _ inner _ _ hcloser hlisted =>
    rw [List.append_assoc] at h
    have hbehind : properBehind (opener :: (inner ++ closer :: back)) = true := by
      simpa [htext] using ((Bool.and_eq_true _ _).mp (properRanges_append h)).1
    exact properRange_of_behind hlisted hcloser hbehind

end Expression

/-! ### Schemas -/

/-- **Schemas with well-formed ranges never fault.** If every call of the range factory has one
argument that is not negative, or two of which the second is above the first, then every constraint
of every alias, property and record passes or fails on every value, present or absent. So no alias,
definition or model faults on any value. -/
theorem never_faults {source : String} {s : Schema} {ds : List Declaration}
    (h : resolveSource source = .ok s) (hparse : parse source = .ok ds)
    (hranges : ∀ d ∈ ds, ∀ tokens ∈ d.expressions, ∀ values,
      Expression.Calls tokens "range" values → ProperRange values) :
    (∀ a ∈ s.aliases, (∀ c ∈ a.constraints, ∀ v,
        c.evaluate v = .ok .pass ∨ c.evaluate v = .ok .fail) ∧
      ∀ v, ∃ passed, a.test v = .ok passed) ∧
    ∀ e ∈ s.definitions ++ s.models,
      (∀ p ∈ e.record.properties, ∀ c ∈ p.constraints, ∀ v,
        c.evaluate v = .ok .pass ∨ c.evaluate v = .ok .fail) ∧
      (∀ v, e.constraint.evaluate v = .ok .pass ∨ e.constraint.evaluate v = .ok .fail) ∧
      ∀ v, ∃ passed, e.validate v = .ok passed := by
  obtain ⟨ds', hparse', hresolve, hfilled⟩ := declarations_of_source h
  obtain rfl : ds = ds' := Except.ok.inj (hparse.symm.trans hparse')
  obtain ⟨haliases, hrecords⟩ :=
    placed_of_resolve (derives_definite (s := s) hranges) hfilled hresolve
  refine ⟨fun a ha => ?_, fun e he => ?_⟩
  · obtain ⟨before, d, -, -, -, hcs⟩ := haliases a ha
    exact ⟨hcs, fun v => holdAll_definite hcs "value" (some v)⟩
  · obtain ⟨sort, hsort⟩ := Schema.mem_entries.mp he
    obtain ⟨before, d, -, -, hentry, hmade⟩ := hrecords sort e hsort
    have hconstraint : e.constraint.Definite := by
      rw [hentry]
      exact definite_of_check (Record.check_definite hmade)
    exact ⟨fun p hp => (hmade p hp).2.2, hconstraint,
      fun v => Record.evaluate_definite hmade (some v)⟩

/-- A model with well-formed ranges, within a call and in an alias of a definition. -/
def rangedSource : String :=
  "alias Share range(0, 1)\n"
    ++ "define Part \x7b\n  share Share\n\x7d\n"
    ++ "model Whole \x7b\n  part Part\n  name optional(range(8))\n\x7d\n"

theorem never_faults_ranged :
    ∃ s ds, resolveSource rangedSource = .ok s ∧ parse rangedSource = .ok ds ∧
      (∀ d ∈ ds, ∀ tokens ∈ d.expressions, ∀ values,
        Expression.Calls tokens "range" values → ProperRange values) ∧
      s.models ≠ [] ∧ ∀ e ∈ s.models, ∀ v, ∃ passed, e.validate v = .ok passed := by
  have hrun : ((resolveSource rangedSource).toOption.any fun s => !s.models.isEmpty) = true := by
    decide +kernel
  have hproper : ((parse rangedSource).toOption.any fun ds =>
      ds.all fun d => d.expressions.all Expression.properRanges) = true := by
    decide +kernel
  obtain ⟨s, hs, hmodels⟩ := (Option.any_eq_true _ _).mp hrun
  obtain ⟨ds, hds, hall⟩ := (Option.any_eq_true _ _).mp hproper
  have hsource := toOption_eq_some.mp hs
  have hparse := toOption_eq_some.mp hds
  have hranges : ∀ d ∈ ds, ∀ tokens ∈ d.expressions, ∀ values,
      Expression.Calls tokens "range" values → ProperRange values := by
    intro d hd tokens htokens values hcalls
    have htokens := List.all_eq_true.mp (List.all_eq_true.mp hall d hd) tokens htokens
    exact Expression.properRange_of_calls htokens hcalls
  refine ⟨s, ds, hsource, hparse, hranges, by simpa using hmodels, fun e he => ?_⟩
  exact ((never_faults hsource hparse hranges).2 e (by simp [he])).2.2

end TypeGuard
