import Mathlib.Tactic.Lemma
import TypeGuard.Constraint.Evaluate

/-!
When a value passes: several constraints are passed exactly if each of them is, and a record exactly
if every property passes all its constraints.
-/

namespace TypeGuard

lemma Constraint.evaluate_eq (c : Constraint) (v : Option Value) :
    c.evaluate v = c.check.evaluate v := by
  cases c
  rw [Constraint.evaluate]

lemma Verdict.ofBool_eq_pass {passed : Bool} : Verdict.ofBool passed = .pass ↔ passed = true := by
  cases passed <;> simp [Verdict.ofBool]

lemma evaluateAll_eq_pass {cs : List Constraint} {v : Option Value} :
    evaluateAll cs v = .ok .pass ↔ ∀ c ∈ cs, c.evaluate v = .ok .pass := by
  induction cs with
  | nil => simp [evaluateAll]
  | cons c rest ih =>
    rw [evaluateAll, List.forall_mem_cons, ← ih]
    rcases hc : c.evaluate v with fault | _ | _ | misuse <;> simp

lemma evaluateAll_single (c : Constraint) (v : Option Value) :
    evaluateAll [c] v = c.evaluate v := by
  rw [evaluateAll]
  rcases c.evaluate v with fault | _ | _ | misuse <;> simp [evaluateAll]

lemma evaluateAll_append (first second : List Constraint) (v : Option Value) :
    evaluateAll (first ++ second) v =
      match evaluateAll first v with
      | .ok .pass => evaluateAll second v
      | other => other := by
  induction first with
  | nil => simp [evaluateAll]
  | cons c rest ih =>
    rw [List.cons_append, evaluateAll, evaluateAll]
    rcases c.evaluate v with fault | _ | _ | misuse <;> simp [ih]

/-- Whether all constraints hold is decided by their common verdict. -/
lemma holdAll_eq (context : String) (cs : List Constraint) (v : Option Value) :
    holdAll context cs v =
      match evaluateAll cs v with
      | .ok .pass => .ok true
      | .ok .fail => .ok false
      | .ok (.diagnostic misuse) => .error (.diagnostic context misuse)
      | .error fault => .error fault := by
  induction cs with
  | nil => simp [holdAll, evaluateAll]
  | cons c rest ih =>
    rw [holdAll, evaluateAll]
    rcases c.evaluate v with fault | _ | _ | misuse <;> simp [ih]

lemma holdAll_eq_true {context : String} {cs : List Constraint} {v : Option Value} :
    holdAll context cs v = .ok true ↔ ∀ c ∈ cs, c.evaluate v = .ok .pass := by
  induction cs with
  | nil => simp [holdAll]
  | cons c rest ih =>
    rw [holdAll, List.forall_mem_cons, ← ih]
    rcases hc : c.evaluate v with fault | _ | _ | misuse <;> simp

lemma Property.evaluate_eq_true {owner : String} {p : Property} {v : Option Value} :
    p.evaluate owner v = .ok true ↔
      ∀ c ∈ p.constraints, c.evaluate (v.bind (·.field? p.name)) = .ok .pass := by
  cases p
  rw [Property.evaluate, holdAll_eq_true]

lemma evaluateProperties_eq_true {owner : String} {ps : List Property} {v : Option Value} :
    evaluateProperties owner ps v = .ok true ↔ ∀ p ∈ ps, p.evaluate owner v = .ok true := by
  induction ps with
  | nil => simp [evaluateProperties]
  | cons p rest ih =>
    rw [evaluateProperties, List.forall_mem_cons, ← ih]
    rcases hp : p.evaluate owner v with fault | _ | _ <;> simp

lemma Record.evaluate_eq_true {r : Record} {v : Option Value} :
    r.evaluate v = .ok true ↔ ∀ p ∈ r.properties, ∀ c ∈ p.constraints,
      c.evaluate (v.bind (·.field? p.name)) = .ok .pass := by
  cases r
  simp only [Record.evaluate, evaluateProperties_eq_true, Property.evaluate_eq_true]

lemma Check.evaluate_record_eq_pass {r : Record} {v : Option Value} :
    (Check.record r).evaluate v = .ok .pass ↔ r.evaluate v = .ok true := by
  rw [Check.evaluate]
  rcases r.evaluate v with fault | passed <;> simp [Except.map, Verdict.ofBool_eq_pass]

/-- A record only looks at the fields of a value. -/
lemma Record.evaluate_congr {r : Record} {v w : Option Value}
    (h : ∀ p ∈ r.properties, v.bind (·.field? p.name) = w.bind (·.field? p.name)) :
    r.evaluate v = r.evaluate w := by
  obtain ⟨owner, properties⟩ := r
  rw [Record.evaluate, Record.evaluate]
  induction properties with
  | nil => simp [evaluateProperties]
  | cons p rest ih =>
    obtain ⟨hp, hrest⟩ := List.forall_mem_cons.mp h
    have hproperty : p.evaluate owner v = p.evaluate owner w := by
      cases p
      rw [Property.evaluate, Property.evaluate, hp]
    rw [evaluateProperties, evaluateProperties, ih hrest, hproperty]

end TypeGuard
