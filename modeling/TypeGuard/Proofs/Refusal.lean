import TypeGuard.Proofs.Factory
import TypeGuard.Proofs.Rejection
import TypeGuard.Schema.Resolve

/-!
Where declarations that do not resolve are rejected.

A rejection points at a token of the declaration: at a name, at a literal, at a token of an
expression, or at the callee of a call that is still open. The last case needs to know of every open
call that its callee is one of the tokens, so results and rejections are followed together. A call
that a standard factory refuses is always a failed conversion, and no reason is lexical.
-/

namespace TypeGuard

/-- The categories of the rejections behind the scan. -/
def Category.behindScan : List Category := [.structural, .reference, .conversion]

/-- What holds of a result, or else a rejection that points at one of the tokens. -/
def Guarded {α : Type} (categories : List Category) (ts : List Token) (P : α → Prop) :
    Except Diagnostic α → Prop
  | .ok a => P a
  | .error d => d.PointsAt categories ts

section Guarded

variable {α β : Type} {categories categories' : List Category} {ts us : List Token}
  {P : α → Prop} {Q : β → Prop} {x : Except Diagnostic α} {d : Diagnostic}

lemma Guarded.error (h : Guarded categories ts P x) (hx : x = .error d) :
    d.PointsAt categories ts := by
  rw [hx] at h
  exact h

lemma Guarded.mono (h : Guarded categories ts P x) (hcategories : categories ⊆ categories')
    (hts : ts ⊆ us) : Guarded categories' us P x := by
  cases x with
  | ok a => exact h
  | error d => exact Diagnostic.PointsAt.mono h hcategories hts

lemma Guarded.bind {f : α → Except Diagnostic β} (hx : Guarded categories ts P x)
    (hf : ∀ a, P a → Guarded categories ts Q (f a)) : Guarded categories ts Q (x >>= f) := by
  cases x with
  | ok a => exact hf a hx
  | error d => exact hx

lemma guarded_foldlM {f : β → α → Except Diagnostic β} {as : List α} {b : β}
    (hf : ∀ a ∈ as, ∀ b, Q b → Guarded categories ts Q (f b a)) (hb : Q b) :
    Guarded categories ts Q (as.foldlM f b) := by
  induction as generalizing b with
  | nil => exact hb
  | cons a as ih =>
    obtain ⟨ha, has⟩ := List.forall_mem_cons.mp hf
    rw [List.foldlM_cons]
    exact (ha b hb).bind fun b' hb' => ih has hb'

lemma guarded_reject {t : Token} {cause : Cause} (ht : t ∈ ts)
    (hcause : cause.category ∈ categories) :
    Guarded categories ts P (.error (t.reject cause)) :=
  ⟨t, ht, cause, hcause, rfl⟩

lemma guarded_malformed {t : Token} (ht : t ∈ ts) (problem : StructuralProblem) :
    Guarded Category.behindScan ts P (.error (t.malformed problem)) :=
  guarded_reject ht (by simp [Cause.category, Category.behindScan])

lemma guarded_unresolved {t : Token} (ht : t ∈ ts) (problem : ReferenceProblem) :
    Guarded Category.behindScan ts P (.error (t.reject (.reference problem))) :=
  guarded_reject ht (by simp [Cause.category, Category.behindScan])

lemma Guarded.conversion {t : Token} (h : Guarded [.conversion] [t] P x) (ht : t ∈ ts) :
    Guarded Category.behindScan ts P x :=
  h.mono (by simp [Category.behindScan]) (by simpa using ht)

end Guarded

/-! ### Calls -/

lemma Literal.ofToken_guarded (t : Token) :
    Guarded [.conversion] [t] (fun _ => True) (Literal.ofToken t) := by
  unfold Literal.ofToken
  split
  · trivial
  · split
    · trivial
    · exact guarded_reject (by simp) (by simp [Cause.category])
  · trivial
  · exact guarded_reject (by simp) (by simp [Cause.category])

namespace Call

variable (call : Call) (args : List Argument)

lemma guarded_refuse {α : Type} {P : α → Prop} (problem : ConversionProblem) :
    Guarded [.conversion] [call.token] P (.error (call.refuse problem)) :=
  guarded_reject (by simp) (by simp [Cause.category])

lemma checkArity_guarded (least most : Nat) :
    Guarded [.conversion] [call.token] (fun _ => True) (call.checkArity args least most) := by
  unfold checkArity
  split
  · trivial
  · exact call.guarded_refuse _

lemma number_guarded (index : Nat) :
    Guarded [.conversion] [call.token] (fun _ => True) (call.number args index) := by
  unfold number
  split
  · trivial
  · trivial
  · exact call.guarded_refuse _

lemma boolean_guarded (index : Nat) :
    Guarded [.conversion] [call.token] (fun _ => True) (call.boolean args index) := by
  unfold boolean
  split
  · trivial
  · trivial
  · exact call.guarded_refuse _

lemma string_guarded (index : Nat) :
    Guarded [.conversion] [call.token] (fun _ => True) (call.string args index) := by
  unfold string
  split
  · trivial
  · trivial
  · exact call.guarded_refuse _

end Call

namespace Factory

variable (call : Call) (args : List Argument)

lemma range_guarded : Guarded [.conversion] [call.token] (fun _ => True) (range call args) := by
  unfold range
  refine (call.checkArity_guarded args 0 3).bind fun _ _ => ?_
  refine (call.number_guarded args 0).bind fun _ _ => ?_
  refine (call.number_guarded args 1).bind fun _ _ => ?_
  refine (call.number_guarded args 2).bind fun _ _ => ?_
  trivial

lemma patternFlags_guarded (seen : List Char) (flags : Pattern.Flags) (cs : List Char) :
    Guarded [.conversion] [call.token] (fun _ => True) (patternFlags call seen flags cs) := by
  induction cs generalizing seen flags with
  | nil => trivial
  | cons c rest ih =>
    unfold patternFlags
    split
    · exact call.guarded_refuse _
    · split
      any_goals exact ih _ _
      exact call.guarded_refuse _

lemma pattern_guarded : Guarded [.conversion] [call.token] (fun _ => True) (pattern call args) := by
  unfold pattern
  refine (call.checkArity_guarded args 1 2).bind fun _ _ => ?_
  refine (call.string_guarded args 0).bind fun source _ => ?_
  simp only
  split
  · exact call.guarded_refuse _
  · refine (call.string_guarded args 1).bind fun flags _ => ?_
    refine (patternFlags_guarded call [] {} _).bind fun reading _ => ?_
    split
    · exact call.guarded_refuse _
    · trivial

lemma limit_guarded (side : Side) (measure : Measure) :
    Guarded [.conversion] [call.token] (fun _ => True) (limit side measure call args) := by
  unfold limit
  refine (call.checkArity_guarded args 1 2).bind fun _ _ => ?_
  refine (call.number_guarded args 0).bind fun bound _ => ?_
  cases bound with
  | none => exact call.guarded_refuse _
  | some bound => exact (call.boolean_guarded args 1).bind fun _ _ => trivial

lemma optional_guarded :
    Guarded [.conversion] [call.token] (fun _ => True) (optional call args) := by
  unfold optional
  refine (call.checkArity_guarded args 1 1).bind fun _ _ => ?_
  split
  · trivial
  · exact call.guarded_refuse _
  · exact call.guarded_refuse _

/-- **A standard factory refuses a call at its name**, as a failed conversion. -/
lemma build_guarded {name : String} {factory : Factory}
    (h : Registry.standard.factory? name = some factory) :
    Guarded [.conversion] [call.token] (fun _ => True) (factory.build call args) :=
  standard_cases
    (motive := fun factory =>
      Guarded [.conversion] [call.token] (fun _ => True) (factory.build call args))
    (range_guarded call args) (pattern_guarded call args)
    (fun _ side measure => limit_guarded call args side measure) (optional_guarded call args) h

end Factory

/-! ### Expressions -/

namespace Expression

/-- The open calls are at some of the tokens, and call standard factories. -/
def State.Within (ts : List Token) (s : State) : Prop :=
  ∀ frame ∈ s.frames, frame.callee ∈ ts ∧
    ∃ name, Registry.standard.factory? name = some frame.factory

variable {scope : Scope} {s : State} {t : Token} {ts : List Token} {frame : Frame}
  {outer : List Frame} {called : Bool}

lemma State.Within.replace (hs : s.Within ts) (hframes : s.frames = frame :: outer)
    (arguments : List Argument) (phase : Phase) :
    State.Within ts { s with
      frames := { frame with arguments := arguments, phase := phase } :: outer } := by
  unfold State.Within at hs ⊢
  rw [hframes] at hs
  obtain ⟨hframe, houter⟩ := List.forall_mem_cons.mp hs
  exact List.forall_mem_cons.mpr ⟨hframe, houter⟩

lemma deliver_guarded (hs : s.Within ts) (ht : t ∈ ts) (b : Bound) :
    Guarded Category.behindScan ts (State.Within ts) (s.deliver t b) := by
  unfold State.deliver
  split
  · next hnil => simp [Guarded, State.Within, hnil]
  · next frame outer hframes =>
    split
    · exact guarded_unresolved ht _
    · exact hs.replace hframes _ _

lemma invoke_guarded (hs : s.Within ts) (hframes : s.frames = frame :: outer) :
    Guarded Category.behindScan ts (State.Within ts) (s.invoke frame outer) := by
  unfold State.Within at hs
  rw [hframes] at hs
  obtain ⟨⟨hcallee, name, hname⟩, houter⟩ := List.forall_mem_cons.mp hs
  have hbuild := Factory.build_guarded ⟨frame.callee, s.calls + 1⟩ frame.arguments hname
  have hs' : State.Within ts { s with frames := outer, calls := s.calls + 1 } := houter
  exact (hbuild.conversion hcallee).bind fun c _ => deliver_guarded hs' hcallee _

lemma reference_guarded (hs : s.Within ts) (ht : t ∈ ts) :
    Guarded Category.behindScan ts (State.Within ts) (s.reference scope t) := by
  unfold State.reference
  have hreferred : State.Within ts { s with references := s.references ++ [t.text] } := hs
  split
  · split
    · exact deliver_guarded hreferred ht _
    · exact deliver_guarded hreferred ht _
  · split
    · exact deliver_guarded hs ht _
    · split
      · exact guarded_unresolved ht _
      · exact guarded_unresolved ht _

lemma call_guarded (hscope : scope.registry = .standard) (hs : s.Within ts) (ht : t ∈ ts) :
    Guarded Category.behindScan ts (State.Within ts) (s.call scope t) := by
  unfold State.call
  split
  · next factory hfactory =>
    rw [hscope] at hfactory
    exact List.forall_mem_cons.mpr ⟨⟨ht, t.text, hfactory⟩, hs⟩
  · split
    · exact guarded_unresolved ht _
    · exact guarded_unresolved ht _

lemma term_guarded (hscope : scope.registry = .standard) (hs : s.Within ts) (ht : t ∈ ts) :
    Guarded Category.behindScan ts (State.Within ts) (s.term scope t called) := by
  unfold State.term
  split
  · exact call_guarded hscope hs ht
  · exact reference_guarded hs ht

lemma argument_guarded (hscope : scope.registry = .standard) (hs : s.Within ts)
    (hframes : s.frames = frame :: outer) (ht : t ∈ ts) :
    Guarded Category.behindScan ts (State.Within ts) (s.argument scope frame outer t called) := by
  unfold State.argument
  split
  · refine ((Literal.ofToken_guarded t).conversion ht).bind fun value _ => ?_
    exact hs.replace hframes _ _
  · split
    · exact term_guarded hscope hs ht
    · exact guarded_malformed ht _

lemma step_guarded (hscope : scope.registry = .standard) (hs : s.Within ts) (ht : t ∈ ts) :
    Guarded Category.behindScan ts (State.Within ts) (s.step scope t called) := by
  unfold State.step
  split
  · split
    · exact term_guarded hscope hs ht
    · exact guarded_malformed ht _
  · next frame outer hframes =>
    split
    · exact hs.replace hframes _ _
    · split
      · exact invoke_guarded hs hframes
      · exact argument_guarded hscope hs hframes ht
    · exact argument_guarded hscope hs hframes ht
    · split
      · exact hs.replace hframes _ _
      · split
        · exact invoke_guarded hs hframes
        · exact guarded_malformed ht _

lemma run_guarded (hscope : scope.registry = .standard) {tokens : List Token} (hs : s.Within ts)
    (htokens : tokens ⊆ ts) :
    Guarded Category.behindScan ts (State.Within ts) (State.run scope s tokens) := by
  induction tokens generalizing s with
  | nil =>
    rw [State.run]
    split
    · exact hs
    · next frame outer hframes =>
      have hcallee : frame.callee ∈ ts := (hs frame (by simp [hframes])).1
      exact guarded_malformed hcallee _
  | cons t rest ih =>
    obtain ⟨ht, hrest⟩ := List.cons_subset.mp htokens
    have hstep : Guarded Category.behindScan ts (State.Within ts)
        (s.step scope t (opensNext rest)) := step_guarded hscope hs ht
    rw [State.run]
    split
    · next d hd => exact hstep.error hd
    · next s' hs' =>
      rw [hs'] at hstep
      exact ih hstep hrest

lemma resolve_guarded (hscope : scope.registry = .standard) (calls : Nat) (tokens : List Token) :
    Guarded Category.behindScan tokens (fun _ => True) (resolve scope calls tokens) := by
  have hstart : State.Within tokens ⟨[], [], calls, []⟩ := by simp [State.Within]
  exact (run_guarded hscope hstart (List.Subset.refl _)).bind fun _ _ => trivial

end Expression

/-! ### Schemas -/

namespace Resolution

variable {ts : List Token} {name : Token}

lemma checkFree_guarded (scope : Scope) (hname : name ∈ ts) :
    Guarded Category.behindScan ts (fun _ => True) (checkFree scope name) := by
  unfold checkFree
  split
  · exact guarded_unresolved hname _
  · trivial

lemma reserve_guarded (owner symbol : String) (symbols : List (String × String))
    (hname : name ∈ ts) :
    Guarded Category.behindScan ts (fun _ => True) (reserve owner symbol name symbols) := by
  unfold reserve
  split
  · exact guarded_unresolved hname _
  · trivial

lemma setting_guarded (c : Configuration) {s : Setting} (hs : [s.key, s.value] ⊆ ts) :
    Guarded Category.behindScan ts (fun _ => True) (setting c s) := by
  have hkey : s.key ∈ ts := hs (by simp)
  have hvalue : s.value ∈ ts := hs (by simp)
  unfold setting
  split
  · exact guarded_malformed hkey _
  · split
    · exact guarded_malformed hvalue _
    · have hliteral := (Literal.ofToken_guarded s.value).conversion hvalue
      cases hl : Literal.ofToken s.value with
      | ok value => trivial
      | error d => exact hliteral.error hl

lemma typeAlias_guarded (r : Resolution) (name : Token) (body : List Token) :
    Guarded Category.behindScan (name :: body) (fun _ => True)
      (r.typeAlias .standard name body) := by
  unfold typeAlias
  refine (checkFree_guarded _ (by simp)).bind fun _ _ => ?_
  refine (reserve_guarded _ _ _ (by simp)).bind fun _ _ => ?_
  let scope : Scope := ⟨.standard, r.bindings⟩
  have hscope : scope.registry = .standard := rfl
  have hbody := Expression.resolve_guarded hscope r.calls body
  refine (hbody.mono (List.Subset.refl _) (by simp)).bind fun _ _ => ?_
  trivial

lemma property_guarded {scope : Scope} (hscope : scope.registry = .standard) (owner : String)
    (p : Progress) (line : PropertyLine) :
    Guarded Category.behindScan (line.name :: line.expression) (fun _ => True)
      (property scope owner p line) := by
  unfold property
  simp only
  split
  · exact guarded_unresolved (t := line.name) (by simp) _
  · refine (reserve_guarded _ _ _ (by simp)).bind fun _ _ => ?_
    have hbody := Expression.resolve_guarded hscope p.calls line.expression
    refine (hbody.mono (List.Subset.refl _) (by simp)).bind fun _ _ => ?_
    trivial

lemma record_guarded (r : Resolution) (sort : RecordSort) (name : Token)
    (lines : List PropertyLine) :
    Guarded Category.behindScan (Declaration.record sort name lines).tokens (fun _ => True)
      (r.record .standard sort name lines) := by
  have hname : name ∈ (Declaration.record sort name lines).tokens := by simp [Declaration.tokens]
  unfold record
  refine (checkFree_guarded _ hname).bind fun _ _ => ?_
  refine (reserve_guarded _ _ _ hname).bind fun _ _ => ?_
  refine (reserve_guarded _ _ _ hname).bind fun _ _ => ?_
  refine (guarded_foldlM (fun line hline p _ => ?_) trivial).bind (P := fun _ => True) fun p _ => ?_
  · refine (property_guarded rfl _ p line).mono (List.Subset.refl _) ?_
    intro t ht
    exact List.mem_cons_of_mem _ (List.mem_flatMap.mpr ⟨line, hline, ht⟩)
  · cases sort <;> trivial

lemma declaration_guarded (r : Resolution) (d : Declaration) :
    Guarded Category.behindScan d.tokens (fun _ => True) (r.declaration .standard d) := by
  cases d with
  | config keyword settings =>
    refine (guarded_foldlM (fun s hs c _ => ?_) trivial).bind (P := fun _ => True)
      fun c _ => trivial
    refine setting_guarded c fun t ht => ?_
    exact List.mem_cons_of_mem _ (List.mem_flatMap.mpr ⟨s, hs, ht⟩)
  | typeAlias name body => exact typeAlias_guarded r name body
  | record sort name lines => exact record_guarded r sort name lines

end Resolution

/-- **Resolving rejects at a token of a declaration**, and never for a lexical reason. -/
lemma resolve_error {ds : List Declaration} {d : Diagnostic} (h : resolve ds = .error d) :
    d.PointsAt Category.behindScan (ds.flatMap Declaration.tokens) := by
  have hguarded : Guarded Category.behindScan (ds.flatMap Declaration.tokens) (fun _ => True)
      (resolve ds) := by
    refine (guarded_foldlM (fun e he r _ => ?_) trivial).bind (P := fun _ => True)
      fun r _ => trivial
    refine (Resolution.declaration_guarded r e).mono (List.Subset.refl _) ?_
    exact fun t ht => List.mem_flatMap.mpr ⟨e, he, ht⟩
  exact hguarded.error h

end TypeGuard
