import TypeGuard.Proofs.Places
import TypeGuard.Proofs.Refusal
import TypeGuard.Proofs.Resolution

/-!
Declarations that are alike resolve alike.

An expression is read token by token, and the tokens of the calls that are still open are kept. Two
runs over alike tokens stay in states that differ in the places of these tokens at most, or are
rejected at the same token for reasons of the same category. No place reaches a constraint, so runs
that succeed end with the same terms.
-/

namespace TypeGuard

open Outcome Places

/-- Both computations succeed with related results, or both are rejected under one category. -/
inductive Agree {α β : Type} (R : α → β → Prop) :
    Except Diagnostic α → Except Diagnostic β → Prop where
  | ok {a : α} {b : β} : R a b → Agree R (.ok a) (.ok b)
  | error {d e : Diagnostic} : d.cause.category = e.cause.category → Agree R (.error d) (.error e)

section Agree

variable {α β γ δ : Type} {R : α → β → Prop} {S : γ → δ → Prop} {x : Except Diagnostic α}
  {y : Except Diagnostic β}

lemma Agree.bind {f : α → Except Diagnostic γ} {g : β → Except Diagnostic δ} (hxy : Agree R x y)
    (hfg : ∀ a b, R a b → Agree S (f a) (g b)) : Agree S (x >>= f) (y >>= g) := by
  cases hxy with
  | ok hab => exact hfg _ _ hab
  | error hde => exact .error hde

lemma Agree.map {x y : Except Diagnostic α} (h : Agree Eq x y) (f : α → γ) :
    Agree Eq (x.map f) (y.map f) := by
  cases h with
  | ok hab => exact .ok (congrArg f hab)
  | error hde => exact .error hde

lemma Agree.eq_ok {x y : Except Diagnostic α} {a : α} (h : Agree Eq x y) (hx : x = .ok a) :
    y = .ok a := by
  subst hx
  cases h with
  | ok hab => rw [hab]

lemma agree_foldlM {A : α → α → Prop} {f : γ → α → Except Diagnostic γ} {as as' : List α}
    (ha : List.Forall₂ A as as') (hf : ∀ a a' c, A a a' → Agree Eq (f c a) (f c a')) (c : γ) :
    Agree Eq (as.foldlM f c) (as'.foldlM f c) := by
  induction ha generalizing c with
  | nil => exact .ok rfl
  | cons hab _ ih =>
    rw [List.foldlM_cons, List.foldlM_cons]
    refine (hf _ _ c hab).bind ?_
    rintro c₁ _ rfl
    exact ih c₁

end Agree

lemma Literal.ofToken_agree {t u : Token} (h : t.Alike u) :
    Agree Eq (Literal.ofToken t) (Literal.ofToken u) := by
  obtain ⟨p, rfl⟩ := h.exists_eq
  unfold Literal.ofToken
  cases t.kind with
  | boolean => exact .ok rfl
  | string => exact .ok rfl
  | number =>
    simp only
    cases finite? t.text with
    | some x => exact .ok rfl
    | none => exact .error rfl
  | _ => exact .error rfl

/-- A standard factory builds the same constraint whatever token calls it. -/
lemma Factory.build_token {name : String} {factory : Factory}
    (hf : Registry.standard.factory? name = some factory) {t u : Token} {id : Nat}
    {args : List Argument} {c : Constraint} (hc : factory.build ⟨t, id⟩ args = .ok c) :
    factory.build ⟨u, id⟩ args = .ok c := by
  revert hc
  refine Factory.standard_cases (motive := fun factory =>
    factory.build ⟨t, id⟩ args = .ok c → factory.build ⟨u, id⟩ args = .ok c) ?_ ?_ ?_ ?_ hf
  · exact fun hc => range_eq_ok.mpr (range_eq_ok.mp hc)
  · intro hc
    obtain ⟨hlen, source, flags, reading, p, h0, hs, h1, hflags, hp, rfl⟩ := pattern_eq_ok.mp hc
    exact pattern_eq_ok.mpr
      ⟨hlen, source, flags, reading, p, h0, hs, h1, patternFlags_eq_ok hflags, hp, rfl⟩
  · exact fun name side measure hc => limit_eq_ok.mpr (limit_eq_ok.mp hc)
  · intro hc
    obtain ⟨inner, rfl, rfl⟩ := optional_eq_ok.mp hc
    exact optional_eq_ok.mpr ⟨inner, rfl, rfl⟩

lemma Factory.build_agree {name : String} {factory : Factory}
    (hf : Registry.standard.factory? name = some factory) (t u : Token) (id : Nat)
    (args : List Argument) :
    Agree Eq (factory.build ⟨t, id⟩ args) (factory.build ⟨u, id⟩ args) := by
  have hconversion (call : Call) {d : Diagnostic} (h : factory.build call args = .error d) :
      d.cause.category = .conversion := by
    obtain ⟨v, -, cause, hcause, rfl⟩ := (build_guarded call args hf).error h
    exact List.mem_singleton.mp hcause
  cases ht : factory.build ⟨t, id⟩ args with
  | ok c =>
    rw [build_token hf ht]
    exact .ok rfl
  | error d =>
    cases hu : factory.build ⟨u, id⟩ args with
    | ok c => simp [build_token hf hu] at ht
    | error e => exact .error ((hconversion _ ht).trans (hconversion _ hu).symm)

/-! ### Expressions -/

namespace Expression

structure Frame.Alike (f g : Frame) : Prop where
  callee : f.callee.Alike g.callee
  factory : f.factory = g.factory
  known : ∃ name, Registry.standard.factory? name = some f.factory
  arguments : f.arguments = g.arguments
  phase : f.phase = g.phase

/-- States that differ in the places of the open calls at most. -/
structure State.Alike (s s' : State) : Prop where
  frames : List.Forall₂ Frame.Alike s.frames s'.frames
  results : s.results = s'.results
  calls : s.calls = s'.calls
  references : s.references = s'.references

variable {scope : Scope} {s s' : State} {t t' : Token} {called : Bool} {frame frame' : Frame}
  {outer outer' : List Frame}

lemma State.Alike.replace (hs : s.Alike s') (hframe : frame.Alike frame')
    (houter : List.Forall₂ Frame.Alike outer outer') {arguments arguments' : List Argument}
    (harguments : arguments = arguments') (phase : Phase) :
    State.Alike
      { s with frames := { frame with arguments := arguments, phase := phase } :: outer }
      { s' with frames := { frame' with arguments := arguments', phase := phase } :: outer' } :=
  ⟨.cons ⟨hframe.callee, hframe.factory, hframe.known, harguments, rfl⟩ houter, hs.results,
    hs.calls, hs.references⟩

lemma deliver_agree (hs : s.Alike s') (t t' : Token) (b : Bound) :
    Agree State.Alike (s.deliver t b) (s'.deliver t' b) := by
  have hframes := hs.frames
  unfold State.deliver
  cases hf : s.frames with
  | nil =>
    rw [hf] at hframes
    rw [List.forall₂_nil_left_iff.mp hframes]
    exact .ok ⟨.nil, by simp [hs.results], hs.calls, hs.references⟩
  | cons frame outer =>
    rw [hf] at hframes
    obtain ⟨frame', outer', hframe, houter, hf'⟩ := List.forall₂_cons_left_iff.mp hframes
    rw [hf']
    by_cases hcount : 1 < b.count
    · simp only [if_pos hcount]
      exact .error rfl
    · simp only [if_neg hcount]
      exact .ok (hs.replace hframe houter (by rw [hframe.arguments]) .separator)

lemma invoke_agree (hs : s.Alike s') (hframe : frame.Alike frame')
    (houter : List.Forall₂ Frame.Alike outer outer') :
    Agree State.Alike (s.invoke frame outer) (s'.invoke frame' outer') := by
  obtain ⟨name, hname⟩ := hframe.known
  have hbuild := Factory.build_agree hname frame.callee frame'.callee (s.calls + 1) frame.arguments
  have hs' : State.Alike { s with frames := outer, calls := s.calls + 1 }
      { s' with frames := outer', calls := s'.calls + 1 } :=
    ⟨houter, hs.results, by simp [hs.calls], hs.references⟩
  unfold State.invoke
  simp only
  rw [← hframe.factory, ← hframe.arguments, ← hs.calls] at *
  refine hbuild.bind ?_
  rintro c _ rfl
  exact deliver_agree hs' _ _ _

lemma reference_agree (hs : s.Alike s') (ht : t.Alike t') :
    Agree State.Alike (s.reference scope t) (s'.reference scope t') := by
  have hreferred : State.Alike { s with references := s.references ++ [t.text] }
      { s' with references := s'.references ++ [t.text] } :=
    ⟨hs.frames, hs.results, hs.calls, by simp [hs.references]⟩
  unfold State.reference
  rw [← ht.text]
  cases scope.bindings.lookup t.text with
  | some binding =>
    cases binding with
    | typeAlias constraints => exact deliver_agree hreferred _ _ _
    | record sort r => exact deliver_agree hreferred _ _ _
  | none =>
    cases scope.registry.primitive? t.text with
    | some c => exact deliver_agree hs _ _ _
    | none =>
      simp only
      split
      · exact .error rfl
      · exact .error rfl

lemma call_agree (hscope : scope.registry = .standard) (hs : s.Alike s') (ht : t.Alike t') :
    Agree State.Alike (s.call scope t) (s'.call scope t') := by
  unfold State.call
  rw [← ht.text]
  cases hf : scope.registry.factory? t.text with
  | some factory =>
    exact .ok ⟨.cons ⟨ht, rfl, ⟨t.text, hscope ▸ hf⟩, rfl, rfl⟩ hs.frames, hs.results, hs.calls,
      hs.references⟩
  | none =>
    simp only
    split
    · exact .error rfl
    · exact .error rfl

lemma term_agree (hscope : scope.registry = .standard) (hs : s.Alike s') (ht : t.Alike t') :
    Agree State.Alike (s.term scope t called) (s'.term scope t' called) := by
  unfold State.term
  cases called with
  | true => exact call_agree hscope hs ht
  | false => exact reference_agree hs ht

lemma argument_agree (hscope : scope.registry = .standard) (hs : s.Alike s')
    (hframe : frame.Alike frame') (houter : List.Forall₂ Frame.Alike outer outer')
    (ht : t.Alike t') :
    Agree State.Alike (s.argument scope frame outer t called)
      (s'.argument scope frame' outer' t' called) := by
  unfold State.argument
  rw [← ht.kind]
  split
  · refine (Literal.ofToken_agree ht).bind ?_
    rintro value _ rfl
    exact .ok (hs.replace hframe houter (by rw [hframe.arguments]) .separator)
  · split
    · exact term_agree hscope hs ht
    · exact .error rfl

/-- **One token** leads from alike states to alike states, or is rejected in both. -/
lemma step_agree (hscope : scope.registry = .standard) (hs : s.Alike s') (ht : t.Alike t')
    (called : Bool) :
    Agree State.Alike (s.step scope t called) (s'.step scope t' called) := by
  have hframes := hs.frames
  unfold State.step
  rw [← ht.kind]
  cases hf : s.frames with
  | nil =>
    rw [hf] at hframes
    rw [List.forall₂_nil_left_iff.mp hframes]
    simp only
    split
    · exact term_agree hscope hs ht
    · exact .error rfl
  | cons frame outer =>
    rw [hf] at hframes
    obtain ⟨frame', outer', hframe, houter, hf'⟩ := List.forall₂_cons_left_iff.mp hframes
    rw [hf']
    simp only [← hframe.phase]
    cases frame.phase with
    | opening => exact .ok (hs.replace hframe houter hframe.arguments .first)
    | first =>
      simp only
      split
      · exact invoke_agree hs hframe houter
      · exact argument_agree hscope hs hframe houter ht
    | argument => exact argument_agree hscope hs hframe houter ht
    | separator =>
      simp only
      split
      · exact .ok (hs.replace hframe houter hframe.arguments .argument)
      · split
        · exact invoke_agree hs hframe houter
        · exact .error rfl

lemma opensNext_alike {tokens tokens' : List Token} (h : List.Forall₂ Token.Alike tokens tokens') :
    opensNext tokens = opensNext tokens' := by
  cases h with
  | nil => rfl
  | cons hab _ => simp [opensNext, hab.kind]

lemma run_agree (hscope : scope.registry = .standard) {tokens tokens' : List Token}
    (ht : List.Forall₂ Token.Alike tokens tokens') (hs : s.Alike s') :
    Agree State.Alike (State.run scope s tokens) (State.run scope s' tokens') := by
  induction ht generalizing s s' with
  | nil =>
    have hframes := hs.frames
    rw [State.run, State.run]
    cases hf : s.frames with
    | nil =>
      rw [hf] at hframes
      rw [List.forall₂_nil_left_iff.mp hframes]
      exact .ok hs
    | cons frame outer =>
      rw [hf] at hframes
      obtain ⟨frame', outer', -, -, hf'⟩ := List.forall₂_cons_left_iff.mp hframes
      rw [hf']
      exact .error rfl
  | @cons t t' rest rest' hab hrest ih =>
    have hstep := step_agree hscope hs hab (opensNext rest)
    rw [State.run, State.run, ← opensNext_alike hrest]
    generalize s.step scope t (opensNext rest) = x at hstep ⊢
    generalize s'.step scope t' (opensNext rest) = y at hstep ⊢
    cases hstep with
    | ok hs₁ => exact ih hs₁
    | error hde => exact .error hde

lemma resolve_agree (hscope : scope.registry = .standard) (calls : Nat)
    {tokens tokens' : List Token} (ht : List.Forall₂ Token.Alike tokens tokens') :
    Agree Eq (resolve scope calls tokens) (resolve scope calls tokens') := by
  refine (run_agree hscope ht ⟨.nil, rfl, rfl, rfl⟩).bind fun u u' halike => ?_
  rw [halike.results, halike.calls, halike.references]
  exact .ok rfl

end Expression

/-! ### Declarations -/

namespace Resolution

lemma checkFree_agree (scope : Scope) {name name' : Token} (hn : name.Alike name') :
    Agree Eq (checkFree scope name) (checkFree scope name') := by
  unfold checkFree
  rw [← hn.text]
  split
  · exact .error rfl
  · exact .ok rfl

lemma reserve_agree (owner symbol : String) (anchor anchor' : Token)
    (symbols : List (String × String)) :
    Agree Eq (reserve owner symbol anchor symbols) (reserve owner symbol anchor' symbols) := by
  unfold reserve
  split
  · exact .error rfl
  · exact .ok rfl

lemma setting_agree (c : Configuration) {s s' : Setting} (hs : s.Alike s') :
    Agree Eq (setting c s) (setting c s') := by
  unfold setting
  rw [← hs.key.kind, ← hs.key.text, ← hs.value.kind]
  split
  · exact .error rfl
  · split
    · exact .error rfl
    · exact (Literal.ofToken_agree hs.value).map _

lemma property_agree {scope : Scope} (hscope : scope.registry = .standard) (owner : String)
    (p : Progress) {line line' : PropertyLine} (hl : line.Alike line') :
    Agree Eq (property scope owner p line) (property scope owner p line') := by
  unfold property
  simp only [← hl.name.text]
  split
  · exact .error rfl
  · refine (reserve_agree _ _ _ _ _).bind ?_
    rintro symbols _ rfl
    refine (Expression.resolve_agree hscope p.calls hl.expression).bind ?_
    rintro outcome _ rfl
    exact .ok rfl

lemma declaration_agree (r : Resolution) {d e : Declaration} (hd : d.Alike e) :
    Agree Eq (r.declaration .standard d) (r.declaration .standard e) := by
  cases hd with
  | config hs =>
    refine (agree_foldlM hs (fun _ _ c hsetting => setting_agree c hsetting) r.config).bind ?_
    rintro c _ rfl
    exact .ok rfl
  | typeAlias hn hb =>
    rw [declaration, declaration, typeAlias, typeAlias]
    simp only [← hn.text]
    refine (checkFree_agree _ hn).bind fun _ _ _ => ?_
    refine (reserve_agree _ _ _ _ _).bind ?_
    rintro symbols _ rfl
    refine (Expression.resolve_agree rfl r.calls hb).bind ?_
    rintro outcome _ rfl
    exact .ok rfl
  | record hn hl =>
    rw [declaration, declaration, record, record]
    simp only [← hn.text]
    refine (checkFree_agree _ hn).bind fun _ _ _ => ?_
    refine (reserve_agree _ _ _ _ _).bind ?_
    rintro symbols _ rfl
    refine (reserve_agree _ _ _ _ _).bind ?_
    rintro symbols _ rfl
    refine (agree_foldlM hl (fun _ _ p hline => property_agree rfl _ p hline) _).bind ?_
    rintro p _ rfl
    split
    · exact .ok rfl
    · exact .ok rfl

end Resolution

/-- **A schema does not depend on places**, and neither does the category of a rejection. -/
lemma resolve_agree {ds es : List Declaration} (hd : List.Forall₂ Declaration.Alike ds es) :
    Agree Eq (resolve ds) (resolve es) := by
  refine (agree_foldlM hd (fun _ _ r hde => Resolution.declaration_agree r hde) .initial).bind ?_
  rintro r _ rfl
  exact .ok rfl

lemma resolve_alike {ds es : List Declaration} (hd : List.Forall₂ Declaration.Alike ds es)
    {s : Schema} (h : resolve ds = .ok s) : resolve es = .ok s :=
  (resolve_agree hd).eq_ok h

end TypeGuard
