import TypeGuard.Proofs.Phases

/-!
The terms of an expression as trees.

An expression that is read to its end spells a sequence of terms, and reading its tokens does
exactly what evaluating these terms one by one does: with the same result, or with the same
rejection. So what holds of resolved expressions can be proved along the trees.
-/

namespace TypeGuard

open Outcome

namespace Expression

mutual

inductive Term where
  | name (token : Token)
  | call (callee : Token) (operands : List Operand)

/-- What stands between the parentheses of a call: literals and terms. -/
inductive Operand where
  | literal (token : Token)
  | term (a : Term)

end

namespace Term

def token : Term → Token
  | name t => t
  | call callee _ => callee

/-- What holds of names, and of a call if it holds of the terms among its operands, holds of every
term. -/
@[elab_as_elim, induction_eliminator]
theorem inductionOn {motive : Term → Prop} (name : ∀ t, motive (name t))
    (call : ∀ callee operands, (∀ a, Operand.term a ∈ operands → motive a) →
      motive (call callee operands)) : ∀ a, motive a
  | .name t => name t
  | .call callee operands => call callee operands fun a ha =>
      have _inside : Operand.term a ∈ operands := ha
      inductionOn name call a
  termination_by a => sizeOf a
  decreasing_by
    have hlt := List.sizeOf_lt_of_mem ha
    simp only [Operand.term.sizeOf_spec, Term.call.sizeOf_spec] at hlt ⊢
    omega

end Term

/-! ### The tokens of a term -/

mutual

inductive Term.Spelled : Term → List Token → Prop where
  | name {t : Token} : t.kind = .identifier → Term.Spelled (.name t) [t]
  | call {callee opener closer : Token} {operands : List Operand} {inner : List Token} :
      callee.kind = .identifier → opener.kind = .openParen → closer.kind = .closeParen →
      Operand.Listed operands inner →
      Term.Spelled (.call callee operands) (callee :: opener :: (inner ++ [closer]))

inductive Operand.Spelled : Operand → List Token → Prop where
  | literal {t : Token} : t.kind.isLiteral = true → Operand.Spelled (.literal t) [t]
  | term {a : Term} {ts : List Token} : a.Spelled ts → Operand.Spelled (.term a) ts

/-- Tokens that spell operands, with commas between them. -/
inductive Operand.Listed : List Operand → List Token → Prop where
  | nil : Operand.Listed [] []
  | single {o : Operand} {ts : List Token} : o.Spelled ts → Operand.Listed [o] ts
  | cons {o next : Operand} {rest : List Operand} {comma : Token} {ts more : List Token} :
      o.Spelled ts → comma.kind = .comma → Operand.Listed (next :: rest) more →
      Operand.Listed (o :: next :: rest) (ts ++ comma :: more)

end

/-- Tokens that spell terms one after the other. -/
inductive Sequence : List Term → List Token → Prop where
  | nil : Sequence [] []
  | cons {a : Term} {rest : List Term} {ts more : List Token} :
      a.Spelled ts → Sequence rest more → Sequence (a :: rest) (ts ++ more)

/-- What holds of literals and commas, and of the terms among operands, holds of the operands with
the commas between them, if it passes on to longer lists. -/
lemma Operand.Listed.induct {motive : List Token → Prop} {operands : List Operand}
    {inner : List Token} (h : Operand.Listed operands inner) (nil : motive [])
    (append : ∀ ts us, motive ts → motive us → motive (ts ++ us))
    (other : ∀ t : Token, t.kind.isLiteral = true ∨ t.kind = .comma → motive [t])
    (term : ∀ a, Operand.term a ∈ operands → ∀ ts, a.Spelled ts → motive ts) : motive inner := by
  have hoperand {o : Operand} {ts : List Token} (ho : o ∈ operands) (hts : o.Spelled ts) :
      motive ts := by
    cases hts with
    | literal ht => exact other _ (.inl ht)
    | term ha => exact term _ ho _ ha
  induction operands generalizing inner with
  | nil =>
    cases h
    exact nil
  | cons o others ih =>
    cases h with
    | single ho => exact hoperand (by simp) ho
    | cons ho hcomma hmore =>
      have hrest := ih hmore (fun a ha => term a (List.mem_cons_of_mem _ ha))
        fun ho' => hoperand (List.mem_cons_of_mem _ ho')
      exact append _ _ (hoperand (by simp) ho) (append [_] _ (other _ (.inr hcomma)) hrest)

lemma Sequence.opensNext {terms : List Term} {tokens : List Token} (h : Sequence terms tokens) :
    opensNext tokens = false := by
  cases h with
  | nil => rfl
  | cons ha _ =>
    cases ha with
    | name ht => simp [Expression.opensNext, ht]
    | call hcallee _ _ _ => simp [Expression.opensNext, hcallee]

/-! ### Evaluating a term -/

/-- What is counted along the way: the calls so far, and the declared names referred to. -/
structure Tally where
  calls : Nat
  references : List String

def factoryOf (scope : Scope) (t : Token) : Except Diagnostic Factory :=
  match scope.registry.factory? t.text with
  | some factory => .ok factory
  | none =>
    if scope.contains t.text then .error (unresolved t (.notAFactory t.text))
    else .error (unresolved t (.unknown t.text))

def boundOf (scope : Scope) (tally : Tally) (t : Token) : Except Diagnostic (Bound × Tally) :=
  match scope.bindings.lookup t.text with
  | some (.typeAlias constraints) =>
    .ok (.typeAlias t.text constraints, { tally with references := tally.references ++ [t.text] })
  | some (.record sort r) =>
    .ok (.record r ((Role.record sort).symbol t.text),
      { tally with references := tally.references ++ [t.text] })
  | none =>
    match scope.registry.primitive? t.text with
    | some c => .ok (.constraint c, tally)
    | none =>
      if (scope.registry.factory? t.text).isSome then
        .error (unresolved t (.uncalledFactory t.text))
      else .error (unresolved t (.unknown t.text))

/-- The argument that a term makes, if it stands for one constraint. -/
def argumentOf (t : Token) (b : Bound) : Except Diagnostic Argument :=
  if 1 < b.count then .error (unresolved t (.severalConstraints t.text))
  else .ok (.constraint b.toConstraint)

mutual

/-- The value of a term. A factory is invoked behind its operands. -/
def Term.evaluate (scope : Scope) (tally : Tally) : Term → Except Diagnostic (Bound × Tally)
  | .name t => boundOf scope tally t
  | .call callee operands => do
    let factory ← factoryOf scope callee
    let (arguments, tally) ← evaluateOperands scope tally operands
    let c ← factory.build ⟨callee, tally.calls + 1⟩ arguments
    return (.constraint c, { tally with calls := tally.calls + 1 })

def Operand.evaluate (scope : Scope) (tally : Tally) :
    Operand → Except Diagnostic (Argument × Tally)
  | .literal t => do return (.literal (← Literal.ofToken t), tally)
  | .term a => do
    let (b, tally) ← a.evaluate scope tally
    return (← argumentOf a.token b, tally)

def evaluateOperands (scope : Scope) (tally : Tally) :
    List Operand → Except Diagnostic (List Argument × Tally)
  | [] => .ok ([], tally)
  | o :: rest => do
    let (argument, tally) ← o.evaluate scope tally
    let (arguments, tally) ← evaluateOperands scope tally rest
    return (argument :: arguments, tally)

end

/-- The values of terms, from left to right. -/
def evaluateTerms (scope : Scope) (tally : Tally) :
    List Term → Except Diagnostic (List Bound × Tally)
  | [] => .ok ([], tally)
  | a :: rest => do
    let (b, tally) ← a.evaluate scope tally
    let (bs, tally) ← evaluateTerms scope tally rest
    return (b :: bs, tally)

variable {scope : Scope}

lemma factoryOf_eq_ok {t : Token} {factory : Factory} :
    factoryOf scope t = .ok factory ↔ scope.registry.factory? t.text = some factory := by
  unfold factoryOf
  split
  · next hf => simp [hf]
  · next hf => split <;> simp [hf]

lemma argumentOf_eq_ok {t : Token} {b : Bound} {argument : Argument} :
    argumentOf t b = .ok argument ↔ b.count ≤ 1 ∧ argument = .constraint b.toConstraint := by
  unfold argumentOf
  split
  · next hcount => simp; omega
  · next hcount => simp [eq_comm]; omega

/-! ### Reading the tokens of a term -/

def State.tally (s : State) : Tally := ⟨s.calls, s.references⟩

def State.counted (s : State) (tally : Tally) : State :=
  { s with calls := tally.calls, references := tally.references }

/-- The state in which the innermost call has got one more argument. -/
def State.given (s : State) (frame : Frame) (outer : List Frame) (argument : Argument) : State :=
  { s with frames :=
      { frame with arguments := frame.arguments ++ [argument], phase := .separator } :: outer }

/-- A term may come next: no call is open, or the innermost one waits for an argument. -/
def State.Awaits (s : State) : Prop :=
  ∀ frame ∈ s.frames.head?, frame.phase = .first ∨ frame.phase = .argument

lemma run_cons (s : State) (t : Token) (rest : List Token) :
    s.run scope (t :: rest) = s.step scope t (opensNext rest) >>= fun s' => s'.run scope rest := by
  rw [State.run]
  cases s.step scope t (opensNext rest) <;> rfl

lemma step_term {s : State} (hs : s.Awaits) {t : Token} (ht : t.kind = .identifier)
    (called : Bool) : s.step scope t called = s.term scope t called := by
  unfold State.step
  cases hf : s.frames with
  | nil => simp [ht]
  | cons frame outer =>
    have hphase := hs frame (by simp [hf])
    rcases hphase with hphase | hphase <;> simp [hphase, State.argument, ht, Kind.isLiteral]

lemma reference_eq (s : State) (t : Token) :
    s.reference scope t =
      boundOf scope s.tally t >>= fun r => (s.counted r.2).deliver t r.1 := by
  unfold State.reference boundOf
  cases scope.bindings.lookup t.text with
  | some binding => cases binding <;> rfl
  | none =>
    cases scope.registry.primitive? t.text with
    | some c => rfl
    | none => simp only; split <;> rfl

lemma call_eq (s : State) (t : Token) :
    s.call scope t = factoryOf scope t >>= fun factory =>
      .ok { s with frames := ⟨t, factory, [], .opening⟩ :: s.frames } := by
  unfold State.call factoryOf
  cases scope.registry.factory? t.text with
  | some factory => rfl
  | none => simp only; split <;> rfl

lemma deliver_eq {s : State} {frame : Frame} {outer : List Frame}
    (hf : s.frames = frame :: outer) (t : Token) (b : Bound) :
    s.deliver t b = argumentOf t b >>= fun argument => .ok (s.given frame outer argument) := by
  unfold State.deliver argumentOf
  rw [hf]
  simp only
  split <;> rfl

/-- Reading the tokens of a term does what evaluating it does. -/
def Term.Runs (scope : Scope) (a : Term) : Prop :=
  ∀ ts, a.Spelled ts → ∀ (s : State) (rest : List Token), s.Awaits → opensNext rest = false →
    s.run scope (ts ++ rest) = a.evaluate scope s.tally >>= fun r =>
      (s.counted r.2).deliver a.token r.1 >>= fun s' => s'.run scope rest

variable {s : State} {frame : Frame} {outer : List Frame} {rest : List Token}

lemma run_operand {o : Operand} {ts : List Token} (ho : o.Spelled ts)
    (ih : ∀ a, o = .term a → a.Runs scope) (hf : s.frames = frame :: outer)
    (hphase : frame.phase = .first ∨ frame.phase = .argument) (hrest : opensNext rest = false) :
    s.run scope (ts ++ rest) = o.evaluate scope s.tally >>= fun r =>
      ((s.counted r.2).given frame outer r.1).run scope rest := by
  cases ho with
  | @literal t ht =>
    have hstep : s.step scope t (opensNext rest) =
        s.argument scope frame outer t (opensNext rest) := by
      have hclose : t.kind ≠ .closeParen := by
        intro hkind
        simp [hkind, Kind.isLiteral] at ht
      unfold State.step
      rcases hphase with hphase | hphase <;> simp [hf, hphase, hclose]
    rw [List.singleton_append, run_cons, hstep, State.argument, if_pos ht, Operand.evaluate]
    cases Literal.ofToken t <;> rfl
  | @term a ts ha =>
    have hs : s.Awaits := by
      intro f hhead
      obtain rfl : frame = f := by simpa [hf] using hhead
      exact hphase
    rw [ih a rfl ts ha s rest hs hrest, Operand.evaluate]
    cases a.evaluate scope s.tally with
    | error d => rfl
    | ok r =>
      have hdeliver := deliver_eq (s := s.counted r.2) hf a.token r.1
      simp only [bind, Except.bind] at hdeliver ⊢
      rw [hdeliver]
      cases argumentOf a.token r.1 <;> rfl

/-- The operands of a call are read up to its closing parenthesis, where the factory is invoked. -/
lemma run_operands {operands : List Operand} {inner : List Token} {closer : Token}
    (h : Operand.Listed operands inner) (ih : ∀ a, Operand.term a ∈ operands → a.Runs scope)
    (hcloser : closer.kind = .closeParen) (hf : s.frames = frame :: outer)
    (hphase : frame.phase = .first ∨ frame.phase = .argument ∧ operands ≠ []) :
    s.run scope (inner ++ closer :: rest) = evaluateOperands scope s.tally operands >>= fun r =>
      (s.counted r.2).invoke { frame with arguments := frame.arguments ++ r.1 } outer >>= fun s' =>
        s'.run scope rest := by
  have hstop : opensNext (closer :: rest) = false := by simp [opensNext, hcloser]
  induction operands generalizing s frame inner with
  | nil =>
    cases h
    have hfirst : frame.phase = .first := by simpa using hphase
    have hstep : s.step scope closer (opensNext rest) = s.invoke frame outer := by
      simp [State.step, hf, hfirst, hcloser]
    rw [List.nil_append, run_cons, hstep, evaluateOperands]
    simp only [bind, Except.bind, List.append_nil]
    rfl
  | cons o others ihlist =>
    have ho : ∀ a, o = .term a → a.Runs scope := fun a ha => ih a (by simp [ha])
    have hargument : frame.phase = .first ∨ frame.phase = .argument := by
      rcases hphase with hfirst | ⟨harg, -⟩
      · exact .inl hfirst
      · exact .inr harg
    rw [evaluateOperands]
    cases h with
    | single hspelled =>
      rw [run_operand hspelled ho hf hargument hstop]
      cases o.evaluate scope s.tally with
      | error d => rfl
      | ok r =>
        have hstep : ((s.counted r.2).given frame outer r.1).step scope closer (opensNext rest) =
            (s.counted r.2).invoke { frame with arguments := frame.arguments ++ [r.1] } outer := by
          simp [State.step, State.given, hcloser, State.invoke]
        change ((s.counted r.2).given frame outer r.1).run scope (closer :: rest) = _
        rw [run_cons, hstep]
        rfl
    | @cons _ next others comma ts more hspelled hcomma hlisted =>
      have hnext : opensNext (comma :: (more ++ closer :: rest)) = false := by
        simp [opensNext, hcomma]
      rw [List.append_assoc, List.cons_append, run_operand hspelled ho hf hargument hnext]
      cases o.evaluate scope s.tally with
      | error d => rfl
      | ok r =>
        let frame' : Frame :=
          { frame with arguments := frame.arguments ++ [r.1], phase := .argument }
        let s' : State := { s.counted r.2 with frames := frame' :: outer }
        have hstep : ((s.counted r.2).given frame outer r.1).step scope comma
            (opensNext (more ++ closer :: rest)) = .ok s' := by
          simp [State.step, State.given, hcomma, s', frame']
        change ((s.counted r.2).given frame outer r.1).run scope (comma :: _) = _
        rw [run_cons, hstep]
        change s'.run scope (more ++ closer :: rest) = _
        have hmore : ∀ a, Operand.term a ∈ next :: others → a.Runs scope := fun a ha =>
          ih a (List.mem_cons_of_mem _ ha)
        have hframes : s'.frames = frame' :: outer := rfl
        rw [ihlist hlisted hmore hframes (.inr ⟨rfl, by simp⟩)]
        change (evaluateOperands scope r.2 (next :: others) >>= _) =
          (evaluateOperands scope r.2 (next :: others) >>= _) >>= _
        cases evaluateOperands scope r.2 (next :: others) with
        | error d => rfl
        | ok q =>
          simp [bind, Except.bind, pure, Except.pure, s', frame', State.invoke, State.counted]

lemma runs (scope : Scope) (a : Term) : a.Runs scope := by
  induction a with
  | name t =>
    intro ts hts s rest hs hrest
    cases hts with
    | name ht =>
      rw [List.singleton_append, run_cons, hrest, step_term hs ht, State.term, if_neg (by simp),
        reference_eq, bind_assoc]
      rfl
  | call callee operands ih =>
    intro ts hts s rest hs hrest
    cases hts with
    | @call _ opener closer _ inner hcallee hopener hcloser hlisted =>
      have hopens : opensNext (opener :: (inner ++ [closer] ++ rest)) = true := by
        simp [opensNext, hopener]
      rw [List.cons_append, List.cons_append, run_cons, hopens, step_term hs hcallee, State.term,
        if_pos rfl, call_eq, Term.evaluate]
      cases factoryOf scope callee with
      | error d => rfl
      | ok factory =>
        -- the opening parenthesis is passed, and the operands are read in the new frame
        let frame : Frame := ⟨callee, factory, [], .first⟩
        let s' : State := { s with frames := frame :: s.frames }
        change State.run scope { s with frames := ⟨callee, factory, [], .opening⟩ :: s.frames }
          (opener :: (inner ++ [closer] ++ rest)) = _
        rw [run_cons]
        change s'.run scope (inner ++ [closer] ++ rest) = _
        have hframes : s'.frames = frame :: s.frames := rfl
        rw [List.append_assoc, List.singleton_append,
          run_operands hlisted ih hcloser hframes (.inl rfl)]
        change (evaluateOperands scope s.tally operands >>= _) =
          (evaluateOperands scope s.tally operands >>= _) >>= _
        rw [bind_assoc]
        refine congrArg _ (funext fun r => ?_)
        simp only [State.invoke, frame, List.nil_append]
        change (factory.build ⟨callee, r.2.calls + 1⟩ r.1 >>= _) >>= _ =
          (factory.build ⟨callee, r.2.calls + 1⟩ r.1 >>= _) >>= _
        cases factory.build ⟨callee, r.2.calls + 1⟩ r.1 <;> rfl

lemma run_sequence {terms : List Term} {tokens : List Token} (h : Sequence terms tokens)
    (hs : s.frames = []) :
    s.run scope tokens = evaluateTerms scope s.tally terms >>= fun r =>
      .ok { s.counted r.2 with results := s.results ++ r.1 } := by
  induction h generalizing s with
  | nil =>
    have hsame : s = { s.counted s.tally with results := s.results ++ [] } := by
      simp [State.counted, State.tally]
    rw [State.run, hs, evaluateTerms]
    exact congrArg Except.ok hsame
  | @cons a rest ts more ha hmore ih =>
    have hawaits : s.Awaits := by simp [State.Awaits, hs]
    rw [runs scope a ts ha s more hawaits hmore.opensNext, evaluateTerms]
    cases a.evaluate scope s.tally with
    | error d => rfl
    | ok r =>
      have hdeliver : (s.counted r.2).deliver a.token r.1 =
          .ok { s.counted r.2 with results := s.results ++ [r.1] } := by
        simp [State.deliver, State.counted, hs]
      simp only [bind, Except.bind]
      rw [hdeliver]
      change State.run scope { s.counted r.2 with results := s.results ++ [r.1] } more = _
      rw [ih (by simp [State.counted, hs])]
      change (evaluateTerms scope r.2 rest >>= _) = _
      cases evaluateTerms scope r.2 rest with
      | error d => rfl
      | ok q => simp [bind, Except.bind, pure, Except.pure, State.counted]

lemma resolve_eq {terms : List Term} {tokens : List Token} (h : Sequence terms tokens)
    (scope : Scope) (calls : Nat) :
    resolve scope calls tokens = evaluateTerms scope ⟨calls, []⟩ terms >>= fun r =>
      .ok ⟨r.1, r.2.calls, r.2.references⟩ := by
  rw [resolve, run_sequence h rfl, bind_assoc]
  rfl

/-! ### Every expression that can be read spells terms -/

/-- What a call in a phase still asks of the tokens up to its closing parenthesis. -/
def Remains : Phase → List Token → Prop
  | .opening, tokens => ∃ opener inner operands, tokens = opener :: inner ∧
      opener.kind = .openParen ∧ Operand.Listed operands inner
  | .first, tokens => ∃ operands, Operand.Listed operands tokens
  | .argument, tokens => ∃ o operands, Operand.Listed (o :: operands) tokens
  | .separator, tokens => tokens = [] ∨ ∃ comma inner o operands, tokens = comma :: inner ∧
      comma.kind = .comma ∧ Operand.Listed (o :: operands) inner

/-- What the calls around a complete term still ask of the tokens to come. -/
def After : List Phase → List Token → Prop
  | [], tokens => ∃ terms, Sequence terms tokens
  | _ :: outer, tokens => ∃ inner closer rest, tokens = inner ++ closer :: rest ∧
      closer.kind = .closeParen ∧ Remains .separator inner ∧ After outer rest

/-- What open calls still ask of the tokens to come. -/
def Asks : List Phase → List Token → Prop
  | [], tokens => After [] tokens
  | phase :: outer, tokens => ∃ inner closer rest, tokens = inner ++ closer :: rest ∧
      closer.kind = .closeParen ∧ Remains phase inner ∧ After outer rest

lemma asks_resume {outer : List Phase} {tokens : List Token} :
    Asks (resume outer) tokens ↔ After outer tokens := by
  cases outer <;> exact Iff.rfl

lemma Operand.Spelled.listed {o : Operand} {ts tokens : List Token} (ho : o.Spelled ts)
    (h : Remains .separator tokens) :
    ∃ operands, Operand.Listed (o :: operands) (ts ++ tokens) := by
  rcases h with rfl | ⟨comma, inner, next, operands, rfl, hcomma, hlisted⟩
  · exact ⟨[], by simpa using .single ho⟩
  · exact ⟨next :: operands, .cons ho hcomma hlisted⟩

lemma remains_argument {phase : Phase} (hphase : phase = .first ∨ phase = .argument)
    {o : Operand} {ts tokens : List Token} (ho : o.Spelled ts) (h : Remains .separator tokens) :
    Remains phase (ts ++ tokens) := by
  obtain ⟨operands, hlisted⟩ := ho.listed h
  rcases hphase with rfl | rfl
  · exact ⟨o :: operands, hlisted⟩
  · exact ⟨o, operands, hlisted⟩

lemma asks_call {callee : Token} (hcallee : callee.kind = .identifier) {outer : List Phase}
    {rest : List Token} (h : Asks (.opening :: outer) rest) :
    ∃ operands ts more, callee :: rest = ts ++ more ∧
      Term.Spelled (.call callee operands) ts ∧ After outer more := by
  obtain ⟨_, closer, more, rfl, hcloser, hremains, hafter⟩ := h
  obtain ⟨opener, inner, operands, rfl, hopener, hlisted⟩ := hremains
  exact ⟨operands, callee :: opener :: (inner ++ [closer]), more, by simp,
    .call hcallee hopener hcloser hlisted, hafter⟩

lemma After.term {phase : Phase} (hphase : phase = .first ∨ phase = .argument) {o : Operand}
    {outer : List Phase} {ts more : List Token} (ho : o.Spelled ts)
    (h : After (phase :: outer) more) : Asks (phase :: outer) (ts ++ more) := by
  obtain ⟨inner, closer, rest, rfl, hcloser, hremains, hafter⟩ := h
  exact ⟨ts ++ inner, closer, rest, by simp, hcloser, remains_argument hphase ho hremains, hafter⟩

lemma Reads.asks {phases : List Phase} {tokens : List Token} (h : Reads phases tokens)
    (hopen : phases.head? = some .opening → opensNext tokens = true) : Asks phases tokens := by
  induction h with
  | nil => exact ⟨[], .nil⟩
  | @cons phases phases' t rest hmove _ ih =>
    have hasks := ih hmove.opens
    have hparen : phases.head? = some .opening → t.kind = .openParen := fun hhead => by
      simpa [opensNext] using hopen hhead
    -- one case for each move: what is asked behind the token gives what is asked before it
    generalize hkind : t.kind = kind at hmove hparen
    generalize opensNext rest = called at hmove
    cases hmove with
    | name =>
      obtain ⟨terms, hterms⟩ := hasks
      exact ⟨.name t :: terms, .cons (.name hkind) hterms⟩
    | call =>
      obtain ⟨operands, ts, more, heq, hspelled, terms, hterms⟩ := asks_call hkind hasks
      rw [heq]
      exact ⟨.call t operands :: terms, .cons hspelled hterms⟩
    | opener =>
      obtain ⟨inner, closer, more, rfl, hcloser, ⟨operands, hlisted⟩, hafter⟩ := hasks
      exact ⟨t :: inner, closer, more, rfl, hcloser,
        ⟨t, inner, operands, rfl, hkind.trans (hparen rfl), hlisted⟩, hafter⟩
    | literal hphase hliteral =>
      exact After.term hphase (.literal (hkind ▸ hliteral)) hasks
    | innerName hphase => exact After.term hphase (.term (.name hkind)) hasks
    | innerCall hphase =>
      obtain ⟨operands, ts, more, heq, hspelled, hafter⟩ := asks_call hkind hasks
      rw [heq]
      exact After.term hphase (.term hspelled) hafter
    | comma =>
      obtain ⟨inner, closer, more, rfl, hcloser, ⟨o, operands, hlisted⟩, hafter⟩ := hasks
      exact ⟨t :: inner, closer, more, rfl, hcloser,
        .inr ⟨t, inner, o, operands, rfl, hkind, hlisted⟩, hafter⟩
    | closer hphase =>
      refine ⟨[], t, rest, rfl, hkind, ?_, asks_resume.mp hasks⟩
      rcases hphase with rfl | rfl
      · exact ⟨[], .nil⟩
      · exact .inl rfl

/-- **An expression that resolves spells terms**, and resolves to what these evaluate to. -/
lemma terms_of_resolve {calls : Nat} {tokens : List Token} {outcome : Outcome}
    (h : resolve scope calls tokens = .ok outcome) :
    ∃ terms r, Sequence terms tokens ∧ evaluateTerms scope ⟨calls, []⟩ terms = .ok r ∧
      outcome = ⟨r.1, r.2.calls, r.2.references⟩ := by
  obtain ⟨terms, hterms⟩ : ∃ terms, Sequence terms tokens := (reads_of_resolve h).asks (by simp)
  rw [resolve_eq hterms, bind_eq_ok] at h
  obtain ⟨r, hr, hout⟩ := h
  exact ⟨terms, r, hterms, hr, (Except.ok.inj hout).symm⟩

end Expression

end TypeGuard
