import TypeGuard.Proofs.PatternLines

/-!
The calls of factories, in the order in which they are made.

Reading an expression does what evaluating the terms that it spells does, and the factory of a call
is invoked at its closing parenthesis. So the calls that are made can be told from the tokens, in
one pass that keeps the names of the open calls on a stack, and over all expressions a call is
numbered by the rank of its closing parenthesis.
-/

namespace TypeGuard

open Outcome

/-- A call that is made, with the token that closes it. -/
structure Invocation where
  call : Call
  closer : Token

namespace Expression

/-! ### The calls of a run -/

/-- The call that a token ends, which is the innermost one. -/
def State.invocation? (s : State) (t : Token) : Option Invocation :=
  match s.frames with
  | [] => none
  | frame :: _ =>
    if t.kind = .closeParen ∧ (frame.phase = .first ∨ frame.phase = .separator) then
      some ⟨⟨frame.callee, s.calls + 1⟩, t⟩
    else none

def State.invocations (scope : Scope) (s : State) : List Token → List Invocation
  | [] => []
  | t :: rest =>
    (s.invocation? t).toList ++
      match s.step scope t (opensNext rest) with
      | .error _ => []
      | .ok s => State.invocations scope s rest

def invocations (scope : Scope) (calls : Nat) : List (List Token) → List Invocation
  | [] => []
  | tokens :: rest =>
    State.invocations scope ⟨[], [], calls, []⟩ tokens ++
      match resolve scope calls tokens with
      | .error _ => []
      | .ok outcome => invocations scope outcome.calls rest

end Expression

def Resolution.invocations (registry : Registry) (r : Resolution) :
    List Declaration → List Invocation
  | [] => []
  | d :: rest =>
    Expression.invocations ⟨registry, r.bindings⟩ r.calls d.expressions ++
      match r.declaration registry d with
      | .error _ => []
      | .ok r => Resolution.invocations registry r rest

namespace Expression

/-! ### The calls that tokens close -/

/-- The calls that tokens close, given how many are closed before, and the names of those that are
open, the innermost first. A parenthesis that closes no call stands for itself. -/
def closedCalls (closed : Nat) (opened : List Token) : List Token → List Invocation
  | [] => []
  | t :: rest =>
    if t.kind = .closeParen then
      ⟨⟨opened.headD t, closed + 1⟩, t⟩ :: closedCalls (closed + 1) opened.tail rest
    else if t.kind = .identifier ∧ opensNext rest = true then
      closedCalls closed (t :: opened) rest
    else closedCalls closed opened rest

section

variable {closed : Nat} {opened : List Token} {t : Token} {rest tokens : List Token}

lemma closedCalls_closer (h : t.kind = .closeParen) :
    closedCalls closed opened (t :: rest) =
      ⟨⟨opened.headD t, closed + 1⟩, t⟩ :: closedCalls (closed + 1) opened.tail rest := by
  rw [closedCalls, if_pos h]

lemma closedCalls_open (h : t.kind ≠ .closeParen) :
    closedCalls closed opened (t :: rest) = closedCalls closed
      (if t.kind = .identifier ∧ opensNext rest = true then t :: opened else opened) rest := by
  rw [closedCalls, if_neg h]
  split <;> rfl

lemma closings_closer (h : t.kind = .closeParen) : closings (t :: rest) = closings rest + 1 := by
  simp [closings, h]

lemma closings_open (h : t.kind ≠ .closeParen) : closings (t :: rest) = closings rest := by
  simp [closings, h]

lemma closings_append (first second : List Token) :
    closings (first ++ second) = closings first + closings second :=
  List.countP_append

lemma closers_closedCalls (closed : Nat) (opened tokens : List Token) :
    (closedCalls closed opened tokens).map (·.closer) =
      tokens.filter (·.kind = .closeParen) := by
  induction tokens generalizing closed opened with
  | nil => rfl
  | cons t rest ih =>
    by_cases h : t.kind = .closeParen
    · rw [closedCalls_closer h, List.map_cons, ih, List.filter_cons_of_pos (by simpa using h)]
    · rw [closedCalls_open h, ih, List.filter_cons_of_neg (by simpa using h)]

lemma ids_closedCalls (closed : Nat) (opened tokens : List Token) :
    (closedCalls closed opened tokens).map (·.call.id) =
      List.range' (closed + 1) (closings tokens) := by
  induction tokens generalizing closed opened with
  | nil => rfl
  | cons t rest ih =>
    by_cases h : t.kind = .closeParen
    · rw [closedCalls_closer h, List.map_cons, ih, closings_closer h, List.range'_succ]
    · rw [closedCalls_open h, ih, closings_open h]

lemma length_closedCalls (closed : Nat) (opened tokens : List Token) :
    (closedCalls closed opened tokens).length = closings tokens := by
  have hids := congrArg List.length (ids_closedCalls closed opened tokens)
  simpa using hids

/-- Behind some tokens the pass goes on with other calls open. -/
lemma closedCalls_front (closed : Nat) (opened front back : List Token) :
    ∃ found opened', found.length = closings front ∧
      closedCalls closed opened (front ++ back) =
        found ++ closedCalls (closed + closings front) opened' back := by
  induction front generalizing closed opened with
  | nil => exact ⟨[], opened, rfl, rfl⟩
  | cons t front ih =>
    rw [List.cons_append]
    by_cases h : t.kind = .closeParen
    · obtain ⟨found, opened', hlength, hfound⟩ := ih (closed + 1) opened.tail
      refine ⟨⟨⟨opened.headD t, closed + 1⟩, t⟩ :: found, opened', ?_, ?_⟩
      · rw [List.length_cons, hlength, closings_closer h]
      · rw [closedCalls_closer h, hfound, closings_closer h, Nat.add_right_comm]
        rfl
    · rw [closedCalls_open h, closings_open h]
      exact ih closed _

end

/-! ### The calls of a term -/

/-- Tokens that leave the open calls as they are: what the pass finds behind them does not depend on
them, but for the number of calls that they close. -/
structure Passes (tokens : List Token) : Prop where
  opens : opensNext tokens = false
  scan : ∀ closed opened rest, opensNext rest = false →
    closedCalls closed opened (tokens ++ rest) =
      closedCalls closed opened tokens ++ closedCalls (closed + closings tokens) opened rest

lemma Passes.nil : Passes [] := ⟨rfl, fun _ _ _ _ => rfl⟩

lemma opensNext_append {tokens rest : List Token} (h : opensNext tokens = false)
    (hrest : opensNext rest = false) : opensNext (tokens ++ rest) = false := by
  cases tokens with
  | nil => exact hrest
  | cons t tokens => exact h

lemma Passes.append {first second : List Token} (h : Passes first) (h' : Passes second) :
    Passes (first ++ second) := by
  refine ⟨opensNext_append h.opens h'.opens, fun closed opened rest hrest => ?_⟩
  rw [List.append_assoc, h.scan _ _ _ (opensNext_append h'.opens hrest), h'.scan _ _ _ hrest,
    h.scan _ _ _ h'.opens, closings_append, List.append_assoc, Nat.add_assoc]

lemma Passes.single {t : Token} (hopen : t.kind ≠ .openParen) (hclose : t.kind ≠ .closeParen) :
    Passes [t] := by
  refine ⟨by simpa [opensNext] using hopen, fun closed opened rest hrest => ?_⟩
  rw [List.singleton_append, closedCalls_open hclose, closedCalls_open hclose, hrest,
    closings_open hclose]
  simp [closedCalls, closings]

/-- **A call is found at its closing parenthesis**, behind the calls between its parentheses. -/
lemma closedCalls_call {callee opener closer : Token} {inner : List Token}
    (hcallee : callee.kind = .identifier) (hopener : opener.kind = .openParen)
    (hcloser : closer.kind = .closeParen) (hinner : Passes inner) (closed : Nat)
    (opened rest : List Token) :
    closedCalls closed opened (callee :: opener :: (inner ++ closer :: rest)) =
      closedCalls closed (callee :: opened) inner ++
        ⟨⟨callee, closed + closings inner + 1⟩, closer⟩ ::
          closedCalls (closed + closings inner + 1) opened rest := by
  have hopens : opensNext (opener :: (inner ++ closer :: rest)) = true := by
    simp [opensNext, hopener]
  have hstop : opensNext (closer :: rest) = false := by simp [opensNext, hcloser]
  rw [closedCalls_open (by simp [hcallee]), if_pos ⟨hcallee, hopens⟩,
    closedCalls_open (by simp [hopener]), if_neg (by simp [hopener]), hinner.scan _ _ _ hstop,
    closedCalls_closer hcloser]
  rfl

lemma Operand.Listed.passes {operands : List Operand} {inner : List Token}
    (h : Operand.Listed operands inner)
    (hterms : ∀ a, Operand.term a ∈ operands → ∀ ts, a.Spelled ts → Passes ts) : Passes inner := by
  refine h.induct .nil (fun _ _ => .append) (fun t ht => ?_) hterms
  rcases ht with ht | ht
  · refine .single ?_ ?_ <;>
    · intro hkind
      simp [hkind, Kind.isLiteral] at ht
  · exact .single (by simp [ht]) (by simp [ht])

lemma Term.Spelled.passes {a : Term} {ts : List Token} (h : a.Spelled ts) : Passes ts := by
  induction a generalizing ts with
  | name t =>
    cases h with
    | name ht => exact .single (by simp [ht]) (by simp [ht])
  | call callee operands ih =>
    cases h with
    | @call _ opener closer _ inner hcallee hopener hcloser hlisted =>
      have hinner : Passes inner := hlisted.passes fun a ha ts hts => ih a ha hts
      refine ⟨by simp [opensNext, hcallee], fun closed opened rest _ => ?_⟩
      have hcount : closings (callee :: opener :: (inner ++ [closer])) = closings inner + 1 := by
        simp [closings, hcallee, hopener, hcloser]
      have hsplit : (callee :: opener :: (inner ++ [closer])) ++ rest =
          callee :: opener :: (inner ++ closer :: rest) := by simp
      rw [hsplit, closedCalls_call hcallee hopener hcloser hinner,
        closedCalls_call hcallee hopener hcloser hinner, hcount]
      simp [closedCalls, Nat.add_assoc]

lemma Sequence.passes {terms : List Term} {tokens : List Token} (h : Sequence terms tokens) :
    Passes tokens := by
  induction h with
  | nil => exact .nil
  | cons ha _ ih => exact ha.passes.append ih

/-! ### What a step does to the open calls -/

def State.callees (s : State) : List Token := s.frames.map (·.callee)

section

variable {scope : Scope} {s s' : State} {t : Token} {called : Bool}

lemma deliver_callees {b : Bound} (h : s.deliver t b = .ok s') :
    s'.callees = s.callees ∧ s'.calls = s.calls := by
  unfold State.deliver at h
  split at h
  · obtain rfl := Except.ok.inj h
    exact ⟨rfl, rfl⟩
  · next frame outer hframes =>
    split at h
    · simp at h
    · obtain rfl := Except.ok.inj h
      simp [State.callees, hframes]

lemma reference_callees (h : s.reference scope t = .ok s') :
    s'.callees = s.callees ∧ s'.calls = s.calls := by
  let referred : State := { s with references := s.references ++ [t.text] }
  unfold State.reference at h
  split at h
  · next binding _ =>
    cases binding with
    | typeAlias constraints => exact deliver_callees (s := referred) h
    | record sort r => exact deliver_callees (s := referred) h
  · split at h
    · exact deliver_callees h
    · split at h <;> simp at h

lemma term_callees (h : s.term scope t called = .ok s') :
    s'.callees = (if called = true then t :: s.callees else s.callees) ∧ s'.calls = s.calls := by
  unfold State.term at h
  split at h
  · next hcalled =>
    unfold State.call at h
    split at h
    · obtain rfl := Except.ok.inj h
      simp [State.callees, hcalled]
    · split at h <;> simp at h
  · next hcalled =>
    rw [if_neg hcalled]
    exact reference_callees h

/-- What a token that closes no call does to the open calls. -/
structure Continues (s : State) (t : Token) (called : Bool) (s' : State) : Prop where
  kind : t.kind ≠ .closeParen
  callees : s'.callees =
    if t.kind = .identifier ∧ called = true then t :: s.callees else s.callees
  calls : s'.calls = s.calls

lemma continues_of_term (hkind : t.kind = .identifier) (h : s.term scope t called = .ok s') :
    Continues s t called s' := by
  obtain ⟨hcallees, hcalls⟩ := term_callees h
  exact ⟨by simp [hkind], by simpa [hkind] using hcallees, hcalls⟩

lemma continues_of_argument {frame : Frame} {outer : List Frame} (hs : s.frames = frame :: outer)
    (h : s.argument scope frame outer t called = .ok s') : Continues s t called s' := by
  unfold State.argument at h
  split at h
  · next hliteral =>
    obtain ⟨value, -, hs'⟩ := bind_eq_ok.mp h
    obtain rfl := pure_eq_ok.mp hs'
    have hkind : t.kind ≠ .closeParen ∧ t.kind ≠ .identifier := by
      constructor <;>
      · intro hkind
        simp [hkind, Kind.isLiteral] at hliteral
    exact ⟨hkind.1, by simp [State.callees, hs, hkind.2], rfl⟩
  · split at h
    · next hkind => exact continues_of_term hkind h
    · simp at h

/-- **At the token that ends a call its factory is invoked**, with the next number. -/
lemma step_of_invocation {made : Invocation} (h : s.invocation? t = some made) :
    ∃ frame outer, s.frames = frame :: outer ∧ made = ⟨⟨frame.callee, s.calls + 1⟩, t⟩ ∧
      t.kind = .closeParen ∧ ∀ scope called, s.step scope t called =
        frame.factory.build made.call frame.arguments >>= fun c =>
          State.deliver { s with frames := outer, calls := made.call.id } frame.callee
            (.constraint c) := by
  unfold State.invocation? at h
  split at h
  · simp at h
  · next frame outer hframes =>
    split at h
    · next hends =>
      obtain ⟨hkind, hphase⟩ := hends
      obtain rfl := Option.some.inj h
      refine ⟨frame, outer, hframes, rfl, hkind, fun scope called => ?_⟩
      have hstep : s.step scope t called = s.invoke frame outer := by
        unfold State.step
        rcases hphase with hphase | hphase <;> simp [hframes, hphase, hkind]
      rw [hstep]
      rfl
    · simp at h

lemma continues_of_step (hnone : s.invocation? t = none) (h : s.step scope t called = .ok s')
    (hopen : s.phases.head? = some .opening → t.kind = .openParen) : Continues s t called s' := by
  unfold State.step at h
  split at h
  · split at h
    · next hkind => exact continues_of_term hkind h
    · simp at h
  · next frame outer hframes =>
    split at h
    · next hphase =>
      obtain rfl := Except.ok.inj h
      have hkind := hopen (by simp [State.phases, hframes, hphase])
      exact ⟨by simp [hkind], by simp [State.callees, hframes, hkind], rfl⟩
    · next hphase =>
      split at h
      · next hkind => simp [State.invocation?, hframes, hkind, hphase] at hnone
      · exact continues_of_argument hframes h
    · exact continues_of_argument hframes h
    · next hphase =>
      split at h
      · next hkind =>
        obtain rfl := Except.ok.inj h
        exact ⟨by simp [hkind], by simp [State.callees, hframes, hkind], rfl⟩
      · split at h
        · next hkind => simp [State.invocation?, hframes, hkind, hphase] at hnone
        · simp at h

/-- **A run makes the calls that its tokens close.** -/
lemma run_invocations {tokens : List Token} (h : s.run scope tokens = .ok s')
    (hopen : s.phases.head? = some .opening → opensNext tokens = true) :
    s.invocations scope tokens = closedCalls s.calls s.callees tokens ∧
      s'.calls = s.calls + closings tokens := by
  induction tokens generalizing s with
  | nil =>
    rw [State.run] at h
    split at h
    · obtain rfl := Except.ok.inj h
      exact ⟨rfl, rfl⟩
    · simp at h
  | cons t rest ih =>
    rw [State.run] at h
    split at h
    · simp at h
    · next s₁ hstep =>
      obtain ⟨hinvocations, hcalls⟩ := ih h (step_moves hstep).opens
      have hfirst : s.phases.head? = some .opening → t.kind = .openParen := fun hhead => by
        simpa [opensNext] using hopen hhead
      rw [State.invocations, hcalls]
      cases hmade : s.invocation? t with
      | some made =>
        obtain ⟨frame, outer, hframes, rfl, hkind, hinvoke⟩ := step_of_invocation hmade
        obtain ⟨c, -, hdeliver⟩ := bind_eq_ok.mp ((hinvoke _ _).symm.trans hstep)
        obtain ⟨hcallees, hcount⟩ := deliver_callees hdeliver
        have hopened : s.callees = frame.callee :: s₁.callees := by
          rw [hcallees, State.callees, hframes]
          rfl
        have hcount : s₁.calls = s.calls + 1 := hcount
        rw [hstep, closedCalls_closer hkind, closings_closer hkind, hopened]
        refine ⟨?_, by omega⟩
        simpa [hcount] using hinvocations
      | none =>
        obtain ⟨hkind, hcallees, hcount⟩ := continues_of_step hmade hstep hfirst
        rw [hstep, closedCalls_open hkind, closings_open hkind, ← hcallees, ← hcount]
        exact ⟨hinvocations, rfl⟩

end

/-! ### Expressions one after the other -/

/-- Expressions that resolve one after the other, given the calls before and after. -/
inductive Resolves (scope : Scope) : Nat → List (List Token) → Nat → Prop where
  | nil (calls : Nat) : Resolves scope calls [] calls
  | cons {calls calls' : Nat} {tokens : List Token} {rest : List (List Token)}
      {outcome : Outcome} : resolve scope calls tokens = .ok outcome →
      Resolves scope outcome.calls rest calls' → Resolves scope calls (tokens :: rest) calls'

lemma Resolves.invocations_eq {scope : Scope} {calls calls' : Nat} {es : List (List Token)}
    (h : Resolves scope calls es calls') :
    invocations scope calls es = closedCalls calls [] es.flatten ∧
      calls' = calls + closings es.flatten ∧ Passes es.flatten := by
  induction h with
  | nil calls => exact ⟨rfl, rfl, .nil⟩
  | @cons calls calls' tokens rest outcome hresolve _ ih =>
    obtain ⟨hinvocations, hcalls, hpasses⟩ := ih
    obtain ⟨terms, r, hterms, -, -⟩ := terms_of_resolve hresolve
    obtain ⟨s, hrun, hs⟩ := bind_eq_ok.mp hresolve
    obtain ⟨hmade, hcount⟩ := run_invocations hrun (by simp [State.phases])
    obtain rfl := pure_eq_ok.mp hs
    rw [invocations, hresolve, hmade]
    refine ⟨?_, ?_, hterms.passes.append hpasses⟩
    · rw [List.flatten_cons, hterms.passes.scan _ _ _ hpasses.opens]
      exact congrArg _ (hcount ▸ hinvocations)
    · rw [hcalls, List.flatten_cons, closings_append, ← Nat.add_assoc]
      exact congrArg (· + closings rest.flatten) hcount

end Expression

namespace Resolution

variable {registry : Registry} {r r' : Resolution}

lemma properties_resolve {scope : Scope} {owner : String} {p p' : Progress}
    {lines : List PropertyLine} (h : lines.foldlM (property scope owner) p = .ok p') :
    Expression.Resolves scope p.calls (lines.map (·.expression)) p'.calls := by
  induction lines generalizing p with
  | nil =>
    rw [List.foldlM_nil, pure_eq_ok] at h
    exact h ▸ .nil _
  | cons line rest ih =>
    rw [List.foldlM_cons, bind_eq_ok] at h
    obtain ⟨p₁, h₁, h₂⟩ := h
    obtain ⟨-, -, outcome, houtcome, rfl⟩ := property_eq_ok.mp h₁
    exact .cons houtcome (ih h₂)

lemma declaration_resolves {d : Declaration} (h : r.declaration registry d = .ok r') :
    Expression.Resolves ⟨registry, r.bindings⟩ r.calls d.expressions r'.calls := by
  cases d with
  | config keyword settings =>
    obtain ⟨c, -, hr'⟩ := bind_eq_ok.mp h
    obtain rfl := pure_eq_ok.mp hr'
    exact .nil _
  | typeAlias name body =>
    obtain ⟨-, -, outcome, houtcome, rfl⟩ := typeAlias_eq_ok.mp h
    exact .cons houtcome (.nil _)
  | record sort name lines =>
    obtain ⟨-, -, -, p, hp, rfl⟩ := record_eq_ok.mp h
    exact properties_resolve hp

/-- **A resolution makes the calls that the tokens of all expressions close.** -/
lemma invocations_eq {ds : List Declaration}
    (h : ds.foldlM (declaration registry) r = .ok r') :
    r.invocations registry ds = Expression.closedCalls r.calls [] (expressionTokens ds) ∧
      r'.calls = r.calls + closings (expressionTokens ds) ∧
      Expression.Passes (expressionTokens ds) := by
  induction ds generalizing r with
  | nil =>
    rw [List.foldlM_nil, pure_eq_ok] at h
    exact ⟨rfl, h ▸ rfl, .nil⟩
  | cons d rest ih =>
    rw [List.foldlM_cons, bind_eq_ok] at h
    obtain ⟨r₁, h₁, h₂⟩ := h
    obtain ⟨hrest, hlast, hpasses⟩ := ih h₂
    obtain ⟨hmade, hcalls, hfirst⟩ := (declaration_resolves h₁).invocations_eq
    have hsplit : expressionTokens (d :: rest) = d.expressions.flatten ++ expressionTokens rest :=
      List.flatMap_cons
    refine ⟨?_, ?_, hsplit ▸ hfirst.append hpasses⟩
    · rw [invocations, h₁, hmade, hsplit, hfirst.scan _ _ _ hpasses.opens, ← hcalls]
      exact congrArg _ hrest
    · rw [hlast, hcalls, hsplit, Expression.closings_append, Nat.add_assoc]

end Resolution

/-! ### Ranks -/

/-- Calls that are made in the order of their closing parentheses among tokens, each of them with
the rank of its closing parenthesis for its number. -/
structure Ranked (tokens : List Token) (made : List Invocation) : Prop where
  closers : made.map (·.closer) = tokens.filter (·.kind = .closeParen)
  ids : made.map (·.call.id) = List.range' 1 (closings tokens)
  /-- Every call that the tokens spell is made at its closing parenthesis. -/
  call : ∀ front callee operands ts closer back, tokens = front ++ (ts ++ closer :: back) →
    Expression.Term.Spelled (.call callee operands) (ts ++ [closer]) →
    made[closings (front ++ ts)]? = some ⟨⟨callee, closings (front ++ ts) + 1⟩, closer⟩

lemma ranked_closedCalls (tokens : List Token) :
    Ranked tokens (Expression.closedCalls 0 [] tokens) := by
  refine ⟨Expression.closers_closedCalls 0 [] tokens, Expression.ids_closedCalls 0 [] tokens, ?_⟩
  rintro front callee operands ts closer back rfl hspelled
  generalize hcall : ts ++ [closer] = spelling at hspelled
  cases hspelled with
  | @call _ opener last _ inner hcallee hopener hcloser hlisted =>
    have hsplit : ts ++ [closer] = (callee :: opener :: inner) ++ [last] := hcall
    obtain ⟨rfl, hlast⟩ := List.append_inj' hsplit rfl
    obtain rfl := List.singleton_inj.mp hlast
    have hinner : Expression.Passes inner := hlisted.passes fun a _ ts hts => hts.passes
    have hcount : closings (front ++ callee :: opener :: inner) =
        closings front + closings inner := by simp [closings, hcallee, hopener]
    obtain ⟨found, opened, hlength, hfound⟩ := Expression.closedCalls_front 0 [] front
      ((callee :: opener :: inner) ++ closer :: back)
    rw [hfound, List.cons_append, List.cons_append,
      Expression.closedCalls_call hcallee hopener hcloser hinner, hcount, ← List.append_assoc,
      List.getElem?_append_right (by simp [hlength, Expression.length_closedCalls])]
    simp [hlength, Expression.length_closedCalls]

/-- **Expressions are evaluated, and calls are numbered by their closing parentheses.** An
expression resolves exactly if it spells terms that evaluate from left to right, to the values of
these terms. A call is made at the token that ends it, with the number behind that of the last call.
Over all expressions of declarations that resolve, this is the rank of its closing parenthesis. -/
theorem expression_evaluation_and_call_ranks :
    (∀ scope calls tokens outcome, Expression.resolve scope calls tokens = .ok outcome ↔
      ∃ terms bounds tally, Expression.Sequence terms tokens ∧
        Expression.evaluateTerms scope ⟨calls, []⟩ terms = .ok (bounds, tally) ∧
        outcome = ⟨bounds, tally.calls, tally.references⟩) ∧
    (∀ (s : Expression.State) t made, s.invocation? t = some made →
      ∃ frame outer, s.frames = frame :: outer ∧ made = ⟨⟨frame.callee, s.calls + 1⟩, t⟩ ∧
        ∀ scope called, s.step scope t called =
          frame.factory.build made.call frame.arguments >>= fun c =>
            Expression.State.deliver { s with frames := outer, calls := made.call.id } frame.callee
              (.constraint c)) ∧
    ∀ ds s, resolve ds = .ok s →
      ∃ r, ds.foldlM (Resolution.declaration .standard) .initial = .ok r ∧ s = r.schema ∧
        r.calls = closings (expressionTokens ds) ∧
        Ranked (expressionTokens ds) (Resolution.initial.invocations .standard ds) := by
  refine ⟨fun scope calls tokens outcome => ⟨fun h => ?_, ?_⟩, fun s t made h => ?_,
    fun ds s h => ?_⟩
  · obtain ⟨terms, r, hterms, hr, rfl⟩ := Expression.terms_of_resolve h
    exact ⟨terms, r.1, r.2, hterms, hr, rfl⟩
  · rintro ⟨terms, bounds, tally, hterms, hr, rfl⟩
    rw [Expression.resolve_eq hterms, hr]
    rfl
  · obtain ⟨frame, outer, hframes, hmade, -, hstep⟩ := Expression.step_of_invocation h
    exact ⟨frame, outer, hframes, hmade, hstep⟩
  · obtain ⟨r, hr, hs⟩ := bind_eq_ok.mp h
    obtain ⟨hmade, hcalls, -⟩ := Resolution.invocations_eq hr
    refine ⟨r, hr, (pure_eq_ok.mp hs).symm, hcalls.trans (Nat.zero_add _), ?_⟩
    rw [hmade]
    exact ranked_closedCalls _

/-- Calls inside of calls, and next to each other, in an alias and in a model. -/
def nestedCallsSource : String :=
  "alias A optional(match(\"a\"))\nmodel M \x7b\n x optional(A) range(1, 2)\n\x7d\n"

theorem expression_evaluation_and_call_ranks_nested :
    ∃ ds s, parse nestedCallsSource = .ok ds ∧ resolve ds = .ok s ∧
      (Resolution.initial.invocations .standard ds).map (·.call.id) = [1, 2, 3, 4] := by
  have hcount : (parse nestedCallsSource).toOption.map (fun ds =>
      (closings (expressionTokens ds), (resolve ds).toOption.isSome)) = some (4, true) := by
    decide +kernel
  obtain ⟨ds, hds, hboth⟩ := Option.map_eq_some_iff.mp hcount
  obtain ⟨hclosings, hok⟩ := Prod.mk.inj hboth
  obtain ⟨s, hs⟩ := Option.isSome_iff_exists.mp hok
  have hresolve := toOption_eq_some.mp hs
  obtain ⟨r, -, -, -, hranked⟩ := expression_evaluation_and_call_ranks.2.2 ds s hresolve
  have hids := hranked.ids
  rw [hclosings] at hids
  exact ⟨ds, s, toOption_eq_some.mp hds, hresolve, hids⟩

end TypeGuard
