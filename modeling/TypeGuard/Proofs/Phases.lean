import TypeGuard.Proofs.Nesting
import TypeGuard.Proofs.Outcome
import TypeGuard.Schema.Expression

/-!
The shape of the expressions that can be resolved.

Of the calls that are still open only their phases matter for which token may come next. Each token
makes one move on the phases. It follows which kinds may stand next to each other in an expression,
and that its parentheses are well nested.
-/

namespace TypeGuard

open Outcome

namespace Expression

/-- The phases of the open calls, the innermost first. -/
def State.phases (s : State) : List Phase := s.frames.map (·.phase)

/-- The phases when the result of a term is handed to the call around it. -/
def resume : List Phase → List Phase
  | [] => []
  | _ :: outer => .separator :: outer

/-- What one token does to the phases. The flag says whether an opening parenthesis follows. -/
inductive Moves : List Phase → Kind → Bool → List Phase → Prop where
  | name : Moves [] .identifier false []
  | call : Moves [] .identifier true [.opening]
  | opener {kind : Kind} {called : Bool} {outer : List Phase} :
      Moves (.opening :: outer) kind called (.first :: outer)
  | literal {kind : Kind} {called : Bool} {phase : Phase} {outer : List Phase} :
      phase = .first ∨ phase = .argument → kind.isLiteral = true →
      Moves (phase :: outer) kind called (.separator :: outer)
  | innerName {phase : Phase} {outer : List Phase} :
      phase = .first ∨ phase = .argument →
      Moves (phase :: outer) .identifier false (.separator :: outer)
  | innerCall {phase : Phase} {outer : List Phase} :
      phase = .first ∨ phase = .argument →
      Moves (phase :: outer) .identifier true (.opening :: phase :: outer)
  | comma {called : Bool} {outer : List Phase} :
      Moves (.separator :: outer) .comma called (.argument :: outer)
  | closer {called : Bool} {phase : Phase} {outer : List Phase} :
      phase = .first ∨ phase = .separator →
      Moves (phase :: outer) .closeParen called (resume outer)

/-- Tokens that close all calls with the given phases. -/
inductive Reads : List Phase → List Token → Prop where
  | nil : Reads [] []
  | cons {phases phases' : List Phase} {t : Token} {rest : List Token} :
      Moves phases t.kind (opensNext rest) phases' → Reads phases' rest → Reads phases (t :: rest)

/-! ### The moves of a state -/

variable {scope : Scope} {s s' : State} {t : Token} {called : Bool}

lemma deliver_phases {b : Bound} (h : s.deliver t b = .ok s') : s'.phases = resume s.phases := by
  unfold State.deliver at h
  split at h
  · next hnil =>
    obtain rfl := Except.ok.inj h
    simp [State.phases, hnil, resume]
  · next frame outer hcons =>
    split at h
    · simp at h
    · obtain rfl := Except.ok.inj h
      simp [State.phases, hcons, resume]

lemma invoke_phases {frame : Frame} {outer : List Frame} (h : s.invoke frame outer = .ok s') :
    s'.phases = resume (outer.map (·.phase)) := by
  obtain ⟨c, -, hd⟩ := bind_eq_ok.mp h
  exact deliver_phases hd

lemma reference_phases (h : s.reference scope t = .ok s') : s'.phases = resume s.phases := by
  let referred : State := { s with references := s.references ++ [t.text] }
  unfold State.reference at h
  split at h
  · next binding _ =>
    cases binding with
    | typeAlias constraints => exact deliver_phases (s := referred) h
    | record sort r => exact deliver_phases (s := referred) h
  · split at h
    · exact deliver_phases h
    · split at h <;> simp at h

lemma call_phases (h : s.call scope t = .ok s') : s'.phases = .opening :: s.phases := by
  unfold State.call at h
  split at h
  · obtain rfl := Except.ok.inj h
    rfl
  · split at h <;> simp at h

lemma term_phases (h : s.term scope t called = .ok s') :
    s'.phases = if called then .opening :: s.phases else resume s.phases := by
  unfold State.term at h
  cases called with
  | true => exact call_phases h
  | false => exact reference_phases h

lemma argument_moves {frame : Frame} {outer : List Frame} (hs : s.frames = frame :: outer)
    (hphase : frame.phase = .first ∨ frame.phase = .argument)
    (h : s.argument scope frame outer t called = .ok s') :
    Moves s.phases t.kind called s'.phases := by
  have hphases : s.phases = frame.phase :: outer.map (·.phase) := by simp [State.phases, hs]
  unfold State.argument at h
  split at h
  · next hliteral =>
    obtain ⟨value, -, hu⟩ := bind_eq_ok.mp h
    obtain rfl := pure_eq_ok.mp hu
    rw [hphases]
    exact .literal hphase hliteral
  · split at h
    · next hidentifier =>
      have hterm := term_phases h
      rw [hidentifier, hterm, hphases]
      cases called with
      | true => exact .innerCall hphase
      | false => exact .innerName hphase
    · simp at h

/-- **Every step is a move.** -/
lemma step_moves (h : s.step scope t called = .ok s') : Moves s.phases t.kind called s'.phases := by
  unfold State.step at h
  split at h
  · next hnil =>
    split at h
    · next hidentifier =>
      have hphases : s.phases = [] := by simp [State.phases, hnil]
      rw [hidentifier, term_phases h, hphases]
      cases called with
      | true => exact .call
      | false => exact .name
    · simp at h
  · next frame outer hcons =>
    have hphases : s.phases = frame.phase :: outer.map (·.phase) := by simp [State.phases, hcons]
    split at h
    · next hphase =>
      obtain rfl := Except.ok.inj h
      rw [hphases, hphase]
      exact .opener
    · next hphase =>
      split at h
      · next hclose =>
        rw [hphases, hclose, invoke_phases h]
        exact .closer (.inl hphase)
      · exact argument_moves hcons (.inl hphase) h
    · next hphase => exact argument_moves hcons (.inr hphase) h
    · next hphase =>
      split at h
      · next hcomma =>
        obtain rfl := Except.ok.inj h
        rw [hphases, hcomma, hphase]
        exact .comma
      · split at h
        · next hclose =>
          rw [hphases, hclose, invoke_phases h]
          exact .closer (.inr hphase)
        · simp at h

lemma reads_of_run {tokens : List Token} (h : State.run scope s tokens = .ok s') :
    Reads s.phases tokens := by
  induction tokens generalizing s with
  | nil =>
    rw [State.run] at h
    split at h
    · next hnil =>
      have hphases : s.phases = [] := by simp [State.phases, hnil]
      rw [hphases]
      exact .nil
    · simp at h
  | cons t rest ih =>
    rw [State.run] at h
    split at h
    · simp at h
    · next s₁ hstep => exact .cons (step_moves hstep) (ih h)

lemma reads_of_resolve {calls : Nat} {tokens : List Token} {outcome : Outcome}
    (h : resolve scope calls tokens = .ok outcome) : Reads [] tokens := by
  obtain ⟨s, hs, -⟩ := bind_eq_ok.mp h
  exact reads_of_run hs

/-! ### What stands next to what -/

/-- Whether a kind may follow another one in an expression, or start it when there is none. -/
def joins : Option Kind → Kind → Bool
  | none, next => next = .identifier
  | some .identifier, next =>
    next = .identifier || next = .openParen || next = .closeParen || next = .comma
  | some .openParen, next => next = .identifier || next.isLiteral || next = .closeParen
  | some .closeParen, next => next = .identifier || next = .closeParen || next = .comma
  | some .comma, next => next = .identifier || next.isLiteral
  | some previous, next => previous.isLiteral && (next = .closeParen || next = .comma)

/-- Tokens that may follow one another in an expression, up to its end. -/
def Joined (previous : Option Kind) : List Token → Prop
  | [] => previous = some .identifier ∨ previous = some .closeParen
  | t :: rest => joins previous t.kind = true ∧ Joined (some t.kind) rest

/-- What the last token can have been, given the phases. -/
def Behind : List Phase → Option Kind → Prop
  | [], previous => previous = none ∨ previous = some .identifier ∨ previous = some .closeParen
  | .opening :: _, previous => previous = some .identifier
  | .first :: _, previous => previous = some .openParen
  | .argument :: _, previous => previous = some .comma
  | .separator :: _, previous =>
    ∃ kind, previous = some kind ∧
      (kind = .identifier ∨ kind.isLiteral = true ∨ kind = .closeParen)

lemma behind_resume {outer : List Phase} {kind : Kind}
    (h : kind = .identifier ∨ kind = .closeParen) : Behind (resume outer) (some kind) := by
  cases outer with
  | nil => rcases h with rfl | rfl <;> simp [resume, Behind]
  | cons phase outer => rcases h with rfl | rfl <;> simp [resume, Behind]

lemma joins_start {previous : Option Kind} (h : Behind [] previous) :
    joins previous .identifier = true := by
  rcases h with rfl | rfl | rfl <;> decide

lemma joins_argument {phase : Phase} {outer : List Phase} {previous : Option Kind}
    (hphase : phase = .first ∨ phase = .argument) (h : Behind (phase :: outer) previous)
    {next : Kind} (hnext : next = .identifier ∨ next.isLiteral = true) :
    joins previous next = true := by
  rcases hphase with rfl | rfl
  · obtain rfl := h
    rcases hnext with rfl | hliteral
    · decide
    · simp [joins, hliteral]
  · obtain rfl := h
    rcases hnext with rfl | hliteral
    · decide
    · simp [joins, hliteral]

lemma joins_end {outer : List Phase} {previous : Option Kind}
    (h : Behind (.separator :: outer) previous) :
    joins previous .comma = true ∧ joins previous .closeParen = true := by
  obtain ⟨kind, rfl, rfl | hliteral | rfl⟩ := h
  · decide
  · cases kind <;> first | decide | simp [Kind.isLiteral] at hliteral
  · decide

lemma head?_resume (outer : List Phase) : (resume outer).head? ≠ some .opening := by
  cases outer <;> simp [resume]

lemma Moves.opens {phases phases' : List Phase} {kind : Kind} {called : Bool}
    (h : Moves phases kind called phases') (hhead : phases'.head? = some .opening) :
    called = true := by
  cases h with
  | call | innerCall _ => rfl
  | closer _ => exact absurd hhead (head?_resume _)
  | _ => simp at hhead

lemma Moves.joins {phases phases' : List Phase} {kind : Kind} {called : Bool}
    {previous : Option Kind} (h : Moves phases kind called phases')
    (hopen : phases.head? = some .opening → kind = .openParen) (hb : Behind phases previous) :
    joins previous kind = true ∧ Behind phases' (some kind) := by
  cases h with
  | name => exact ⟨joins_start hb, by simp [Behind]⟩
  | call => exact ⟨joins_start hb, rfl⟩
  | opener =>
    obtain rfl := hopen rfl
    obtain rfl := hb
    exact ⟨by decide, rfl⟩
  | literal hphase hliteral =>
    exact ⟨joins_argument hphase hb (.inr hliteral), _, rfl, .inr (.inl hliteral)⟩
  | innerName hphase => exact ⟨joins_argument hphase hb (.inl rfl), _, rfl, .inl rfl⟩
  | innerCall hphase => exact ⟨joins_argument hphase hb (.inl rfl), rfl⟩
  | comma => exact ⟨(joins_end hb).1, rfl⟩
  | closer hphase =>
    refine ⟨?_, behind_resume (.inr rfl)⟩
    rcases hphase with rfl | rfl
    · obtain rfl := hb
      decide
    · exact (joins_end hb).2

lemma Reads.joined {phases : List Phase} {tokens : List Token} (h : Reads phases tokens)
    (hopen : phases.head? = some .opening → opensNext tokens = true) {previous : Option Kind}
    (hb : Behind phases previous) (hne : tokens ≠ [] ∨ previous ≠ none) :
    Joined previous tokens := by
  induction h generalizing previous with
  | nil =>
    rcases hb with rfl | hb
    · simp at hne
    · exact hb
  | @cons phases phases' t rest hmove _ ih =>
    have hparen : phases.head? = some .opening → t.kind = .openParen := fun hhead => by
      simpa [opensNext] using hopen hhead
    obtain ⟨hjoins, hbehind⟩ := hmove.joins hparen hb
    exact ⟨hjoins, ih hmove.opens hbehind (.inr (by simp))⟩

/-! ### Parentheses -/

/-- Number of parentheses that are open. -/
def depth : List Phase → Nat
  | [] => 0
  | .opening :: outer => outer.length
  | _ :: outer => outer.length + 1

lemma depth_resume (outer : List Phase) : depth (resume outer) = outer.length := by
  cases outer <;> rfl

lemma not_mem_brackets {kind : Kind} (h : kind.isLiteral = true) : kind ∉ Nesting.brackets := by
  cases kind <;> first | decide | simp [Kind.isLiteral] at h

lemma Moves.depth {phases phases' : List Phase} {kind : Kind} {called : Bool}
    (h : Moves phases kind called phases')
    (hopen : phases.head? = some .opening → kind = .openParen) :
    (kind ∉ Nesting.brackets ∧ depth phases' = depth phases) ∨
      (kind = .openParen ∧ depth phases' = depth phases + 1) ∨
      (kind = .closeParen ∧ depth phases = depth phases' + 1) := by
  cases h with
  | name | call => exact .inl ⟨by decide, rfl⟩
  | opener => exact .inr (.inl ⟨hopen rfl, rfl⟩)
  | literal hphase hliteral =>
    refine .inl ⟨not_mem_brackets hliteral, ?_⟩
    rcases hphase with rfl | rfl <;> rfl
  | innerName hphase | innerCall hphase =>
    refine .inl ⟨by decide, ?_⟩
    rcases hphase with rfl | rfl <;> rfl
  | comma => exact .inl ⟨by decide, rfl⟩
  | closer hphase =>
    refine .inr (.inr ⟨rfl, ?_⟩)
    rw [depth_resume]
    rcases hphase with rfl | rfl <;> rfl

lemma Reads.closes {phases : List Phase} {tokens : List Token} (h : Reads phases tokens)
    (hopen : phases.head? = some .opening → opensNext tokens = true) {opened : List Token}
    (hdepth : opened.length = depth phases) (hparen : ∀ t ∈ opened, t.kind = .openParen) :
    Nesting.run opened tokens = .ok [] := by
  induction h generalizing opened with
  | nil =>
    obtain rfl := List.eq_nil_of_length_eq_zero hdepth
    rfl
  | @cons phases phases' t rest hmove _ ih =>
    have hfirst : phases.head? = some .opening → t.kind = .openParen := fun hhead => by
      simpa [opensNext] using hopen hhead
    have hnext : phases'.head? = some .opening → opensNext rest = true := hmove.opens
    rcases hmove.depth hfirst with ⟨hother, hsame⟩ | ⟨hopener, hmore⟩ | ⟨hcloser, hless⟩
    · rw [Nesting.run_cons_of_step rest (Nesting.step_other opened hother)]
      exact ih hnext (by omega) hparen
    · rw [Nesting.run_cons_of_step rest (Nesting.step_opener opened (by rw [hopener]; rfl))]
      exact ih hnext (by simp; omega) (by simpa [hopener] using hparen)
    · obtain ⟨last, outer, rfl⟩ := List.exists_cons_of_length_pos (l := opened) (by omega)
      obtain ⟨hlast, houter⟩ := List.forall_mem_cons.mp hparen
      have hpair : Nesting.Pair last.kind t.kind := by rw [hlast, hcloser]; exact .paren
      rw [Nesting.run_cons_of_step rest (Nesting.step_closer outer hpair)]
      exact ih hnext (by simp at hdepth; omega) houter

lemma Reads.wellNested {tokens : List Token} (h : Reads [] tokens) :
    Nesting.WellNested tokens := by
  have hrun : Nesting.run [] tokens = .ok [] := h.closes (by simp) rfl (by simp)
  exact Nesting.closes_of_run hrun

end Expression

end TypeGuard
