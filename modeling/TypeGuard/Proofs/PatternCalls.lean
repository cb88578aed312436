import TypeGuard.Proofs.Arguments
import TypeGuard.Proofs.Emission

/-!
The calls of the pattern factory among the tokens of expressions.

They are found in one pass over the tokens that counts closing parentheses, for a call gets its
number where it is closed. What is found between the tokens of a term does not depend on what comes
behind it, and it is what the constraint of the term asks statements for.
-/

namespace TypeGuard

open Outcome

/-- A call of the pattern factory with the texts between its parentheses. -/
structure PatternCall where
  call : Call
  source : String
  flags : String

def PatternCall.statement (c : PatternCall) : String :=
  Factory.patternStatement c.call c.source c.flags

/-- Tokens that call the pattern factory with a source, and possibly with flags. -/
inductive MatchCall (callee : Token) : String → String → List Token → Prop where
  | plain {opener source closer : Token} :
      callee.kind = .identifier → callee.text = "match" → opener.kind = .openParen →
      source.kind = .string → closer.kind = .closeParen →
      MatchCall callee (Literal.unquoted source.text) "" [callee, opener, source, closer]
  | flagged {opener source comma flags closer : Token} :
      callee.kind = .identifier → callee.text = "match" → opener.kind = .openParen →
      source.kind = .string → comma.kind = .comma → flags.kind = .string →
      closer.kind = .closeParen →
      MatchCall callee (Literal.unquoted source.text) (Literal.unquoted flags.text)
        [callee, opener, source, comma, flags, closer]

/-! ### One pass over the tokens -/

/-- The flags behind the source of a pattern, up to the closing parenthesis. -/
def flagsBehind? : List Token → Option String
  | [] => none
  | t :: rest =>
    if t.kind = .closeParen then some ""
    else match rest with
      | flags :: closer :: _ =>
        if t.kind = .comma ∧ flags.kind = .string ∧ closer.kind = .closeParen then
          some (Literal.unquoted flags.text)
        else none
      | _ => none

/-- The call of the pattern factory that tokens start with, given how many calls are closed. -/
def patternCall? (closed : Nat) : List Token → Option PatternCall
  | callee :: opener :: source :: rest =>
    if callee.kind = .identifier ∧ callee.text = "match" ∧ opener.kind = .openParen ∧
        source.kind = .string then
      (flagsBehind? rest).map (⟨⟨callee, closed + 1⟩, Literal.unquoted source.text, ·⟩)
    else none
  | _ => none

/-- The calls of the pattern factory among tokens, given how many calls are closed. -/
def patternCalls (closed : Nat) : List Token → List PatternCall
  | [] => []
  | t :: rest =>
    if t.kind = .closeParen then patternCalls (closed + 1) rest
    else (patternCall? closed (t :: rest)).toList ++ patternCalls closed rest

def closings (tokens : List Token) : Nat := tokens.countP (·.kind = .closeParen)

section

variable {closed : Nat} {callee t : Token} {source flags : String} {tokens call rest : List Token}

lemma flagsBehind?_eq_some (h : flagsBehind? tokens = some flags) :
    (∃ closer back, tokens = closer :: back ∧ closer.kind = .closeParen ∧ flags = "") ∨
    ∃ comma text closer back, tokens = comma :: text :: closer :: back ∧ comma.kind = .comma ∧
      text.kind = .string ∧ closer.kind = .closeParen ∧ flags = Literal.unquoted text.text := by
  unfold flagsBehind? at h
  split at h
  · simp at h
  · next t rest =>
    split at h
    · next hclose => exact .inl ⟨t, rest, rfl, hclose, by simpa using h.symm⟩
    · split at h
      · next text closer back =>
        split at h
        · next hkinds =>
          obtain ⟨hcomma, htext, hcloser⟩ := hkinds
          exact .inr ⟨t, text, closer, back, rfl, hcomma, htext, hcloser, by simpa using h.symm⟩
        · simp at h
      · simp at h

lemma patternCall?_eq_some {c : PatternCall} (h : patternCall? closed tokens = some c) :
    ∃ callee call back, tokens = call ++ back ∧ MatchCall callee c.source c.flags call ∧
      c.call = ⟨callee, closed + 1⟩ := by
  unfold patternCall? at h
  split at h
  · next callee opener source rest =>
    split at h
    · next hkinds =>
      obtain ⟨hcallee, htext, hopener, hsource⟩ := hkinds
      obtain ⟨flags, hflags, rfl⟩ := Option.map_eq_some_iff.mp h
      rcases flagsBehind?_eq_some hflags with ⟨closer, back, rfl, hcloser, rfl⟩ |
        ⟨comma, text, closer, back, rfl, hcomma, hstring, hcloser, rfl⟩
      · exact ⟨callee, [callee, opener, source, closer], back, rfl,
          .plain hcallee htext hopener hsource hcloser, rfl⟩
      · exact ⟨callee, [callee, opener, source, comma, text, closer], back, rfl,
          .flagged hcallee htext hopener hsource hcomma hstring hcloser, rfl⟩
    · simp at h
  · simp at h

lemma patternCall?_eq_none (h : callee.kind ≠ .identifier ∨ callee.text ≠ "match" ∨
    Expression.opensNext rest = false) : patternCall? closed (callee :: rest) = none := by
  unfold patternCall?
  split
  · next heq =>
    obtain ⟨rfl, rfl⟩ := List.cons.inj heq
    rw [if_neg]
    rintro ⟨hkind, htext, hopener, -⟩
    simp [hkind, htext, Expression.opensNext, hopener] at h
  · rfl

lemma patternCalls_closer (h : t.kind = .closeParen) :
    patternCalls closed (t :: rest) = patternCalls (closed + 1) rest := by
  rw [patternCalls, if_pos h]

lemma patternCalls_pass (hclose : t.kind ≠ .closeParen) (h : t.kind ≠ .identifier ∨
    t.text ≠ "match" ∨ Expression.opensNext rest = false) :
    patternCalls closed (t :: rest) = patternCalls closed rest := by
  rw [patternCalls, if_neg hclose, patternCall?_eq_none h]
  rfl

/-- A call is found, and the pass goes on behind it. -/
lemma MatchCall.patternCalls_append (h : MatchCall callee source flags call) (closed : Nat)
    (back : List Token) : patternCalls closed (call ++ back) =
      ⟨⟨callee, closed + 1⟩, source, flags⟩ :: patternCalls (closed + 1) back := by
  cases h with
  | @plain opener source closer hcallee htext hopener hsource hcloser =>
    have hfirst : patternCall? closed (callee :: opener :: source :: closer :: back) =
        some ⟨⟨callee, closed + 1⟩, Literal.unquoted source.text, ""⟩ := by
      simp [patternCall?, flagsBehind?, hcallee, htext, hopener, hsource, hcloser]
    simp only [List.cons_append, List.nil_append]
    rw [patternCalls, if_neg (by simp [hcallee]), hfirst,
      patternCalls_pass (by simp [hopener]) (.inl (by simp [hopener])),
      patternCalls_pass (by simp [hsource]) (.inl (by simp [hsource])),
      patternCalls_closer hcloser]
    rfl
  | @flagged opener source comma flags closer hcallee htext hopener hsource hcomma hflags hcloser =>
    have hfirst : patternCall? closed
        (callee :: opener :: source :: comma :: flags :: closer :: back) =
        some ⟨⟨callee, closed + 1⟩, Literal.unquoted source.text, Literal.unquoted flags.text⟩ := by
      simp [patternCall?, flagsBehind?, hcallee, htext, hopener, hsource, hcomma, hflags, hcloser]
    simp only [List.cons_append, List.nil_append]
    rw [patternCalls, if_neg (by simp [hcallee]), hfirst,
      patternCalls_pass (by simp [hopener]) (.inl (by simp [hopener])),
      patternCalls_pass (by simp [hsource]) (.inl (by simp [hsource])),
      patternCalls_pass (by simp [hcomma]) (.inl (by simp [hcomma])),
      patternCalls_pass (by simp [hflags]) (.inl (by simp [hflags])),
      patternCalls_closer hcloser]
    rfl

/-- **Every call is found**, with the number of calls that are closed before it. -/
lemma MatchCall.mem_patternCalls (h : MatchCall callee source flags call) (closed : Nat)
    (front back : List Token) : ⟨⟨callee, closed + closings front + 1⟩, source, flags⟩ ∈
      patternCalls closed (front ++ (call ++ back)) := by
  induction front generalizing closed with
  | nil =>
    rw [List.nil_append, h.patternCalls_append]
    exact List.mem_cons_self
  | cons t front ih =>
    rw [List.cons_append]
    by_cases hclose : t.kind = .closeParen
    · have hcount : closed + closings (t :: front) = closed + 1 + closings front := by
        simp [closings, hclose]
        omega
      rw [patternCalls_closer hclose, hcount]
      exact ih (closed + 1)
    · have hcount : closings (t :: front) = closings front := by simp [closings, hclose]
      rw [patternCalls, if_neg hclose, hcount]
      exact List.mem_append_right _ (ih closed)

/-! ### Numbers of calls -/

lemma patternCalls_behind {c : PatternCall} (h : patternCall? closed (t :: rest) = some c) :
    c.call.id = closed + 1 ∧ ∃ back, patternCalls closed rest = patternCalls (closed + 1) back := by
  obtain ⟨callee, call, back, heq, hcall, hid⟩ := patternCall?_eq_some h
  have hkind : t.kind ≠ .closeParen := by
    intro hkind
    rw [patternCall?_eq_none (.inl (by simp [hkind]))] at h
    simp at h
  refine ⟨by rw [hid], back, ?_⟩
  have hscan := hcall.patternCalls_append closed back
  rw [← heq, patternCalls, if_neg hkind, h] at hscan
  exact (List.cons.inj hscan).2

lemma lt_id_of_mem {c : PatternCall} (h : c ∈ patternCalls closed tokens) : closed < c.call.id := by
  induction tokens generalizing closed with
  | nil => simp [patternCalls] at h
  | cons t rest ih =>
    rw [patternCalls] at h
    split at h
    · exact (Nat.lt_succ_self closed).trans (ih h)
    · rcases List.mem_append.mp h with h | h
      · have hid := (patternCalls_behind (Option.mem_toList.mp h)).1
        omega
      · exact ih h

/-- **Calls with the same number are the same call.** -/
lemma eq_of_mem_patternCalls {c c' : PatternCall} (hc : c ∈ patternCalls closed tokens)
    (hc' : c' ∈ patternCalls closed tokens) (hid : c.call.id = c'.call.id) : c = c' := by
  induction tokens generalizing closed with
  | nil => simp [patternCalls] at hc
  | cons t rest ih =>
    rw [patternCalls] at hc hc'
    split at hc
    · next hclose =>
      rw [if_pos hclose] at hc'
      exact ih hc hc'
    · next hclose =>
      rw [if_neg hclose] at hc'
      cases hfirst : patternCall? closed (t :: rest) with
      | none =>
        rw [hfirst] at hc hc'
        exact ih (by simpa using hc) (by simpa using hc')
      | some first =>
        obtain ⟨hnumber, back, hback⟩ := patternCalls_behind hfirst
        -- the calls behind the first one have greater numbers
        have hlater : ∀ d ∈ patternCalls closed rest, first.call.id < d.call.id := by
          intro d hd
          rw [hback] at hd
          exact hnumber ▸ lt_id_of_mem hd
        rw [hfirst] at hc hc'
        simp only [Option.toList_some, List.singleton_append, List.mem_cons] at hc hc'
        rcases hc with rfl | hc <;> rcases hc' with rfl | hc'
        · rfl
        · exact absurd hid (hlater c' hc').ne
        · exact absurd hid (hlater c hc).ne'
        · exact ih hc hc'

end

/-! ### The tokens of a term -/

namespace Expression

/-- What the pass finds in tokens, whatever comes behind them, with the number of closed calls
before and after. -/
structure Finds (calls : Nat) (tokens : List Token) (found : List PatternCall) (calls' : Nat) :
    Prop where
  opens : ∀ rest, opensNext rest = false → opensNext (tokens ++ rest) = false
  scan : ∀ rest, opensNext rest = false →
    patternCalls calls (tokens ++ rest) = found ++ patternCalls calls' rest
  flags : ∀ c ∈ found, c.flags.toList ⊆ Factory.flagLetters

lemma Finds.nil (calls : Nat) : Finds calls [] [] calls :=
  ⟨fun _ h => h, fun _ _ => rfl, by simp⟩

lemma Finds.append {calls calls' calls'' : Nat} {first second : List Token}
    {found found' : List PatternCall} (h : Finds calls first found calls')
    (h' : Finds calls' second found' calls'') :
    Finds calls (first ++ second) (found ++ found') calls'' := by
  refine ⟨fun rest hrest => ?_, fun rest hrest => ?_, ?_⟩
  · rw [List.append_assoc]
    exact h.opens _ (h'.opens _ hrest)
  · rw [List.append_assoc, h.scan _ (h'.opens _ hrest), h'.scan _ hrest, List.append_assoc]
  · exact List.forall_mem_append.mpr ⟨h.flags, h'.flags⟩

lemma Finds.single (calls : Nat) {t : Token} (hopen : t.kind ≠ .openParen)
    (hclose : t.kind ≠ .closeParen) : Finds calls [t] [] calls := by
  refine ⟨fun rest _ => by simpa [opensNext] using hopen, fun rest hrest => ?_, by simp⟩
  exact patternCalls_pass hclose (.inr (.inr hrest))

lemma Finds.call {calls calls' : Nat} {callee opener closer : Token} {inner : List Token}
    {found : List PatternCall} (h : Finds calls inner found calls')
    (hcallee : callee.kind = .identifier) (htext : callee.text ≠ "match")
    (hopener : opener.kind = .openParen) (hcloser : closer.kind = .closeParen) :
    Finds calls (callee :: opener :: (inner ++ [closer])) found (calls' + 1) := by
  refine ⟨fun rest _ => by simp [opensNext, hcallee], fun rest hrest => ?_, h.flags⟩
  have hstop : opensNext (closer :: rest) = false := by simp [opensNext, hcloser]
  have hinner : inner ++ [closer] ++ rest = inner ++ closer :: rest := by simp
  rw [List.cons_append, List.cons_append, hinner,
    patternCalls_pass (by simp [hcallee]) (.inr (.inl htext)),
    patternCalls_pass (by simp [hopener]) (.inl (by simp [hopener])), h.scan _ hstop,
    patternCalls_closer hcloser]

lemma Finds.matchCall {callee : Token} {source flags : String} {tokens : List Token} (calls : Nat)
    (h : MatchCall callee source flags tokens) (hflags : flags.toList ⊆ Factory.flagLetters) :
    Finds calls tokens [⟨⟨callee, calls + 1⟩, source, flags⟩] (calls + 1) := by
  refine ⟨fun rest _ => ?_, fun rest _ => h.patternCalls_append calls rest, by simpa using hflags⟩
  cases h with
  | plain hcallee | flagged hcallee => simp [opensNext, hcallee]

end Expression

/-! ### What constraints ask for -/

/-- The statements that an argument asks for, with the placeholder still in them. -/
def Argument.templates : Argument → List String
  | literal _ => []
  | constraint c => c.templates

lemma templates_plain (check : Check) (type : TypeUnion) (code : String) :
    (Constraint.plain check type code).templates = [] := by
  simp [Constraint.plain, Constraint.templates, dependencyTemplates]

lemma templates_literals (values : List Literal) :
    (values.map Argument.literal).flatMap Argument.templates = [] := by
  simp [Argument.templates]

namespace Factory

/-- A factory other than that of patterns asks for what its arguments ask for. -/
lemma templates_of_build {name : String} {factory : Factory} {call : Call} {args : List Argument}
    {c : Constraint} (h : Registry.standard.factory? name = some factory) (hname : name ≠ "match")
    (hbuild : factory.build call args = .ok c) :
    c.templates = args.flatMap Argument.templates := by
  have hfactory : factory.name = name := by simpa using List.find?_some h
  revert hbuild hfactory
  refine Factory.standard_cases
    (motive := fun factory => factory.build call args = .ok c → factory.name = name → _)
    ?_ ?_ ?_ ?_ h
  · intro hbuild _
    obtain ⟨xs, -, rfl⟩ := range_accepts.mp ⟨c, hbuild⟩
    obtain ⟨-, start, stop, step, -, -, -, rfl⟩ := range_eq_ok.mp hbuild
    rw [templates_plain, templates_literals]
  · intro _ heq
    exact absurd heq.symm hname
  · intro _ side measure hbuild _
    obtain ⟨bound, exclusive, rfl⟩ := limit_accepts.mp ⟨c, hbuild⟩
    obtain ⟨-, _, _, -, -, rfl⟩ := limit_eq_ok.mp hbuild
    rw [templates_plain, templates_literals]
  · intro hbuild _
    obtain ⟨inner, rfl, rfl⟩ := optional_eq_ok.mp hbuild
    simp [Constraint.templates, dependencyTemplates, Dependency.templates, Argument.templates]

lemma templates_of_pattern {factory : Factory} {call : Call} {args : List Argument}
    {c : Constraint} (h : Registry.standard.factory? "match" = some factory)
    (hbuild : factory.build call args = .ok c) :
    ∃ (source : String) (flags : Option String),
      args = (.string source :: (flags.map .string).toList).map .literal ∧
      (flags.getD "").toList ⊆ flagLetters ∧
      c.templates = [patternStatement call source (flags.getD "")] := by
  obtain rfl : factory = ⟨"match", pattern⟩ := by
    have hfind : Registry.standard.factory? "match" = some ⟨"match", pattern⟩ := rfl
    exact Option.some.inj (h.symm.trans hfind)
  obtain ⟨source, flags, p, -, -, hletters, -, rfl⟩ := pattern_accepts.mp ⟨c, hbuild⟩
  obtain ⟨-, source', flags', reading, p', h0, -, h1, -, -, rfl⟩ := pattern_eq_ok.mp hbuild
  obtain rfl : source' = some source := by cases source' <;> simp_all
  obtain rfl : flags' = flags := by cases flags' <;> cases flags <;> simp_all
  exact ⟨source, flags', rfl, hletters, by simp [Constraint.templates, dependencyTemplates]⟩

end Factory

/-! ### Terms ask for what is found in them -/

namespace Expression

variable {scope : Scope} {tally : Tally}

/-- A name asks for nothing, and is not a call. -/
lemma boundOf_templates (hscope : scope.registry = .standard) {t : Token} {r : Bound × Tally}
    (h : boundOf scope tally t = .ok r) :
    r.1.toConstraint.templates = [] ∧ r.2.calls = tally.calls := by
  unfold boundOf at h
  split at h
  · obtain rfl := Except.ok.inj h
    simp [Bound.toConstraint, Constraint.templates, dependencyTemplates, Dependency.templates]
  · obtain rfl := Except.ok.inj h
    simp [Bound.toConstraint, Constraint.templates, dependencyTemplates, Dependency.templates]
  · split at h
    · next c hc =>
      obtain rfl := Except.ok.inj h
      rw [hscope] at hc
      obtain ⟨type, -, rfl⟩ := Registry.standard_primitive hc
      exact ⟨templates_plain _ _ _, rfl⟩
    · split at h <;> simp at h

lemma operands_texts {operands : List Operand} {r : List Argument × Tally} {texts : List String}
    (h : evaluateOperands scope tally operands = .ok r)
    (hr : r.1 = (texts.map Literal.string).map .literal) :
    ∃ tokens : List Token, operands = tokens.map .literal ∧ (∀ t ∈ tokens, t.kind = .string) ∧
      texts = tokens.map (fun t => Literal.unquoted t.text) ∧ r.2 = tally := by
  induction operands generalizing tally r texts with
  | nil =>
    obtain rfl := Except.ok.inj h
    obtain rfl : texts = [] := by simpa using hr.symm
    exact ⟨[], rfl, by simp, rfl, rfl⟩
  | cons o rest ih =>
    simp only [evaluateOperands, bind_eq_ok, pure_eq_ok] at h
    obtain ⟨p, hp, q, hq, rfl⟩ := h
    cases texts with
    | nil => simp at hr
    | cons text texts =>
      obtain ⟨hfirst, hothers⟩ : p.1 = .literal (.string text) ∧
          q.1 = (texts.map Literal.string).map .literal := by simpa using hr
      cases o with
      | literal t =>
        simp only [Operand.evaluate, bind_eq_ok, pure_eq_ok] at hp
        obtain ⟨value, hvalue, rfl⟩ := hp
        obtain rfl : value = .string text := by simpa using hfirst
        obtain ⟨hkind, htext⟩ : t.kind = .string ∧ Literal.unquoted t.text = text := by
          unfold Literal.ofToken at hvalue
          split at hvalue
          · simp at hvalue
          · split at hvalue <;> simp at hvalue
          · next hkind => exact ⟨hkind, by simpa using hvalue⟩
          · simp at hvalue
        obtain ⟨tokens, rfl, hkinds, rfl, htally⟩ := ih hq hothers
        exact ⟨t :: tokens, rfl, List.forall_mem_cons.mpr ⟨hkind, hkinds⟩, by simp [htext], htally⟩
      | term a =>
        simp only [Operand.evaluate, bind_eq_ok, pure_eq_ok] at hp
        obtain ⟨b, -, argument, hargument, rfl⟩ := hp
        obtain ⟨-, rfl⟩ := argumentOf_eq_ok.mp hargument
        simp at hfirst

lemma matchCall_of_listed {callee opener closer : Token} {operands : List Operand}
    {inner : List Token} (hcallee : callee.kind = .identifier) (htext : callee.text = "match")
    (hopener : opener.kind = .openParen) (hcloser : closer.kind = .closeParen)
    (hlisted : Operand.Listed operands inner) {r : List Argument × Tally} {source : String}
    {flags : Option String} (h : evaluateOperands scope tally operands = .ok r)
    (hr : r.1 = (.string source :: (flags.map .string).toList).map .literal) :
    MatchCall callee source (flags.getD "") (callee :: opener :: (inner ++ [closer])) ∧
      r.2 = tally := by
  have htexts : r.1 = ((source :: flags.toList).map Literal.string).map .literal := by
    rw [hr]
    cases flags <;> rfl
  obtain ⟨tokens, rfl, hkinds, hsource, htally⟩ := operands_texts h htexts
  refine ⟨?_, htally⟩
  cases flags with
  | none =>
    obtain ⟨t, rfl, rfl⟩ := List.map_eq_singleton_iff.mp hsource.symm
    cases hlisted with
    | single ho =>
      cases ho
      exact .plain hcallee htext hopener (hkinds t (by simp)) hcloser
  | some flags =>
    obtain ⟨t, rest, rfl, rfl, hrest⟩ := List.map_eq_cons_iff.mp hsource.symm
    obtain ⟨f, rfl, rfl⟩ := List.map_eq_singleton_iff.mp hrest
    cases hlisted with
    | cons ho hcomma hnext =>
      cases ho
      cases hnext with
      | single hflags =>
        cases hflags
        exact .flagged hcallee htext hopener (hkinds t (by simp)) hcomma (hkinds f (by simp))
          hcloser

lemma operands_find {operands : List Operand} {inner : List Token} {r : List Argument × Tally}
    (hlisted : Operand.Listed operands inner)
    (ih : ∀ a, Operand.term a ∈ operands → ∀ ts tally r, a.Spelled ts →
      a.evaluate scope tally = .ok r → ∃ found, Finds tally.calls ts found r.2.calls ∧
        r.1.toConstraint.templates = found.map PatternCall.statement)
    (h : evaluateOperands scope tally operands = .ok r) :
    ∃ found, Finds tally.calls inner found r.2.calls ∧
      r.1.flatMap Argument.templates = found.map PatternCall.statement := by
  have hoperand {o : Operand} (ho : o ∈ operands) {ts : List Token} (hspelled : o.Spelled ts)
      {tally : Tally} {p : Argument × Tally} (hp : o.evaluate scope tally = .ok p) :
      ∃ found, Finds tally.calls ts found p.2.calls ∧
        p.1.templates = found.map PatternCall.statement := by
    cases hspelled with
    | literal ht =>
      simp only [Operand.evaluate, bind_eq_ok, pure_eq_ok] at hp
      obtain ⟨value, -, rfl⟩ := hp
      refine ⟨[], Finds.single _ ?_ ?_, rfl⟩ <;> (intro hkind; simp [hkind, Kind.isLiteral] at ht)
    | term ha =>
      simp only [Operand.evaluate, bind_eq_ok, pure_eq_ok] at hp
      obtain ⟨b, hb, argument, hargument, rfl⟩ := hp
      obtain ⟨-, rfl⟩ := argumentOf_eq_ok.mp hargument
      exact ih _ ho _ _ _ ha hb
  induction operands generalizing tally r inner with
  | nil =>
    cases hlisted
    obtain rfl := Except.ok.inj h
    exact ⟨[], Finds.nil _, rfl⟩
  | cons o others ihlist =>
    simp only [evaluateOperands, bind_eq_ok, pure_eq_ok] at h
    obtain ⟨p, hp, q, hq, rfl⟩ := h
    cases hlisted with
    | single ho =>
      obtain rfl := Except.ok.inj hq
      simpa using hoperand (by simp) ho hp
    | @cons _ next rest comma ts more ho hcomma hmore =>
      obtain ⟨found, hfound, htemplates⟩ := hoperand (by simp) ho hp
      obtain ⟨found', hfound', htemplates'⟩ := ihlist hmore
        (fun a ha => ih a (List.mem_cons_of_mem _ ha)) hq
        fun ha => hoperand (List.mem_cons_of_mem _ ha)
      have hseparator : Finds p.2.calls [comma] [] p.2.calls :=
        Finds.single _ (by simp [hcomma]) (by simp [hcomma])
      refine ⟨found ++ found', ?_, ?_⟩
      · simpa using hfound.append (hseparator.append hfound')
      · simp [htemplates, htemplates']

/-- **A term asks for what is found in its tokens.** -/
lemma evaluate_finds (hscope : scope.registry = .standard) {a : Term} {ts : List Token}
    (ha : a.Spelled ts) {r : Bound × Tally} (h : a.evaluate scope tally = .ok r) :
    ∃ found, Finds tally.calls ts found r.2.calls ∧
      r.1.toConstraint.templates = found.map PatternCall.statement := by
  induction a generalizing ts tally r with
  | name t =>
    cases ha with
    | name ht =>
      rw [Term.evaluate] at h
      obtain ⟨htemplates, hcalls⟩ := boundOf_templates hscope h
      rw [htemplates, hcalls]
      exact ⟨[], Finds.single _ (by simp [ht]) (by simp [ht]), rfl⟩
  | call callee operands ih =>
    cases ha with
    | @call _ opener closer _ inner hcallee hopener hcloser hlisted =>
      simp only [Term.evaluate, bind_eq_ok, pure_eq_ok] at h
      obtain ⟨factory, hfactory, q, hq, c, hc, rfl⟩ := h
      rw [factoryOf_eq_ok, hscope] at hfactory
      by_cases htext : callee.text = "match"
      · rw [htext] at hfactory
        obtain ⟨source, flags, hargs, hletters, htemplates⟩ :=
          Factory.templates_of_pattern hfactory hc
        obtain ⟨hcall, htally⟩ :=
          matchCall_of_listed hcallee htext hopener hcloser hlisted hq hargs
        rw [htally] at htemplates
        have hfinds := Finds.matchCall tally.calls hcall hletters
        rw [htally]
        exact ⟨[⟨⟨callee, tally.calls + 1⟩, source, flags.getD ""⟩], hfinds, htemplates⟩
      · obtain ⟨found, hfound, htemplates⟩ :=
          operands_find hlisted (fun a ha ts tally r hts hr => ih a ha hts hr) hq
        have hcall := Factory.templates_of_build hfactory htext hc
        exact ⟨found, hfound.call hcallee htext hopener hcloser, hcall.trans htemplates⟩

lemma evaluateTerms_find (hscope : scope.registry = .standard) {terms : List Term}
    {tokens : List Token} (hterms : Sequence terms tokens) {r : List Bound × Tally}
    (h : evaluateTerms scope tally terms = .ok r) :
    ∃ found, Finds tally.calls tokens found r.2.calls ∧
      r.1.flatMap (·.toConstraint.templates) = found.map PatternCall.statement := by
  induction hterms generalizing tally r with
  | nil =>
    obtain rfl := Except.ok.inj h
    exact ⟨[], Finds.nil _, rfl⟩
  | cons ha _ ih =>
    simp only [evaluateTerms, bind_eq_ok, pure_eq_ok] at h
    obtain ⟨p, hp, q, hq, rfl⟩ := h
    obtain ⟨found, hfound, htemplates⟩ := evaluate_finds hscope ha hp
    obtain ⟨found', hfound', htemplates'⟩ := ih hq
    exact ⟨found ++ found', hfound.append hfound', by simp [htemplates, htemplates']⟩

/-- **An expression asks for what is found in its tokens.** -/
lemma resolve_finds (hscope : scope.registry = .standard) {calls : Nat} {tokens : List Token}
    {outcome : Outcome} (h : resolve scope calls tokens = .ok outcome) :
    ∃ found, Finds calls tokens found outcome.calls ∧
      outcome.terms.flatMap (·.toConstraint.templates) = found.map PatternCall.statement := by
  obtain ⟨terms, r, hterms, hr, rfl⟩ := terms_of_resolve h
  exact evaluateTerms_find hscope hterms hr

end Expression

end TypeGuard
