import TypeGuard.Proofs.Regrouping
import TypeGuard.Proofs.Resolution
import TypeGuard.Proofs.ValueKind
import TypeGuard.Proofs.WellFormed

/-!
The declarations of a text that resolves can be laid out and read again.

What resolving asks of expressions and settings leaves only names, literals, parentheses and commas,
each at its place. Such neighbours may stand next to each other as the layout sets them.
-/

namespace TypeGuard

open Outcome

namespace Canonical

open Grouping Scan

/-! ### Declarations that can be read again -/

structure PrintableExpression (inBlock : Bool) (tokens : List Token) : Prop where
  proper : ∀ t ∈ tokens, Proper inBlock t
  joined : Expression.Joined none tokens
  nested : Nesting.WellNested tokens

structure PrintableSetting (s : Setting) : Prop where
  key : IsName true s.key
  proper : Proper true (valueToken s.value)
  plain : (valueToken s.value).kind = .identifier ∨ (valueToken s.value).kind.isLiteral = true
  value : Grouping.valueKind (valueToken s.value) = s.value.kind

def Printable : Declaration → Prop
  | .config _ settings => ∀ s ∈ settings, PrintableSetting s
  | .typeAlias name body => IsName false name ∧ PrintableExpression false body
  | .record _ name lines =>
    IsName false name ∧ ∀ p ∈ lines, IsName true p.name ∧ PrintableExpression true p.expression

lemma PrintableExpression.ne_nil {inBlock : Bool} {tokens : List Token}
    (h : PrintableExpression inBlock tokens) : tokens ≠ [] := by
  rintro rfl
  simpa [Expression.Joined] using h.joined

lemma PrintableSetting.value_kind {s : Setting} (h : PrintableSetting s) :
    (valueToken s.value).kind ∈ [Kind.identifier, .number, .string, .boolean] := by
  have hplain := h.plain
  cases hk : (valueToken s.value).kind <;> rw [hk] at hplain <;>
    first | decide | simp [Kind.isLiteral] at hplain

/-! ### Neighbours -/

def termKinds : List Kind :=
  [.identifier, .number, .string, .boolean, .openParen, .closeParen, .comma]

lemma joins_next {previous : Option Kind} {next : Kind}
    (h : Expression.joins previous next = true) : next ∈ termKinds := by
  by_contra hnext
  unfold Expression.joins at h
  cases next with
  | identifier | number | string | boolean | openParen | closeParen | comma =>
    exact hnext (by decide)
  | _ => split at h <;> simp [Kind.isLiteral] at h

lemma joins_previous {previous next : Kind}
    (h : Expression.joins (some previous) next = true) : previous ∈ termKinds := by
  cases previous with
  | identifier | number | string | boolean | openParen | closeParen | comma => decide
  | _ => simp [Expression.joins, Kind.isLiteral] at h

/-- Neighbours in an expression may stand next to each other where the layout has no blank. -/
lemma follows_of_joins {previous next : Kind}
    (h : Expression.joins (some previous) next = true) :
    isSpaced previous next = true ∨ previous.Beside next := by
  have hall : ∀ p ∈ termKinds, ∀ n ∈ termKinds, Expression.joins (some p) n = true →
      isSpaced p n = true ∨ p.Beside n := by
    decide
  exact hall previous (joins_previous h) next (joins_next h) h

lemma joined_mem {previous : Option Kind} {tokens : List Token}
    (h : Expression.Joined previous tokens) : ∀ t ∈ tokens, t.kind ∈ termKinds := by
  induction tokens generalizing previous with
  | nil => simp
  | cons t rest ih => exact List.forall_mem_cons.mpr ⟨joins_next h.1, ih h.2⟩

lemma ne_brace_of_mem {kind : Kind} (h : kind ∈ termKinds) :
    kind ≠ .openBrace ∧ kind ≠ .closeBrace := by
  revert kind
  decide

/-! ### What resolving asks for -/

/-- A declaration that resolves after some others. -/
def Resolves (d : Declaration) : Prop :=
  ∃ r r' : Resolution, r.declaration .standard d = .ok r'

lemma setting_of_eq_ok {c c' : Configuration} {s : Setting}
    (h : Resolution.setting c s = .ok c') :
    s.key.kind = .identifier ∧ s.value.kind.isLiteral = true := by
  unfold Resolution.setting at h
  split at h
  · simp at h
  · next hkey =>
    split at h
    · simp at h
    · next hvalue => exact ⟨by simpa using hkey, by simpa using hvalue⟩

lemma printableExpression {scope : Scope} {calls : Nat} {tokens : List Token}
    {outcome : Expression.Outcome} {inBlock : Bool} (hne : tokens ≠ [])
    (hproper : ∀ t ∈ tokens, Proper inBlock t)
    (h : Expression.resolve scope calls tokens = .ok outcome) :
    PrintableExpression inBlock tokens := by
  have hreads := Expression.reads_of_resolve h
  exact ⟨hproper, hreads.joined (by simp) (.inl rfl) (.inl hne), hreads.wellNested⟩

lemma printable_of_readable {d : Declaration} (h : Readable d) (hd : Resolves d) : Printable d := by
  obtain ⟨r, r', hr⟩ := hd
  cases d with
  | config keyword settings =>
    obtain ⟨hblock, hvalue⟩ := h
    obtain ⟨c, hc, -⟩ := bind_eq_ok.mp hr
    intro s hs
    have hentry : (s.key, [valueToken s.value]) ∈ entries (.config keyword settings) :=
      List.mem_map_of_mem hs
    obtain ⟨c₁, c₂, hstep⟩ := foldlM_mem hc s hs
    obtain ⟨hkey, hliteral⟩ := setting_of_eq_ok hstep
    have honLine : OnLine (valueToken s.value) := (hblock.value _ hentry).2 _ (by simp)
    rw [← hvalue s hs, honLine.proper.valueKind_eq] at hliteral
    exact ⟨⟨hkey, (hblock.name _ hentry).proper⟩, honLine.proper, .inr hliteral, hvalue s hs⟩
  | typeAlias name body =>
    obtain ⟨hname, hne, hproceeds, -⟩ := h
    obtain ⟨-, -, outcome, ho, -⟩ := Resolution.typeAlias_eq_ok.mp hr
    have hjoined := (Expression.reads_of_resolve ho).joined (by simp) (.inl rfl) (.inl hne)
    have hbrace : ∀ t ∈ body, t.kind ≠ .openBrace ∧ t.kind ≠ .closeBrace := fun t ht =>
      ne_brace_of_mem (joined_mem hjoined t ht)
    exact ⟨hname, printableExpression hne ((allProper_of_forall hbrace).mp hproceeds.proper) ho⟩
  | record sort name lines =>
    obtain ⟨hname, hblock, hkind⟩ := h
    obtain ⟨-, -, -, progress, hfold, -⟩ := Resolution.record_eq_ok.mp hr
    refine ⟨hname, fun p hp => ?_⟩
    have hentry : (p.name, p.expression) ∈ entries (.record sort name lines) :=
      List.mem_map_of_mem hp
    obtain ⟨p₁, p₂, hstep⟩ := foldlM_mem hfold p hp
    obtain ⟨-, -, outcome, ho, -⟩ := Resolution.property_eq_ok.mp hstep
    obtain ⟨hne, hvalue⟩ := hblock.value _ hentry
    exact ⟨⟨hkind p hp, (hblock.name _ hentry).proper⟩,
      printableExpression hne (fun t ht => (hvalue t ht).proper) ho⟩

/-- **The declarations of a text that resolves are printable.** -/
lemma printable_of_resolve {source : String} {ts : List Token} {ds : List Declaration}
    {s : Schema} (hts : tokenize source = .ok ts) (hds : group ts = .ok ds)
    (hs : resolve ds = .ok s) : ∀ d ∈ ds, Printable d := by
  obtain ⟨r, hr, -⟩ := bind_eq_ok.mp hs
  obtain ⟨hreadable, -⟩ := readable_of_group hts hds
  exact fun d hd => printable_of_readable (hreadable d hd) (foldlM_mem hr d hd)

lemma printable_settings {ds : List Declaration} (h : ∀ d ∈ ds, Printable d) :
    ∀ s ∈ ds.flatMap Declaration.settings, PrintableSetting s := by
  intro s hs
  obtain ⟨d, hd, hs⟩ := List.mem_flatMap.mp hs
  cases d with
  | config keyword settings => exact h _ hd s hs
  | typeAlias | record => simp at hs

/-! ### Reading the layout -/

lemma settled_after_of_joined {previous : Kind} {tokens : List Token}
    (h : Expression.Joined (some previous) tokens) :
    (previous :: tokens.map (·.kind)).IsChain (fun p n => isSpaced p n = true ∨ p.Beside n) ∧
      ∀ kind ∈ (previous :: tokens.map (·.kind)).getLast?, kind.Beside .newline := by
  induction tokens generalizing previous with
  | nil =>
    have hlast : previous.Beside .newline := by
      rcases h with hp | hp <;> (obtain rfl := Option.some.inj hp; decide)
    simpa using hlast
  | cons t rest ih =>
    obtain ⟨hjoins, hrest⟩ := h
    obtain ⟨hchain, hlast⟩ := ih hrest
    exact ⟨List.isChain_cons_cons.mpr ⟨follows_of_joins hjoins, hchain⟩, by simpa using hlast⟩

lemma settled_of_joined {tokens : List Token} (h : Expression.Joined none tokens) :
    Settled Kind.Beside tokens := by
  cases tokens with
  | nil => simp [Expression.Joined] at h
  | cons t rest =>
    have hkind : t.kind = .identifier := by simpa [Expression.joins] using h.1
    refine settled_cons.mpr ⟨.inl ?_, settled_after_of_joined h.2⟩
    rw [hkind]
    rfl

lemma onLine_of_mem {t : Token} (hproper : Proper true t) (h : t.kind ∈ termKinds) : OnLine t := by
  have hall : ∀ kind ∈ termKinds, kind ≠ .newline ∧ (kind ≠ .openBrace ∧ kind ≠ .closeBrace) ∧
      kind.isLayout = false := by
    decide
  obtain ⟨hnewline, hbrace, hlayout⟩ := hall t.kind h
  exact ⟨hproper, hnewline, hbrace, hlayout⟩

lemma IsName.onLine {t : Token} (h : IsName true t) : OnLine t :=
  onLine_of_mem h.proper (by rw [h.kind]; decide)

lemma IsName.not_bracket {inBlock : Bool} {t : Token} (h : IsName inBlock t) :
    t.kind ∉ Nesting.brackets := by
  rw [h.kind]
  decide

lemma PrintableExpression.onLine {tokens : List Token} (h : PrintableExpression true tokens) :
    ∀ t ∈ tokens, OnLine t := fun t ht =>
  onLine_of_mem (h.proper t ht) (joined_mem h.joined t ht)

lemma PrintableSetting.onLine {s : Setting} (h : PrintableSetting s) :
    OnLine (valueToken s.value) := by
  have hterm : ∀ kind ∈ [Kind.identifier, .number, .string, .boolean], kind ∈ termKinds := by decide
  exact onLine_of_mem h.proper (hterm _ h.value_kind)

lemma readable_of_printable {d : Declaration} (h : Printable d) : Readable d := by
  have hvalue : ∀ kind ∈ [Kind.identifier, .number, .string, .boolean],
      kind ∉ Nesting.brackets := by
    decide
  cases d with
  | config keyword settings =>
    refine ⟨⟨?_, ?_, Nesting.wellNested_flatMap ?_⟩, fun s hs => (h s hs).value⟩
    · simpa [entries] using fun s hs => (h s hs).key.onLine
    · simpa [entries] using fun s hs => (h s hs).onLine
    · refine List.forall_mem_map.mpr fun s hs => ?_
      exact .other (h s hs).key.not_bracket (.other (hvalue _ (h s hs).value_kind) .nil)
  | typeAlias name body =>
    obtain ⟨hname, hbody⟩ := h
    have hsolid : ∀ kind ∈ termKinds, (kind.isLayout = false ∧ kind ≠ .newline) := by decide
    have hbrace : ∀ t ∈ body, t.kind ≠ .openBrace ∧ t.kind ≠ .closeBrace := fun t ht =>
      ne_brace_of_mem (joined_mem hbody.joined t ht)
    exact ⟨hname, hbody.ne_nil, proceeds_of_forall hbody.proper hbrace, fun t ht =>
      hsolid _ (joined_mem hbody.joined t ht)⟩
  | record sort name lines =>
    obtain ⟨hname, hlines⟩ := h
    refine ⟨hname, ⟨?_, ?_, Nesting.wellNested_flatMap ?_⟩, fun p hp => (hlines p hp).1.kind⟩
    · simpa [entries] using fun p hp => (hlines p hp).1.onLine
    · simpa [entries] using fun p hp => ⟨(hlines p hp).2.ne_nil, (hlines p hp).2.onLine⟩
    · refine List.forall_mem_map.mpr fun p hp => ?_
      exact .other (hlines p hp).1.not_bracket (hlines p hp).2.nested

lemma settled_of_printable {d : Declaration} (h : Printable d) :
    ∀ e ∈ entries d, SettledEntry Kind.Beside e := by
  have hname {inBlock : Bool} {t : Token} (ht : IsName inBlock t) :
      Kind.whitespace.Beside t.kind := by
    rw [ht.kind]
    decide
  cases d with
  | config keyword settings =>
    have hvalue : ∀ kind ∈ [Kind.identifier, .number, .string, .boolean],
        isSpaced .whitespace kind = true ∧ kind.Beside .newline := by
      decide
    refine List.forall_mem_map.mpr fun s hs => ⟨hname (h s hs).key, settled_cons.mpr ?_⟩
    obtain ⟨hspaced, hlast⟩ := hvalue _ (h s hs).value_kind
    exact ⟨.inl hspaced, .singleton _, by simpa using hlast⟩
  | typeAlias name body =>
    simpa [entries] using ⟨hname h.1, settled_of_joined h.2.joined⟩
  | record sort name lines =>
    simpa [entries] using fun p hp => ⟨hname (h.2 p hp).1, settled_of_joined (h.2 p hp).2.joined⟩

lemma nested_of_printable {d : Declaration} (h : Printable d) :
    Nesting.WellNested (bodyTokens d) := by
  cases d with
  | config keyword settings | record sort name lines => exact .nil
  | typeAlias name body => exact h.2.nested

/-- **The layout of a printable schema is read as its declarations**, the configuration blocks
first. -/
lemma group_schema {ds : List Declaration} (h : ∀ d ∈ ds, Printable d) :
    ∃ us es, tokenize (schema ds) = .ok us ∧ group us = .ok es ∧
      List.Forall₂ Declaration.Alike ((ordered ds).map rehead) es :=
  group_layout (fun d hd => readable_of_printable (h d hd))
    (Nesting.wellNested_flatMap fun d hd => nested_of_printable (h d hd))
    fun d hd => settled_of_printable (h d hd)

end Canonical

end TypeGuard
