import Mathlib.Data.String.Basic
import TypeGuard.Proofs.Checked
import TypeGuard.Proofs.Pipeline
import TypeGuard.Proofs.Refusal
import TypeGuard.Proofs.Tokenization

/-!
No source text makes a checked run crash.

Each partial operation is safe by something that an earlier stage establishes. A quoted text is cut
only behind a scan that has found both of its quotes, or behind the reading of configuration values
by their text; a line of a block is kept only if it has a token; the argument of an optional
constraint is taken once the number of arguments is checked; and the width of a block is the length
of its longest name. So every stage of a checked run ends as the plain stage does.
-/

namespace TypeGuard

open Outcome

namespace Checked

variable {α β : Type}

/-! ### Runs without a crash -/

lemma total_ne_crash (x : Except Diagnostic α) : total x ≠ crash := by
  cases x <;> simp [total, crash, Except.mapError]

lemma total_bind {y : Checked α} {x : Except Diagnostic α} {g : α → Checked β}
    {f : α → Except Diagnostic β} (hx : y = total x) (hf : ∀ a, x = .ok a → g a = total (f a)) :
    (y >>= g) = total (x >>= f) := by
  subst hx
  cases x with
  | error d => rfl
  | ok a => exact hf a rfl

lemma total_mapM {g : α → Checked β} {f : α → Except Diagnostic β} {as : List α}
    (h : ∀ a ∈ as, g a = total (f a)) : as.mapM g = total (as.mapM f) := by
  induction as with
  | nil => rfl
  | cons a as ih =>
    obtain ⟨ha, has⟩ := List.forall_mem_cons.mp h
    rw [List.mapM_cons, List.mapM_cons]
    refine total_bind ha fun b _ => ?_
    exact total_bind (ih has) fun bs _ => rfl

lemma total_foldlM {g : β → α → Checked β} {f : β → α → Except Diagnostic β} {as : List α}
    (h : ∀ a ∈ as, ∀ b, g b a = total (f b a)) (b : β) :
    as.foldlM g b = total (as.foldlM f b) := by
  induction as generalizing b with
  | nil => rfl
  | cons a as ih =>
    obtain ⟨ha, has⟩ := List.forall_mem_cons.mp h
    rw [List.foldlM_cons, List.foldlM_cons]
    exact total_bind (ha b) fun b' _ => ih has b'

/-! ### Texts between quotes -/

/-- A text of at least two bytes, whose first and last characters take one byte each. -/
structure Enclosed (text : String) : Prop where
  size : 2 ≤ text.utf8ByteSize
  first : ∃ c ∈ text.toList.head?, c.utf8Size = 1
  last : ∃ c ∈ text.toList.getLast?, c.utf8Size = 1

lemma byteSize_eq (text : String) : text.utf8ByteSize = String.utf8Len text.toList := by
  rw [← String.utf8ByteSize_ofList, String.ofList_toList]

/-- A byte position is between two characters if it is filled by the characters before it. -/
lemma isValid_iff {text : String} {n : Nat} :
    String.Pos.Raw.isValid text ⟨n⟩ = true ↔
      ∃ front back, text.toList = front ++ back ∧ n = String.utf8Len front := by
  have htake : String.Pos.Raw.IsValid text ⟨n⟩ ↔
      ∃ i, n = String.utf8Len (text.toList.take i) := by
    have hlist := String.Pos.Raw.isValid_ofList (l := text.toList) (p := ⟨n⟩)
    simpa only [String.ofList_toList, String.utf8ByteSize_ofList] using hlist
  rw [String.Pos.Raw.isValid_eq_true_iff, htake]
  constructor
  · rintro ⟨i, hi⟩
    exact ⟨text.toList.take i, text.toList.drop i, by simp, hi⟩
  · rintro ⟨front, back, htext, hn⟩
    exact ⟨front.length, by simp [htext, hn]⟩

lemma eq_single_of_utf8Len {cs : List Char} (h : String.utf8Len cs = 1) :
    ∃ c, cs = [c] ∧ c.utf8Size = 1 := by
  cases cs with
  | nil => simp at h
  | cons c rest =>
    rw [String.utf8Len_cons] at h
    have hpos : 0 < c.utf8Size := c.utf8Size_pos
    obtain rfl : rest = [] := String.utf8Len_eq_zero.mp (by omega)
    exact ⟨c, rfl, by simpa using h⟩

lemma Enclosed.eq_append {text : String} (h : Enclosed text) :
    ∃ a body b, text.toList = [a] ++ body ++ [b] ∧ a.utf8Size = 1 ∧ b.utf8Size = 1 := by
  obtain ⟨hsize, ⟨a, ha, hasize⟩, ⟨b, hb, hbsize⟩⟩ := h
  obtain ⟨rest, hrest⟩ := List.head?_eq_some_iff.mp ha
  obtain ⟨front, hfront⟩ := List.getLast?_eq_some_iff.mp hb
  rw [byteSize_eq, hrest, String.utf8Len_cons, hasize] at hsize
  cases front with
  | nil =>
    -- a single character would be a single byte
    obtain ⟨-, rfl⟩ := List.cons.inj (hrest.symm.trans hfront)
    simp at hsize
  | cons c body =>
    obtain ⟨rfl, -⟩ := List.cons.inj (hrest.symm.trans hfront)
    exact ⟨a, body, b, hfront, hasize, hbsize⟩

/-- In an enclosed text both ends of the cut are between two characters. -/
lemma interior_of_enclosed {text : String} (h : Enclosed text) :
    interior text = .ok (Literal.unquoted text) := by
  obtain ⟨a, body, b, htext, ha, hb⟩ := h.eq_append
  have ha : String.utf8Len [a] = 1 := by simpa using ha
  have hb : String.utf8Len [b] = 1 := by simpa using hb
  have hsize : text.utf8ByteSize = 1 + String.utf8Len body + 1 := by
    rw [byteSize_eq, htext, String.utf8Len_append, String.utf8Len_append, ha, hb]
  have hstart : String.Pos.Raw.isValid text ⟨1⟩ = true :=
    isValid_iff.mpr ⟨[a], body ++ [b], by simp [htext], ha.symm⟩
  have hstop : String.Pos.Raw.isValid text ⟨1 + String.utf8Len body⟩ = true :=
    isValid_iff.mpr ⟨[a] ++ body, [b], htext, by rw [String.utf8Len_append, ha]⟩
  have hcut : String.Pos.Raw.extract text ⟨1⟩ ⟨1 + String.utf8Len body⟩ = String.ofList body := by
    have hextract := String.extract_of_valid [a] body [b]
    rwa [← htext, String.ofList_toList, ha] at hextract
  have hunquoted : Literal.unquoted text = String.ofList body := by
    simp [Literal.unquoted, htext]
  calc interior text
      = slice text 1 (1 + String.utf8Len body) := by simp [interior, sub, hsize]; rfl
    _ = .ok (String.ofList body) := by rw [slice, if_pos ⟨by omega, hstart, hstop⟩, hcut]
    _ = .ok (Literal.unquoted text) := by rw [hunquoted]

lemma enclosed_of_interior {text : String} (h : interior text ≠ crash) : Enclosed text := by
  have hpos : 1 ≤ text.utf8ByteSize := by
    by_contra hzero
    exact h (by rw [interior, sub, if_neg hzero]; rfl)
  have hslice : slice text 1 (text.utf8ByteSize - 1) ≠ crash := by
    rwa [interior, sub, if_pos hpos] at h
  unfold slice at hslice
  split at hslice
  · next hdomain =>
    obtain ⟨hsize, hstart, hstop⟩ := hdomain
    obtain ⟨front, back, htext, hfront⟩ := isValid_iff.mp hstart
    obtain ⟨front', back', htext', hfront'⟩ := isValid_iff.mp hstop
    have hback : String.utf8Len back' = 1 := by
      have hlength := byteSize_eq text
      rw [htext', String.utf8Len_append] at hlength
      omega
    obtain ⟨a, rfl, ha⟩ := eq_single_of_utf8Len hfront.symm
    obtain ⟨b, rfl, hb⟩ := eq_single_of_utf8Len hback
    exact ⟨by omega, ⟨a, by simp [htext], ha⟩, ⟨b, by simp [htext'], hb⟩⟩
  · exact absurd rfl hslice

/-- **The domain of the cut**: the texts that are enclosed. -/
lemma interior_ne_crash_iff {text : String} : interior text ≠ crash ↔ Enclosed text := by
  constructor
  · exact enclosed_of_interior
  · intro h
    rw [interior_of_enclosed h]
    exact nofun

/-- The last byte is a part of the last character. -/
example : interior "'é" = crash := rfl

/-! ### Literals -/

def Quoted (ts : List Token) : Prop := ∀ t ∈ ts, t.kind = .string → Enclosed t.text

lemma Quoted.subset {ts us : List Token} (h : Quoted us) (hsub : ts ⊆ us) : Quoted ts :=
  fun t ht => h t (hsub ht)

lemma enclosed_of_quotes {text : String} {quote : Char} {body : List Char}
    (htext : text.toList = quote :: body ++ [quote]) (hquote : quote = '"' ∨ quote = '\'') :
    Enclosed text := by
  have hone : quote.utf8Size = 1 := by rcases hquote with rfl | rfl <;> decide
  refine ⟨?_, ⟨quote, by simp [htext], hone⟩, ⟨quote, ?_, hone⟩⟩
  · rw [byteSize_eq, htext]
    simp [hone]
  · rw [htext, List.getLast?_concat]
    rfl

lemma enclosed_of_isQuoted {text : String} (h : Grouping.isQuoted text = true) :
    Enclosed text := by
  unfold Grouping.isQuoted at h
  split at h
  · next first second rest htext =>
    obtain ⟨hquote, hlast⟩ := Bool.and_eq_true_iff.mp h
    obtain ⟨body, hbody⟩ := List.getLast?_eq_some_iff.mp (of_decide_eq_true hlast)
    have hend : text.toList = first :: body ++ [first] := by rw [htext, hbody]; rfl
    exact enclosed_of_quotes hend (by simpa using hquote)
  · simp at h

/-- A configuration value counts as quoted by its quotes, or because it was scanned so. -/
lemma valueKind_string {t : Token} (h : Grouping.valueKind t = .string) :
    Grouping.isQuoted t.text = true ∨ t.kind = .string := by
  unfold Grouping.valueKind at h
  split at h
  · simp at h
  · split at h
    · simp at h
    · split at h
      · next hquoted => exact .inl hquoted
      · exact .inr h

/-- **The scan and the reading of configuration values** leave only quoted texts that are
enclosed. -/
lemma quoted_of_group {source : String} {ts : List Token} {ds : List Declaration}
    (hts : tokenize source = .ok ts) (hds : TypeGuard.group ts = .ok ds) :
    Quoted (ds.flatMap Declaration.tokens) := by
  have hscanned : Quoted ts := by
    intro t ht hkind
    obtain ⟨before, behind, rfl⟩ := List.append_of_mem ht
    have haccepts := (Scan.tokensFrom_eq_ok_iff.mp hts).1
    have hspelling := (Tokenization.accepts_iff.mp haccepts before t behind rfl).spelling
    rw [hkind] at hspelling
    obtain ⟨quote, body, htext, hquote, -⟩ := hspelling
    exact enclosed_of_quotes htext hquote
  intro t ht hkind
  obtain ⟨u, hu, hread⟩ :=
    (Grouping.declares_of_eq_ok (Grouping.group_eq_ok.mp hds).2).tokens t ht
  have hu : u ∈ ts := (List.mem_filter.mp hu).1
  rcases hread with rfl | rfl
  · exact hscanned t hu hkind
  · rcases valueKind_string hkind with hquoted | hscan
    · exact enclosed_of_isQuoted hquoted
    · exact hscanned u hu hscan

lemma literal_eq {t : Token} (h : t.kind = .string → Enclosed t.text) :
    literal t = total (Literal.ofToken t) := by
  unfold literal
  split
  · next hkind =>
    rw [interior_of_enclosed (h hkind), Literal.ofToken, hkind]
    rfl
  · rfl

/-! ### Declarations -/

lemma settingLine_eq (first : Token) (rest : List Token) :
    settingLine (first :: rest) = total (Grouping.setting (first, rest)) := by
  rcases rest with _ | ⟨value, _ | ⟨more, rest⟩⟩
  all_goals rfl

lemma propertyLine_eq (first : Token) (rest : List Token) :
    propertyLine (first :: rest) = total (Grouping.property (first, rest)) := rfl

/-- **Every line of a block has a first token**, so reading the lines does not crash. -/
lemma block_eq {read : List Token → Checked α} {plain : Token × List Token → Except Diagnostic α}
    (hread : ∀ first rest, read (first :: rest) = total (plain (first, rest)))
    (make : List α → Declaration) (opener : Token) (tokens : List Token) :
    (do
      let (ls, rest) ← block opener tokens
      let items ← ls.mapM read
      return (make items, rest)) = total (do
      let (ls, rest) ← Grouping.block opener tokens
      let items ← ls.mapM plain
      return (make items, rest)) := by
  unfold block Grouping.block
  cases tokens.dropWhile (!Grouping.isBrace ·) with
  | nil => rfl
  | cons brace rest =>
    by_cases hclose : brace.kind = .closeBrace
    · simp only [if_pos hclose]
      have hlines : (lines (tokens.takeWhile (!Grouping.isBrace ·))).mapM read =
          total ((Grouping.lines (tokens.takeWhile (!Grouping.isBrace ·))).mapM plain) := by
        rw [lines, ← Grouping.lines_map, List.mapM_map]
        exact total_mapM fun l _ => hread l.1 l.2
      exact total_bind hlines fun items _ => rfl
    · simp only [if_neg hclose]
      rfl

lemma declaration_eq (first : Token) (rest : List Token) :
    declaration first rest = total (Grouping.declaration first rest) := by
  have hrecord (sort : RecordSort) :
      recordBlock sort first rest = total (Grouping.record sort first rest) := by
    refine total_bind rfl fun found _ => ?_
    refine total_bind rfl fun found _ => ?_
    exact block_eq propertyLine_eq _ found.1 found.2
  unfold declaration
  split
  · next hkind =>
    rw [Grouping.declaration, hkind]
    refine total_bind rfl fun found _ => ?_
    exact block_eq settingLine_eq _ found.1 found.2
  · next hkind =>
    rw [Grouping.declaration, hkind]
    exact hrecord .definition
  · next hkind =>
    rw [Grouping.declaration, hkind]
    exact hrecord .model
  · rfl

lemma declarationsFrom_eq (skip : Nat) (tokens : List Token) :
    declarationsFrom skip tokens = total (Grouping.declarationsFrom skip tokens) := by
  induction tokens generalizing skip with
  | nil => cases skip <;> rfl
  | cons t rest ih =>
    cases skip with
    | succ skip => exact ih skip
    | zero =>
      rw [declarationsFrom, Grouping.declarationsFrom]
      split
      · exact ih 0
      · rw [declaration_eq]
        cases Grouping.declaration t rest with
        | error d => rfl
        | ok found =>
          obtain ⟨first, behind⟩ := found
          change (declarationsFrom (rest.length - behind.length) rest >>= fun more =>
            pure (first :: more)) = _
          rw [ih]
          dsimp only
          cases Grouping.declarationsFrom (rest.length - behind.length) rest with
          | error d => rfl
          | ok more => rfl

lemma parse_eq (source : String) : parse source = total (TypeGuard.parse source) := by
  refine total_bind rfl fun ts _ => ?_
  exact total_bind rfl fun _ _ => declarationsFrom_eq 0 _

/-! ### Canonical layout -/

lemma mapM_ok {g : α → Checked β} {f : α → β} {as : List α} (h : ∀ a ∈ as, g a = .ok (f a)) :
    as.mapM g = .ok (as.map f) := by
  rw [mapM_eq_ok, List.forall₂_map_right_iff, List.forall₂_same]
  exact h

/-- **No name is longer than the width of its block.** -/
lemma length_le_width {rows : List (String × String)} {r : String × String} (h : r ∈ rows) :
    r.1.length ≤ Canonical.width rows := by
  have hmem : r.1.length ∈ rows.map (·.1.length) := List.mem_map.mpr ⟨r, h, rfl⟩
  unfold Canonical.width
  rw [List.foldl_max]
  exact le_max_of_le_right (List.le_max?_getD_of_mem hmem)

lemma printedBlock_eq (head : String) (rows : List (String × String)) :
    printedBlock head rows = .ok (Canonical.block head rows) := by
  have hrows : (rows.mapM fun r => row (Canonical.width rows) r.1 r.2) =
      .ok (rows.map fun r => Canonical.row (Canonical.width rows) r.1 r.2) := by
    refine mapM_ok fun r hr => ?_
    have hle := length_le_width hr
    simp only [row, sub, if_pos hle]
    rfl
  rw [printedBlock, hrows]
  rfl

lemma printed_eq (d : Declaration) : printed d = .ok (Canonical.declaration d) := by
  cases d with
  | config _ settings => exact printedBlock_eq _ _
  | typeAlias name body => rfl
  | record sort name properties => exact printedBlock_eq _ _

lemma printedAfter_eq (previous : Declaration) (ds : List Declaration) :
    printedAfter previous ds = .ok (Canonical.declarationsAfter previous ds) := by
  induction ds generalizing previous with
  | nil => rfl
  | cons d rest ih =>
    rw [printedAfter, printed_eq, ih]
    rfl

lemma printedSchema_eq (ds : List Declaration) :
    printedSchema ds = .ok (Canonical.schema ds) := by
  unfold printedSchema Canonical.schema
  cases Canonical.ordered ds with
  | nil => rfl
  | cons d rest =>
    simp only [printed_eq, printedAfter_eq]
    rfl

lemma format_eq (source : String) : format source = total (TypeGuard.format source) :=
  total_bind (parse_eq source) fun ds _ => printedSchema_eq ds

/-! ### Expressions -/

lemma optional_eq (call : Call) (args : List Argument) :
    optional call args = total (Factory.optional call args) := by
  refine total_bind rfl fun _ harity => ?_
  obtain ⟨hleast, hmost⟩ := Call.checkArity_eq_ok.mp harity
  have hlength : args.length = 1 := by omega
  obtain ⟨first, rfl⟩ := List.length_eq_one_iff.mp hlength
  rfl

lemma build_eq {name : String} {factory : Factory}
    (h : Registry.standard.factory? name = some factory) (call : Call) (args : List Argument) :
    build factory call args = total (factory.build call args) := by
  have hmem : factory ∈ Factory.standard := List.mem_of_find?_eq_some h
  unfold build
  split
  · next hname =>
    have hoptional : factory = ⟨"optional", Factory.optional⟩ := by
      simp only [Factory.standard, List.mem_cons, List.not_mem_nil, or_false] at hmem
      rcases hmem with rfl | rfl | rfl | rfl | rfl | rfl | rfl
      all_goals first | rfl | simp at hname
    rw [hoptional]
    exact optional_eq call args
  · rfl

section Expression

open Expression

variable {scope : Scope} {s : State} {t : Token} {ts : List Token} {frame : Frame}
  {outer : List Frame} {called : Bool}

lemma invoke_eq (hs : s.Within ts) (hframes : s.frames = frame :: outer) :
    invoke s frame outer = total (s.invoke frame outer) := by
  obtain ⟨-, name, hname⟩ := hs frame (by simp [hframes])
  exact total_bind (build_eq hname _ _) fun c _ => rfl

lemma argument_eq (ht : t.kind = .string → Enclosed t.text) :
    argument scope s frame outer t called = total (s.argument scope frame outer t called) := by
  unfold argument
  split
  · next hliteral =>
    rw [State.argument, if_pos hliteral]
    exact total_bind (literal_eq ht) fun value _ => rfl
  · rfl

lemma step_eq (hs : s.Within ts) (ht : t.kind = .string → Enclosed t.text) :
    step scope s t called = total (s.step scope t called) := by
  unfold step State.step
  cases hframes : s.frames with
  | nil => rfl
  | cons frame outer =>
    simp only
    cases frame.phase with
    | opening => rfl
    | first =>
      simp only
      split
      · exact invoke_eq hs hframes
      · exact argument_eq ht
    | argument => exact argument_eq ht
    | separator =>
      simp only
      by_cases hclose : t.kind = .closeParen
      · have hcomma : t.kind ≠ .comma := by simp [hclose]
        rw [if_pos hclose, if_neg hcomma, if_pos hclose]
        exact invoke_eq hs hframes
      · rw [if_neg hclose]

lemma run_eq (hscope : scope.registry = .standard) {tokens : List Token} (hs : s.Within ts)
    (htokens : tokens ⊆ ts) (hquoted : Quoted ts) :
    run scope s tokens = total (s.run scope tokens) := by
  induction tokens generalizing s with
  | nil => rfl
  | cons t rest ih =>
    obtain ⟨ht, hrest⟩ := List.cons_subset.mp htokens
    have hstep : Guarded Category.behindScan ts (State.Within ts)
        (s.step scope t (opensNext rest)) := step_guarded hscope hs ht
    rw [run, step_eq hs (hquoted t ht), State.run]
    cases hnext : s.step scope t (opensNext rest) with
    | error d => rfl
    | ok s' =>
      rw [hnext] at hstep
      exact ih hstep hrest

lemma expression_eq (hscope : scope.registry = .standard) {tokens : List Token}
    (hquoted : Quoted tokens) (calls : Nat) :
    expression scope calls tokens = total (Expression.resolve scope calls tokens) := by
  have hstart : State.Within tokens ⟨[], [], calls, []⟩ := by simp [State.Within]
  have hrun := run_eq hscope hstart (List.Subset.refl tokens) hquoted
  exact total_bind hrun fun s _ => rfl

end Expression

/-! ### Schemas -/

section Resolution

open Resolution

lemma setting_eq {s : Setting} (hs : s.value.kind = .string → Enclosed s.value.text)
    (c : Configuration) : setting c s = total (Resolution.setting c s) := by
  unfold setting
  split
  · next hshape =>
    rw [Resolution.setting, if_neg (by simp [hshape.1]), if_neg (by simp [hshape.2]),
      literal_eq hs]
    cases Literal.ofToken s.value with
    | error d => rfl
    | ok value => rfl
  · rfl

lemma typeAlias_eq (r : Resolution) (name : Token) {body : List Token} (hbody : Quoted body) :
    typeAlias .standard r name body = total (r.typeAlias .standard name body) := by
  refine total_bind rfl fun _ _ => ?_
  refine total_bind rfl fun symbols _ => ?_
  exact total_bind (expression_eq rfl hbody r.calls) fun outcome _ => rfl

lemma property_eq {scope : Scope} (hscope : scope.registry = .standard) (owner : String)
    (p : Progress) {line : PropertyLine} (hline : Quoted line.expression) :
    property scope owner p line = total (Resolution.property scope owner p line) := by
  unfold property Resolution.property
  simp only
  split
  · rfl
  · refine total_bind rfl fun symbols _ => ?_
    exact total_bind (expression_eq hscope hline p.calls) fun outcome _ => rfl

lemma record_eq (r : Resolution) (sort : RecordSort) (name : Token) {lines : List PropertyLine}
    (hlines : ∀ line ∈ lines, Quoted line.expression) :
    record .standard r sort name lines = total (r.record .standard sort name lines) := by
  refine total_bind rfl fun _ _ => ?_
  refine total_bind rfl fun symbols _ => ?_
  refine total_bind rfl fun symbols _ => ?_
  refine total_bind (total_foldlM (fun line hline p => ?_) _) fun p _ => ?_
  · exact property_eq rfl name.text p (hlines line hline)
  · cases sort <;> rfl

lemma resolved_eq (r : Resolution) {d : Declaration} (hd : Quoted d.tokens) :
    resolved .standard r d = total (r.declaration .standard d) := by
  cases d with
  | config keyword settings =>
    refine total_bind (total_foldlM (fun s hs c => ?_) _) fun config _ => rfl
    refine setting_eq (hd s.value ?_) c
    exact List.mem_cons_of_mem _ (List.mem_flatMap.mpr ⟨s, hs, by simp⟩)
  | typeAlias name body => exact typeAlias_eq r name (hd.subset (by simp [Declaration.tokens]))
  | record sort name lines =>
    refine record_eq r sort name fun line hline => hd.subset fun t ht => ?_
    exact List.mem_cons_of_mem _ (List.mem_flatMap.mpr ⟨line, hline, by simp [ht]⟩)

lemma resolve_eq {ds : List Declaration} (hds : Quoted (ds.flatMap Declaration.tokens)) :
    resolve ds = total (TypeGuard.resolve ds) := by
  refine total_bind (total_foldlM (fun d hd r => ?_) _) fun r _ => rfl
  exact resolved_eq r (hds.subset fun t ht => List.mem_flatMap.mpr ⟨d, hd, ht⟩)

end Resolution

lemma shown_total (source : Source) (x : Except Diagnostic α) :
    shown source (total x) = total (TypeGuard.shown source x) := by
  cases x <;> rfl

lemma resolveSource_eq (text : String) :
    resolveSource text = total (TypeGuard.resolveSource text) := by
  rw [TypeGuard.resolveSource, resolveHooked_none]
  refine total_bind (shown_total _ _) fun ts hts => ?_
  have hgroup : group ts = total (TypeGuard.group ts) :=
    total_bind rfl fun _ _ => declarationsFrom_eq 0 _
  refine total_bind (by rw [hgroup, shown_total]) fun ds hds => ?_
  have hquoted := quoted_of_group (shown_eq_ok.mp hts) (shown_eq_ok.mp hds)
  rw [resolve_eq hquoted, shown_total]

lemma compile_eq (text : String) : compile text = total (TypeGuard.compile text) := by
  rw [TypeGuard.compile, compileAs, compileHooked_none]
  exact total_bind (resolveSource_eq text) fun s _ => rfl

end Checked

/-- **No source text makes a run crash.** The cut inside a quoted text is defined exactly on the
texts of at least two bytes whose first and last characters take one byte each. Setting a source
text in its canonical layout, resolving it and compiling it never leave the domain of a partial
operation, and end as the plain runs do. -/
theorem no_source_crashes :
    (∀ text, Checked.interior text ≠ Checked.crash ↔ Checked.Enclosed text) ∧
    ∀ source,
      (Checked.format source ≠ Checked.crash ∧ Checked.resolveSource source ≠ Checked.crash ∧
        Checked.compile source ≠ Checked.crash) ∧
      Checked.format source = Checked.total (format source) ∧
      Checked.resolveSource source = Checked.total (resolveSource source) ∧
      Checked.compile source = Checked.total (compile source) := by
  refine ⟨fun text => Checked.interior_ne_crash_iff, fun source => ?_⟩
  have hformat := Checked.format_eq source
  have hresolve := Checked.resolveSource_eq source
  have hcompile := Checked.compile_eq source
  refine ⟨⟨?_, ?_, ?_⟩, hformat, hresolve, hcompile⟩
  · rw [hformat]
    exact Checked.total_ne_crash _
  · rw [hresolve]
    exact Checked.total_ne_crash _
  · rw [hcompile]
    exact Checked.total_ne_crash _

end TypeGuard
