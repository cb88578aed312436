import TypeGuard.Proofs.OneLine
import TypeGuard.Proofs.Pipeline
import TypeGuard.Proofs.Refusal
import TypeGuard.Proofs.Tokenization

/-!
Every rejection of a source text points into the text.

A rejection by the scan points at the place where no token was found, any other one at the start of
a token. Both are places of the text with at least one character behind them. The scan counts lines
by line feeds, and the lines that are shown are cut out on their own account; the line that is
counted exists, and without carriage returns the column that is counted is on it or right behind it,
so that the first caret stands in that column.
-/

namespace TypeGuard

open Outcome

/-! ### Lines -/

namespace Text

lemma splitLines_ne_nil {cs : List Char} (h : cs ≠ []) : splitLines cs ≠ [] := by
  fun_cases splitLines cs <;> simp_all

lemma count_take_lt (cs : List Char) {n : Nat} (h : n < cs.length) :
    (cs.take n).count '\n' < (splitLines cs).length := by
  fun_induction splitLines cs generalizing n with
  | case1 => simp at h
  | case2 rest ih =>
    rcases n with _ | _ | n
    · simp
    · simp
    · have hrest := ih (n := n) (by simpa using h)
      simp
      omega
  | case3 rest ih =>
    rcases n with _ | n
    · simp
    · have hrest := ih (n := n) (by simpa using h)
      simp
      omega
  | case4 c rest _ hc hnil ih =>
    rcases n with _ | n
    · simp
    · have hrest := ih (n := n) (by simpa using h)
      simp [hnil] at hrest
  | case5 c rest _ hc line more hlines ih =>
    rcases n with _ | n
    · simp
    · have hrest := ih (n := n) (by simpa using h)
      rw [hlines] at hrest
      rw [List.take_succ_cons, List.count_cons_of_ne hc]
      exact hrest

/-- The characters since the last line end, the last one first. -/
def lastLine (front : List Char) : List Char := front.reverse.takeWhile (· ≠ '\n')

lemma lastLine_cons (c : Char) (front : List Char) :
    lastLine (c :: front) = lastLine front ∨
      ('\n' ∉ front ∧ c ≠ '\n' ∧ lastLine (c :: front) = lastLine front ++ [c]) := by
  unfold lastLine
  rw [List.reverse_cons, List.takeWhile_append]
  split
  · next hlength =>
    have hself : front.reverse.takeWhile (· ≠ '\n') = front.reverse :=
      (List.takeWhile_prefix _).eq_of_length hlength
    have hmem : '\n' ∉ front := by
      intro hmem
      have htake : '\n' ∈ front.reverse.takeWhile (· ≠ '\n') := by
        rw [hself]
        exact List.mem_reverse.mpr hmem
      simpa using List.mem_takeWhile_imp htake
    by_cases hc : c = '\n'
    · left
      simp only [hself]
      simp [hc]
    · right
      simp only [hself]
      simp [hc, hmem]
  · exact .inl rfl

/-- **A place in a text without carriage returns** is on the line that its line ends count, or right
behind it. -/
lemma lastLine_le {front back : List Char} (hreturn : '\r' ∉ front ++ back) (hback : back ≠ [])
    {line : List Char} (hline : (splitLines (front ++ back))[front.count '\n']? = some line) :
    (lastLine front).length ≤ line.length := by
  induction front generalizing line with
  | nil => simp [lastLine]
  | cons c front ih =>
    have hrest : '\r' ∉ front ++ back := fun h => hreturn (List.mem_cons_of_mem c h)
    have hc : c ≠ '\r' := by
      rintro rfl
      exact hreturn (by simp)
    have hne : front ++ back ≠ [] := by simp [hback]
    obtain ⟨first, more, hlines⟩ := List.exists_cons_of_ne_nil (splitLines_ne_nil hne)
    by_cases hfeed : c = '\n'
    · subst hfeed
      have hle : (lastLine front).length ≤ line.length := ih hrest (by simpa using hline)
      have hlast : lastLine ('\n' :: front) = lastLine front :=
        (lastLine_cons '\n' front).resolve_right fun h => h.2.1 rfl
      rwa [hlast]
    · rw [List.cons_append, splitLines_cons ⟨hfeed, hc⟩, hlines,
        List.count_cons_of_ne hfeed] at hline
      rw [hlines] at ih
      -- the line of the place is the first one as long as there is no line end before it
      by_cases hmem : '\n' ∈ front
      · have hlast : lastLine (c :: front) = lastLine front :=
          (lastLine_cons c front).resolve_right fun h => h.1 hmem
        obtain ⟨n, hn⟩ : ∃ n, front.count '\n' = n + 1 :=
          Nat.exists_eq_succ_of_ne_zero (List.count_pos_iff.mpr hmem).ne'
        rw [hn] at hline ih
        rw [hlast]
        exact ih hrest hline
      · have hzero : front.count '\n' = 0 := List.count_eq_zero.mpr hmem
        rw [hzero] at hline ih
        obtain rfl : c :: first = line := by simpa using hline
        have hle : (lastLine front).length ≤ first.length := ih hrest rfl
        rcases lastLine_cons c front with hlast | ⟨-, -, hlast⟩
        · rw [hlast, List.length_cons]
          omega
        · simpa [hlast] using hle

end Text

/-! ### Carets -/

namespace Diagnostic

lemma carets_eq (length column : Nat) {width : Nat} (hwidth : 1 ≤ width) :
    ∃ count, 1 ≤ count ∧
      (carets length column width).toList =
        List.replicate (min (column - 1) length) ' ' ++ List.replicate count '^' ∧
      (min (column - 1) length + count ≤ length ∨
        min (column - 1) length = length ∧ count = 1) := by
  refine ⟨min width (max (length - min (column - 1) length) 1), ?_, ?_, ?_⟩
  · omega
  · simp [carets]
  · omega

lemma idxOf_caret (indent : Nat) {count : Nat} (h : 1 ≤ count) :
    (List.replicate indent ' ' ++ List.replicate count '^').idxOf '^' = indent := by
  obtain ⟨rest, rfl⟩ : ∃ rest, count = rest + 1 := ⟨count - 1, by omega⟩
  rw [List.idxOf_append_of_notMem (by simp), List.replicate_succ]
  simp

end Diagnostic

/-! ### Where the scan stops -/

namespace Scan

/-- The scan reads tokens off the front and goes on with the characters behind them. -/
inductive Reaches : State → List Char → List Token → State → List Char → Prop where
  | refl (s : State) (cs : List Char) : Reaches s cs [] s cs
  | token {s s' : State} {c : Char} {cs back : List Char} {kind : Kind} {piece : List Char}
      {ts : List Token} : nextToken s c cs = .ok (kind, piece) →
      Reaches (s.next kind piece) ((c :: cs).drop piece.length) ts s' back →
      Reaches s (c :: cs) (⟨kind, String.ofList piece, s.position⟩ :: ts) s' back

/-- The tokens read are the characters passed, and places are counted along them. -/
lemma Reaches.passed {s s' : State} {cs back : List Char} {ts : List Token}
    (h : Reaches s cs ts s' back) :
    cs = characters ts ++ back ∧ s'.position = s.position.advance (characters ts) := by
  induction h with
  | refl s cs => exact ⟨rfl, rfl⟩
  | @token s s' c cs back kind piece ts hnext _ ih =>
    obtain ⟨hchars, hposition⟩ := ih
    have hprefix := (candidate_sound (nextToken_eq_ok.mp hnext).1).2.1
    obtain ⟨rest, hrest⟩ := hprefix
    rw [← hrest, List.drop_left] at hchars
    have hcons : characters (⟨kind, String.ofList piece, s.position⟩ :: ts) =
        piece ++ characters ts := by simp [characters]
    constructor
    · rw [← hrest, hchars, hcons, List.append_assoc]
    · rw [hposition, hcons, Position.advance_append]
      rfl

/-- **A scan that fails** reads tokens up to a place where no token may stand. -/
lemma tokensFrom_error {s : State} {cs : List Char} {d : Diagnostic}
    (h : tokensFrom s 0 cs = .error d) :
    ∃ ts s' c rest, Reaches s cs ts s' (c :: rest) ∧ nextToken s' c rest = .error d := by
  induction hn : cs.length using Nat.strongRecOn generalizing s cs with
  | ind n ih =>
    cases cs with
    | nil => simp [tokensFrom] at h
    | cons c cs =>
      rw [tokensFrom] at h
      split at h
      · next e hnext =>
        obtain rfl := Except.error.inj h
        exact ⟨[], s, c, cs, .refl _ _, hnext⟩
      · next kind piece hnext =>
        have hpiece : piece ≠ [] := (candidate_sound (nextToken_eq_ok.mp hnext).1).1.ne_nil
        have hlength : 0 < piece.length := List.length_pos_iff.mpr hpiece
        have hdrop : (c :: cs).drop piece.length = cs.drop (piece.length - 1) := by
          obtain ⟨first, more, rfl⟩ := List.exists_cons_of_ne_nil hpiece
          simp
        rw [tokensFrom_skip, ← hdrop] at h
        split at h
        · next e hrest =>
          obtain rfl := Except.error.inj h
          have hshort : ((c :: cs).drop piece.length).length < n := by
            rw [List.length_drop, ← hn, List.length_cons]
            omega
          obtain ⟨ts, s', d', rest, hreach, hstop⟩ := ih _ hshort hrest rfl
          exact ⟨_, s', d', rest, .token hnext hreach, hstop⟩
        · simp at h

lemma nextToken_error {s : State} {c : Char} {rest : List Char} {d : Diagnostic}
    (h : nextToken s c rest = .error d) :
    ∃ problem span, d = .placed (.lexical problem) span ∧ span.position = s.position := by
  unfold nextToken at h
  split at h
  · exact ⟨_, _, (Except.error.inj h).symm, rfl⟩
  · split at h
    · simp at h
    · exact ⟨_, _, (Except.error.inj h).symm, rfl⟩

end Scan

/-- A token of the text starts behind the given characters. -/
def StartsToken (source : String) (front : List Char) : Prop :=
  ∃ before t behind, tokenize source = .ok (before ++ t :: behind) ∧
    Scan.characters before = front

/-- The scan of the text reads the given characters and finds no token that may stand behind
them. -/
def ScanStops (source : String) (front : List Char) : Prop :=
  ∃ before s c rest d, Scan.Reaches .initial source.toList before s (c :: rest) ∧
    Scan.characters before = front ∧ Scan.nextToken s c rest = .error d

lemma scanStops_of_error {source : String} {d : Diagnostic} (h : tokenize source = .error d) :
    ∃ front back problem span, source.toList = front ++ back ∧ back ≠ [] ∧
      ScanStops source front ∧ d = .placed (.lexical problem) span ∧
      span.position = Position.start.advance front := by
  obtain ⟨before, s, c, rest, hreach, hstop⟩ := Scan.tokensFrom_error h
  obtain ⟨hsource, hposition⟩ := hreach.passed
  obtain ⟨problem, span, rfl, hspan⟩ := Scan.nextToken_error hstop
  exact ⟨Scan.characters before, c :: rest, problem, span, hsource, by simp,
    ⟨before, s, c, rest, _, hreach, rfl, hstop⟩, rfl, hspan.trans hposition⟩

lemma startsToken_of_mem {source : String} {ts : List Token} (h : tokenize source = .ok ts)
    {t : Token} (ht : t ∈ ts) :
    ∃ front back, source.toList = front ++ back ∧ back ≠ [] ∧ StartsToken source front ∧
      t.position = Position.start.advance front := by
  obtain ⟨before, behind, rfl⟩ := List.append_of_mem ht
  obtain ⟨haccepts, hchars⟩ := Scan.tokensFrom_eq_ok_iff.mp h
  have hfits := Tokenization.accepts_iff.mp haccepts before t behind rfl
  refine ⟨Scan.characters before, t.text.toList ++ Scan.characters behind, ?_, ?_,
    ⟨before, t, behind, h, rfl⟩, ?_⟩
  · simpa [Scan.characters] using hchars.symm
  · simp [hfits.spelling.ne_nil]
  · rw [hfits.position, Tokenization.after_position]

/-! ### Rejections of a source text -/

/-- A diagnostic that is shown with a text and points behind the given characters of it. -/
structure Diagnostic.Shows (e : Diagnostic) (label source : String) (span : Span)
    (front : List Char) : Prop where
  attached : e.source = some ⟨label, source⟩
  placed : e.span = some span
  position : span.position = Position.start.advance front

namespace Diagnostic.Shows

variable {e : Diagnostic} {label source : String} {span : Span} {front back : List Char}

lemma line (h : e.Shows label source span front) : e.line = 1 + front.count '\n' := by
  have hline : e.line = span.position.line := by simp [Diagnostic.line, h.placed]
  rw [hline, h.position]
  exact Tokenization.advance_line .start front

lemma column (h : e.Shows label source span front) :
    e.column = 1 + (Text.lastLine front).length := by
  have hcolumn : e.column = span.position.column := by simp [Diagnostic.column, h.placed]
  rw [hcolumn, h.position]
  exact Tokenization.advance_column front

lemma isPlaced (h : e.Shows label source span front) : e.isPlaced = true := by
  simp [Diagnostic.isPlaced, h.line, h.column]

lemma snippet (h : e.Shows label source span front) (hsource : source.toList = front ++ back)
    (hback : back ≠ []) : (Text.lines source)[e.line - 1]? = some e.snippet := by
  have hcount : e.line - 1 < (Text.lines source).length := by
    have hlength : 0 < back.length := List.length_pos_iff.mpr hback
    have hlt := Text.count_take_lt (front ++ back) (n := front.length) (by simp; omega)
    rw [List.take_left] at hlt
    simpa [Text.lines, hsource, h.line] using hlt
  have hsnippet : e.snippet = (Text.lines source)[e.line - 1]?.getD "" := by
    simp [Diagnostic.snippet, h.attached, h.isPlaced]
  rw [hsnippet, List.getElem?_eq_getElem hcount]
  rfl

lemma pointer (h : e.Shows label source span front) :
    ∃ count, 1 ≤ count ∧
      e.pointer.toList = List.replicate (min (e.column - 1) e.snippet.length) ' '
        ++ List.replicate count '^' ∧
      (min (e.column - 1) e.snippet.length + count ≤ e.snippet.length ∨
        min (e.column - 1) e.snippet.length = e.snippet.length ∧ count = 1) := by
  have hpointer : e.pointer = carets e.snippet.length e.column span.width := by
    simp [Diagnostic.pointer, Diagnostic.column, h.attached, h.placed, h.isPlaced]
  have hwidth : 1 ≤ span.width := by
    unfold Span.width
    omega
  rw [hpointer]
  exact carets_eq _ _ hwidth

lemma column_le (h : e.Shows label source span front) (hsource : source.toList = front ++ back)
    (hback : back ≠ []) (hreturn : '\r' ∉ source.toList) : e.column - 1 ≤ e.snippet.length := by
  have hsnippet := h.snippet hsource hback
  rw [h.line, Text.lines, hsource, List.getElem?_map, Option.map_eq_some_iff] at hsnippet
  obtain ⟨line, hline, hshown⟩ := hsnippet
  rw [Nat.add_sub_cancel_left] at hline
  rw [hsource] at hreturn
  have hle := Text.lastLine_le hreturn hback hline
  have hlength : e.snippet.length = line.length := by simp [← hshown]
  rw [h.column, hlength]
  omega

end Diagnostic.Shows

/-- **A rejection of a source text** points where the scan stops or where a token starts. -/
lemma compileAs_error {label source : String} {e : Diagnostic}
    (h : compileAs label source = .error e) :
    ∃ span front back, e.Shows label source span front ∧ source.toList = front ++ back ∧
      back ≠ [] ∧
      ((e.cause.category = .lexical ∧ (∃ d, tokenize source = .error d) ∧ ScanStops source front) ∨
        (e.cause.category ≠ .lexical ∧ StartsToken source front)) := by
  obtain ⟨d, rfl, hd | ⟨ts, hts, hd⟩⟩ := compileAs_eq_error.mp h
  · obtain ⟨front, back, problem, span, hsource, hback, hstops, rfl, hspan⟩ :=
      scanStops_of_error hd
    exact ⟨span, front, back, ⟨rfl, rfl, hspan⟩, hsource, hback, .inl ⟨rfl, ⟨_, hd⟩, hstops⟩⟩
  · -- behind the scan the rejection is at a token, up to the kind of a configuration value
    have htoken : ∃ t ∈ ts, ∃ cause : Cause, cause.category ≠ .lexical ∧ d = t.reject cause := by
      rcases hd with hd | ⟨ds, hds, hd⟩
      · obtain ⟨t, ht, cause, hcause, rfl⟩ := group_error hd
        have hstructural : cause.category = .structural := by simpa using hcause
        exact ⟨t, ht, cause, by simp [hstructural], rfl⟩
      · obtain ⟨t, ht, cause, hcause, rfl⟩ := resolve_error hd
        obtain ⟨u, hu, hkind⟩ :=
          (Grouping.declares_of_eq_ok (Grouping.group_eq_ok.mp hds).2).tokens t ht
        have hreject : t.reject cause = u.reject cause := by
          rcases hkind with rfl | rfl <;> rfl
        refine ⟨u, (List.mem_filter.mp hu).1, cause, ?_, hreject⟩
        intro hlexical
        simp [hlexical, Category.behindScan] at hcause
    obtain ⟨t, ht, cause, hcause, rfl⟩ := htoken
    obtain ⟨front, back, hsource, hback, hstarts, hposition⟩ := startsToken_of_mem hts ht
    exact ⟨t.span, front, back, ⟨rfl, rfl, hposition⟩, hsource, hback, .inr ⟨hcause, hstarts⟩⟩

/-- **Every rejection points into the source text.** It names the file, and is lexical exactly if
the text has no tokens. It points at a place before the end of the text, where a token starts or
where the scan stops, with the line and the column of that place. The line is shown, and under it
carets at the column or right behind the line; the first one is at the column if the text has no
carriage return. -/
theorem rejection_points_into_source {label source : String} {e : Diagnostic}
    (h : compileAs label source = .error e) :
    e.file = label ∧
      (e.cause.category = .lexical ↔ ∃ d, tokenize source = .error d) ∧
      (∃ front back, source.toList = front ++ back ∧ back ≠ [] ∧
        (StartsToken source front ∨ ScanStops source front) ∧
        e.line = 1 + front.count '\n' ∧ e.column = 1 + (Text.lastLine front).length) ∧
      (Text.lines source)[e.line - 1]? = some e.snippet ∧
      (∃ count, 1 ≤ count ∧
        e.pointer.toList = List.replicate (min (e.column - 1) e.snippet.length) ' '
          ++ List.replicate count '^' ∧
        (min (e.column - 1) e.snippet.length + count ≤ e.snippet.length ∨
          min (e.column - 1) e.snippet.length = e.snippet.length ∧ count = 1)) ∧
      ('\r' ∉ source.toList → e.pointer.toList.idxOf '^' + 1 = e.column) := by
  obtain ⟨span, front, back, hshows, hsource, hback, hplace⟩ := compileAs_error h
  obtain ⟨count, hcount, hpointer, hend⟩ := hshows.pointer
  refine ⟨by simp [Diagnostic.file, hshows.attached], ?_, ⟨front, back, hsource, hback, ?_,
    hshows.line, hshows.column⟩, hshows.snippet hsource hback, ⟨count, hcount, hpointer, hend⟩, ?_⟩
  · rcases hplace with ⟨hlexical, hfails, -⟩ | ⟨hlexical, before, t, behind, hok, -⟩
    · exact ⟨fun _ => hfails, fun _ => hlexical⟩
    · simp [hlexical, hok]
  · exact hplace.elim (fun hstops => .inr hstops.2.2) fun hstarts => .inl hstarts.2
  · intro hreturn
    have hle := hshows.column_le hsource hback hreturn
    have hcolumn := hshows.column
    rw [hpointer, Diagnostic.idxOf_caret _ hcount]
    omega

/-- A text with a comment, blank lines and wide characters, in which a declared name is called. -/
def calledAliasSource : String :=
  "// größe\n\nalias Größe string\n\nmodel M \x7b\n\tx optional(Größe(boolean))\n\x7d\n"

theorem rejection_points_into_source_called :
    ∃ e, compileAs "sizes" calledAliasSource = .error e ∧ e.file = "sizes" ∧
      (Text.lines calledAliasSource)[e.line - 1]? = some e.snippet ∧
      (e.line, e.column, e.pointer.toList.idxOf '^' + 1) = (6, 13, 13) := by
  have hshown : (match compileAs "sizes" calledAliasSource with
      | .error e => some (e.line, e.column)
      | .ok _ => none) = some (6, 13) := by decide +kernel
  cases h : compileAs "sizes" calledAliasSource with
  | ok files => simp [h] at hshown
  | error e =>
    obtain ⟨hline, hcolumn⟩ : e.line = 6 ∧ e.column = 13 := by simpa [h] using hshown
    obtain ⟨hfile, -, -, hsnippet, -, hcaret⟩ := rejection_points_into_source h
    have hindex := hcaret (by decide)
    exact ⟨e, rfl, hfile, hsnippet, by simp [hline, hcolumn, hindex]⟩

end TypeGuard
