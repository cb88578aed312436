import TypeGuard.Proofs.Respacing
import TypeGuard.Proofs.Tokenization

/-!
Schema texts compose by concatenation.

Behind a text that ends with a line and leaves no bracket open, the scan is where it was at the
start, but for the lines it has counted and for the line end before it. So it finds the tokens of a
second text again, further down; only a line end in front of them becomes one with the line end
before. The last declaration of the first text ends with its line at the latest, so the tokens of
the second text are grouped as they were.
-/

namespace TypeGuard

open Outcome Scan Tokenization

/-! ### Lines further down -/

/-- The place in the same column, a number of lines further down. -/
def Position.lower (n : Nat) (p : Position) : Position := ⟨p.line + n, p.column⟩

def Token.lower (n : Nat) (t : Token) : Token := { t with position := t.position.lower n }

def Setting.lower (n : Nat) (s : Setting) : Setting := ⟨s.key.lower n, s.value.lower n⟩

def PropertyLine.lower (n : Nat) (p : PropertyLine) : PropertyLine :=
  ⟨p.name.lower n, p.expression.map (·.lower n)⟩

def Declaration.lower (n : Nat) : Declaration → Declaration
  | .config keyword settings => .config (keyword.lower n) (settings.map (·.lower n))
  | .typeAlias name body => .typeAlias (name.lower n) (body.map (·.lower n))
  | .record sort name properties => .record sort (name.lower n) (properties.map (·.lower n))

def Scan.State.lower (n : Nat) (s : State) : State := { s with position := s.position.lower n }

lemma Position.advance_lower (n : Nat) (p : Position) (cs : List Char) :
    (p.lower n).advance cs = (p.advance cs).lower n := by
  induction cs generalizing p with
  | nil => rfl
  | cons c cs ih =>
    have hstep : (p.lower n).step c = (p.step c).lower n := by
      unfold Position.step Position.lower
      split
      · simp [Nat.add_right_comm]
      · rfl
    rw [Position.advance_cons, Position.advance_cons, hstep, ih]

@[simp] lemma Token.lower_zero : Token.lower 0 = id := rfl

lemma Declaration.lower_zero : Declaration.lower 0 = id := by
  funext d
  cases d with
  | config keyword settings =>
    have hsetting : Setting.lower 0 = id := rfl
    simp [Declaration.lower, hsetting]
  | typeAlias name body => simp [Declaration.lower]
  | record sort name properties =>
    have hproperty : PropertyLine.lower 0 = id := by
      funext p
      simp [PropertyLine.lower]
    simp [Declaration.lower, hproperty]

/-! ### The scan further down -/

namespace Scan

lemma next_lower (n : Nat) (s : State) (kind : Kind) (piece : List Char) :
    (s.lower n).next kind piece = (s.next kind piece).lower n := by
  simp [State.next, State.lower, Position.advance_lower]

lemma characters_lower (n : Nat) (ts : List Token) :
    characters (ts.map (·.lower n)) = characters ts := by
  simp [characters, List.flatMap_map, Token.lower]

lemma Accepts.lower {s : State} {ts : List Token} (h : Accepts s ts) (n : Nat) :
    Accepts (s.lower n) (ts.map (·.lower n)) := by
  induction ts generalizing s with
  | nil => trivial
  | cons t rest ih =>
    obtain ⟨⟨hposition, hspelling, hfollows, hword⟩, hrest⟩ := h
    refine ⟨⟨?_, hspelling, hfollows, hword⟩, ?_⟩
    · exact congrArg (Position.lower n) hposition
    · have hnext := ih hrest
      rwa [← next_lower] at hnext

/-- The tokens behind accepted ones are accepted where these end. -/
lemma accepts_append {s : State} {front back : List Token} :
    Accepts s (front ++ back) ↔ Accepts s front ∧ Accepts (after s front) back := by
  induction front generalizing s with
  | nil => simp [Accepts, after]
  | cons t rest ih =>
    rw [List.cons_append, Accepts, Accepts, ih, and_assoc]
    rfl

/-- What may stand at the start of a text may stand behind a line end, another line end apart. -/
lemma mayFollow_newline {kind : Kind} (h : Kind.mayFollow none kind = true)
    (hkind : kind ≠ .newline) : Kind.mayFollow (some .newline) kind = true := by
  cases kind with
  | keyword w => cases w <;> decide
  | newline => exact absurd rfl hkind
  | whitespace | comment => decide
  | _ => exact absurd h (by decide)

lemma Accepts.behind_newline {s : State} {ts : List Token} (h : Accepts s ts)
    (hs : s.previous = none) (hts : ∀ t ∈ ts.head?, t.kind ≠ .newline) :
    Accepts { s with previous := some .newline } ts := by
  cases ts with
  | nil => trivial
  | cons t rest =>
    obtain ⟨⟨hposition, hspelling, hfollows, hword⟩, hrest⟩ := h
    rw [hs] at hfollows
    exact ⟨⟨hposition, hspelling, mayFollow_newline hfollows (hts t (by simp)), hword⟩, hrest⟩

/-! ### The end of a text -/

/-- Behind well nested tokens the scan is outside of all blocks, if it was so before them. -/
lemma inBlock_after {ts : List Token} (h : Nesting.WellNested ts) {s : State}
    (hs : s.inBlock = false) : (after s ts).inBlock = false := by
  induction h generalizing s with
  | nil => exact hs
  | @other t rest ht _ ih =>
    refine ih (s := s.next t.kind t.text.toList) ?_
    cases hkind : t.kind <;> simp_all [State.next, Nesting.brackets]
  | @pair opener closer inner rest hpair _ _ ihinner ihrest =>
    have hsplit : after s (opener :: (inner ++ closer :: rest)) =
        after ((after (s.next opener.kind opener.text.toList) inner).next closer.kind
          closer.text.toList) rest := by
      simp [after]
    rw [hsplit]
    refine ihrest ?_
    generalize opener.kind = kind, closer.kind = kind' at hpair
    cases hpair with
    | brace => rfl
    | paren => exact ihinner (s := s.next .openParen opener.text.toList) hs

lemma newline_of_getLast? {kind : Kind} {piece : List Char} (h : kind.Spelling piece)
    (hlast : piece.getLast? = some '\n') : kind = .newline := by
  have hmem : '\n' ∈ piece := List.mem_of_getLast? hlast
  have hdigits {cs : List Char} (hcs : ∀ c ∈ cs, c.isDigit = true) : '\n' ∉ cs := fun hc =>
    absurd (hcs '\n' hc) (by decide)
  have hwhole {digits : List Char} (hw : Lexeme.WholeNumber digits) : '\n' ∉ digits := by
    cases hw with
    | whole _ hdigit => exact hdigits hdigit
    | decimal _ hdigit hfraction => simp [hdigits hdigit, hdigits hfraction]
  cases kind with
  | newline => rfl
  | whitespace => exact absurd (h.2 '\n' hmem) (by decide)
  | comment =>
    obtain ⟨rest, rfl, hrest⟩ := h
    simp [hrest] at hmem
  | keyword w =>
    obtain rfl := h
    cases w <;> exact absurd hmem (by decide)
  | boolean => rcases h with rfl | rfl <;> exact absurd hmem (by decide)
  | identifier =>
    obtain ⟨c, rest, rfl, hc, hrest⟩ := h
    rcases List.mem_cons.mp hmem with rfl | hmem
    · exact absurd hc (by decide)
    · exact absurd (hrest '\n' hmem) (by decide)
  | number =>
    cases h with
    | unsigned hw => exact absurd hmem (hwhole hw)
    | signed hsign hw => rcases hsign with rfl | rfl <;> simp [hwhole hw] at hmem
    | fraction _ hdigit => simp [hdigits hdigit] at hmem
  | string =>
    obtain ⟨quote, body, rfl, hquote, -⟩ := h
    rw [List.getLast?_concat] at hlast
    rcases hquote with rfl | rfl <;> exact absurd hlast (by decide)
  | openBrace | closeBrace | openParen | closeParen | comma =>
    obtain rfl := h
    exact absurd hmem (by decide)

lemma advance_of_getLast? {cs : List Char} (h : cs.getLast? = some '\n') :
    Position.start.advance cs = Position.start.lower (cs.count '\n') := by
  have hline := advance_line .start cs
  have hcolumn := advance_column cs
  have hnone : cs.reverse.takeWhile (· ≠ '\n') = [] := by
    obtain ⟨front, rfl⟩ := List.getLast?_eq_some_iff.mp h
    simp
  rw [hnone] at hcolumn
  exact Position.mk.injEq .. ▸ ⟨hline, hcolumn⟩

/-- **The state behind a text that ends with a line and leaves no bracket open.** -/
lemma after_of_getLast? {ts : List Token} (hnested : Nesting.WellNested ts)
    (haccepts : Accepts .initial ts) (hlast : (characters ts).getLast? = some '\n') :
    ∃ front last, ts = front ++ [last] ∧ last.kind = .newline ∧
      after .initial ts =
        ⟨some .newline, false, Position.start.lower ((characters ts).count '\n')⟩ := by
  rcases ts.eq_nil_or_concat' with rfl | ⟨front, last, rfl⟩
  · simp [characters] at hlast
  · have hfits := (accepts_append.mp haccepts).2.1
    have htext : last.text.toList.getLast? = some '\n' := by
      have hchars : characters (front ++ [last]) = characters front ++ last.text.toList := by
        simp [characters]
      rwa [hchars, List.getLast?_append_of_ne_nil _ hfits.spelling.ne_nil] at hlast
    have hkind := newline_of_getLast? hfits.spelling htext
    refine ⟨front, last, rfl, hkind, ?_⟩
    have hprevious : (after .initial (front ++ [last])).previous = some .newline := by
      rw [after_previous, List.getLast?_concat, ← hkind]
      rfl
    have hblock : (after .initial (front ++ [last])).inBlock = false := inBlock_after hnested rfl
    have hposition := after_position (front ++ [last])
    rw [advance_of_getLast? hlast] at hposition
    rw [← hprevious, ← hblock, ← hposition]

/-- The line end that two line ends in a row become. -/
def merged (first second : Token) : Token := ⟨.newline, first.text ++ second.text, first.position⟩

lemma accepts_merged {s : State} {front : List Token} {last u : Token}
    (h : Accepts s (front ++ [last])) (hlast : last.kind = .newline) (hu : u.kind = .newline)
    (hspelling : u.kind.Spelling u.text.toList) : Accepts s (front ++ [merged last u]) := by
  obtain ⟨hfront, ⟨hposition, hspelled, hfollows, -⟩, -⟩ := accepts_append.mp h
  rw [hlast] at hspelled hfollows
  rw [hu] at hspelling
  refine accepts_append.mpr
    ⟨hfront, ⟨hposition, ⟨?_, ?_⟩, hfollows, by simp [merged, Kind.isWord]⟩, trivial⟩
  · simp [merged, hspelled.1]
  · simpa [merged, or_imp, forall_and] using ⟨hspelled.2, hspelling.2⟩

lemma after_merged (s : State) (front : List Token) {last : Token} (hlast : last.kind = .newline)
    (u : Token) : after s (front ++ [merged last u]) =
      (after s (front ++ [last])).next .newline u.text.toList := by
  rw [after_snoc, after_snoc, hlast]
  simp [State.next, merged, Position.advance_append]

/-- **The scan of two texts**, the first of which ends with a line and leaves no bracket open. The
line end of the first text takes in the one that the second text may start with; all other tokens
are those of the two texts. -/
lemma tokens_append {ts us : List Token} (hnested : Nesting.WellNested ts)
    (hts : Accepts .initial ts) (hus : Accepts .initial us)
    (hlast : (characters ts).getLast? = some '\n') :
    ∃ front last newline rest, ts = front ++ [last] ∧ last.kind = .newline ∧
      newline.kind = .newline ∧ (us = rest ∨ ∃ u, u.kind = .newline ∧ us = u :: rest) ∧
      tokensFrom .initial 0 (characters ts ++ characters us) =
        .ok (front ++ newline :: rest.map (·.lower ((characters ts).count '\n'))) := by
  obtain ⟨front, last, rfl, hkind, hafter⟩ := after_of_getLast? hnested hts hlast
  generalize hn : (characters (front ++ [last])).count '\n' = n at hafter ⊢
  have hlower := hus.lower n
  by_cases hmerge : ∃ u rest, us = u :: rest ∧ u.kind = .newline
  · obtain ⟨u, rest, rfl, hu⟩ := hmerge
    refine ⟨front, last, merged last u, rest, rfl, hkind, rfl, .inr ⟨u, hu, rfl⟩, ?_⟩
    -- the line end that was taken in has led the second scan to the same state
    have hstate : after .initial (front ++ [merged last u]) =
        (State.initial.lower n).next u.kind u.text.toList := by
      rw [after_merged _ _ hkind, hafter, hu]
      rfl
    refine tokensFrom_eq_ok_iff.mpr ⟨?_, ?_⟩
    · rw [List.append_cons, accepts_append, hstate]
      exact ⟨accepts_merged hts hkind hu hus.1.spelling, hlower.2⟩
    · have hchars := characters_lower n rest
      simp only [characters, List.flatMap_append, List.flatMap_cons, List.flatMap_nil] at hchars ⊢
      simp [merged, hchars]
  · refine ⟨front, last, last, us, rfl, hkind, hkind, .inl rfl, tokensFrom_eq_ok_iff.mpr ⟨?_, ?_⟩⟩
    · rw [List.append_cons, accepts_append, hafter]
      refine ⟨hts, hlower.behind_newline rfl fun t ht hnewline => hmerge ?_⟩
      cases us with
      | nil => simp at ht
      | cons u rest =>
        obtain rfl : u.lower n = t := by simpa using ht
        exact ⟨u, rest, rfl, hnewline⟩
    · have hchars := characters_lower n us
      simp only [characters, List.flatMap_append, List.flatMap_cons, List.flatMap_nil] at hchars ⊢
      simp [hchars]

end Scan

/-! ### Grouping further down -/

lemma alike_lower (n : Nat) (ts : List Token) :
    List.Forall₂ Token.Alike ts (ts.map (·.lower n)) := by
  rw [List.forall₂_map_right_iff, List.forall₂_same]
  exact fun t _ => ⟨rfl, rfl⟩

lemma filter_lower (n : Nat) (ts : List Token) :
    (ts.map (·.lower n)).filter (!·.kind.isLayout) =
      (ts.filter (!·.kind.isLayout)).map (·.lower n) := by
  rw [List.filter_map]
  rfl

namespace Nesting

lemma wellNested_concat {ts : List Token} {t : Token} (ht : t.kind ∉ brackets) :
    WellNested (ts ++ [t]) ↔ WellNested ts := by
  rw [wellNested_iff, wellNested_iff, run_append]
  cases run [] ts with
  | error d => simp
  | ok left => simp [run_cons_of_step [] (step_other left ht)]

lemma wellNested_cons {ts : List Token} {t : Token} (ht : t.kind ∉ brackets) :
    WellNested (t :: ts) ↔ WellNested ts := by
  rw [wellNested_iff, wellNested_iff, run_cons_of_step ts (step_other [] ht)]

end Nesting

namespace Grouping

lemma forall_kind_lower (P : Kind → Prop) {ts : List Token} (h : ∀ t ∈ ts, P t.kind) (n : Nat) :
    ∀ t ∈ ts.map (·.lower n), P t.kind := by
  intro t ht
  obtain ⟨u, hu, rfl⟩ := List.mem_map.mp ht
  exact h u hu

lemma Lines.lower {body : List Token} {ls : List (List Token)} (h : Lines body ls) (n : Nat) :
    Lines (body.map (·.lower n)) (ls.map (·.map (·.lower n))) := by
  induction h with
  | nil => exact .nil
  | newline ht _ ih => exact .newline ht ih
  | last hne hl => exact .last (by simpa using hne) (forall_kind_lower (· ≠ .newline) hl n)
  | line hne hl ht _ ih =>
    rw [List.map_append, List.map_cons, List.map_cons]
    exact .line (by simpa using hne) (forall_kind_lower (· ≠ .newline) hl n) ht ih

lemma Block.lower {tokens : List Token} {ls : List (List Token)} (h : Block tokens ls) (n : Nat) :
    Block (tokens.map (·.lower n)) (ls.map (·.map (·.lower n))) := by
  obtain ⟨hgap, hopener, hbody, hlines, hcloser⟩ := h
  rw [List.map_append, List.map_cons, List.map_append, List.map_singleton]
  exact .mk (forall_kind_lower (· = .newline) hgap n) hopener
    (forall_kind_lower (fun kind => kind ≠ .openBrace ∧ kind ≠ .closeBrace) hbody n)
    (hlines.lower n) hcloser

lemma SettingLine.lower {line : List Token} {s : Setting} (h : SettingLine line s) (n : Nat) :
    SettingLine (line.map (·.lower n)) (s.lower n) := by
  obtain ⟨key, value⟩ := h
  exact .mk (key.lower n) (value.lower n)

lemma FieldLine.lower {line : List Token} {p : PropertyLine} (h : FieldLine line p) (n : Nat) :
    FieldLine (line.map (·.lower n)) (p.lower n) := by
  obtain ⟨hname, hne⟩ := h
  exact .mk hname (by simpa using hne)

lemma Spells.lower {d : Declaration} {front : List Token} (h : Spells d front) (n : Nat) :
    Spells (d.lower n) (front.map (·.lower n)) := by
  cases h with
  | config hk hb hs =>
    refine .config hk (hb.lower n) ?_
    rw [List.forall₂_map_left_iff, List.forall₂_map_right_iff]
    exact hs.imp fun _ _ hline => hline.lower n
  | typeAlias hk hn hne hbody =>
    exact .typeAlias hk hn (by simpa using hne) (forall_kind_lower (· ≠ .newline) hbody n)
  | record hk hn hb hp =>
    refine .record hk hn (hb.lower n) ?_
    rw [List.forall₂_map_left_iff, List.forall₂_map_right_iff]
    exact hp.imp fun _ _ hline => hline.lower n

lemma Declares.lower {tokens : List Token} {ds : List Declaration} (h : Declares tokens ds)
    (n : Nat) : Declares (tokens.map (·.lower n)) (ds.map (·.lower n)) := by
  induction h with
  | nil => exact .nil
  | newline ht _ ih => exact .newline ht ih
  | @declaration d front tail ds hs hend _ ih =>
    rw [List.map_append, List.map_cons]
    refine .declaration (hs.lower n) ?_ ih
    cases d with
    | typeAlias name body =>
      intro t ht
      rw [List.head?_map, Option.mem_def, Option.map_eq_some_iff] at ht
      obtain ⟨u, hu, rfl⟩ := ht
      exact hend u hu
    | config | record => trivial

lemma declares_cons_newline {t : Token} {tokens : List Token} {ds : List Declaration}
    (ht : t.kind = .newline) : Declares (t :: tokens) ds ↔ Declares tokens ds := by
  refine ⟨fun h => declares_of_eq_ok ?_, .newline ht⟩
  have hread := eq_ok_of_declares h
  rwa [declarationsFrom, isNewline_iff.mpr ht, if_pos rfl] at hread

/-- **Declarations up to the end of a line** are read in front of any others. -/
lemma Declares.append {front back : List Token} {last newline : Token} {ds es : List Declaration}
    (h : Declares (front ++ [last]) ds) (hlast : last.kind = .newline)
    (hnewline : newline.kind = .newline) (hback : Declares back es) :
    Declares (front ++ newline :: back) (ds ++ es) := by
  generalize htokens : front ++ [last] = tokens at h
  induction h generalizing front with
  | nil => simp at htokens
  | @newline t rest ds ht hrest ih =>
    cases front with
    | nil =>
      obtain ⟨rfl, rfl⟩ := List.cons.inj htokens
      obtain rfl : [] = ds := by simpa [declarationsFrom] using eq_ok_of_declares hrest
      exact .newline hnewline hback
    | cons first front =>
      obtain ⟨rfl, hfront⟩ := List.cons.inj htokens
      exact .newline ht (ih hfront)
  | @declaration d spelled tail ds hs hend hrest ih =>
    -- a declaration does not end with a newline, so the last one stands behind it
    obtain ⟨initial, final, rfl, hfinal⟩ := hs.exists_last
    rcases tail.eq_nil_or_concat' with rfl | ⟨tail, last', rfl⟩
    · rw [List.append_nil] at htokens
      obtain ⟨-, hsame⟩ := List.append_inj' htokens rfl
      obtain rfl := List.singleton_inj.mp hsame
      exact absurd hlast hfinal
    · rw [← List.append_assoc] at htokens
      obtain ⟨rfl, hsame⟩ := List.append_inj' htokens rfl
      obtain rfl := List.singleton_inj.mp hsame
      rw [List.append_assoc, List.cons_append]
      refine .declaration hs ?_ (ih rfl)
      cases d with
      | typeAlias name body =>
        cases tail with
        | nil => simpa [MayPrecede] using hnewline
        | cons t tail => simpa [MayPrecede] using hend
      | config | record => trivial

end Grouping

lemma parse_eq_ok {source : String} {ds : List Declaration} :
    parse source = .ok ds ↔ ∃ tokens, tokenize source = .ok tokens ∧
      Nesting.WellNested tokens ∧ Grouping.Declares (tokens.filter (!·.kind.isLayout)) ds := by
  simp only [parse, bind_eq_ok, Grouping.group_eq_ok, Nesting.check_eq_ok_iff]
  refine exists_congr fun tokens => and_congr_right fun _ => and_congr_right fun _ => ?_
  exact ⟨Grouping.declares_of_eq_ok, Grouping.eq_ok_of_declares⟩

/-- **Schema texts compose by concatenation.** The declarations of a text that is empty or ends with
a line end, followed by another text, are the declarations of both, with those of the second text
further down by the lines of the first. -/
theorem parse_append {first second : String} {ds es : List Declaration}
    (hfirst : parse first = .ok ds) (hsecond : parse second = .ok es)
    (hend : first = "" ∨ first.toList.getLast? = some '\n') :
    parse (first ++ second) = .ok (ds ++ es.map (·.lower (first.toList.count '\n'))) := by
  obtain ⟨ts, hts, hnested, hds⟩ := parse_eq_ok.mp hfirst
  obtain ⟨us, hus, hnested', hes⟩ := parse_eq_ok.mp hsecond
  rcases hend with rfl | hlast
  · have hnone : parse "" = .ok [] := rfl
    obtain rfl := Except.ok.inj (hfirst.symm.trans hnone)
    simpa [Declaration.lower_zero] using hsecond
  · obtain ⟨haccepts, hchars⟩ := tokensFrom_eq_ok_iff.mp hts
    obtain ⟨haccepts', hchars'⟩ := tokensFrom_eq_ok_iff.mp hus
    rw [← hchars] at hlast
    obtain ⟨front, last, newline, rest, rfl, hkind, hnewline, hrest, htokens⟩ :=
      tokens_append hnested haccepts haccepts' hlast
    rw [hchars, hchars'] at htokens
    generalize first.toList.count '\n' = n at htokens ⊢
    have hother {t : Token} (ht : t.kind = .newline) : t.kind ∉ Nesting.brackets := by
      rw [ht]
      decide
    have hkept {t : Token} (ht : t.kind = .newline) (ts : List Token) :
        (t :: ts).filter (!·.kind.isLayout) = t :: ts.filter (!·.kind.isLayout) := by
      rw [List.filter_cons_of_pos]
      rw [ht]
      rfl
    have hback : Nesting.WellNested rest ∧
        Grouping.Declares (rest.filter (!·.kind.isLayout)) es := by
      rcases hrest with rfl | ⟨u, hu, rfl⟩
      · exact ⟨hnested', hes⟩
      · rw [hkept hu] at hes
        exact ⟨(Nesting.wellNested_cons (hother hu)).mp hnested',
          (Grouping.declares_cons_newline hu).mp hes⟩
    refine parse_eq_ok.mpr ⟨_, by rw [tokenize, String.toList_append]; exact htokens, ?_, ?_⟩
    · have hfront := (Nesting.wellNested_concat (hother hkind)).mp hnested
      have hlower := hback.1.alike (alike_lower n rest)
      exact hfront.append (.other (hother hnewline) hlower)
    · rw [List.filter_append, hkept hkind, List.filter_nil] at hds
      rw [List.filter_append, hkept hnewline, filter_lower]
      exact hds.append hkind hnewline (hback.2.lower n)

def leadingSource : String := "config \x7b\nstrict true\n\x7d\nalias A string // text\n\n"

/-- A text that starts with a blank line, with a keyword for a name in a block. -/
def trailingSource : String := "\n\nmodel M \x7b\nmodel optional(A)\n\x7d\nalias B A string"

theorem parse_append_spaced :
    ∃ ds es, parse leadingSource = .ok ds ∧ parse trailingSource = .ok es ∧ ds.length = 2 ∧
      es.length = 2 ∧ parse (leadingSource ++ trailingSource) = .ok (ds ++ es.map (·.lower 5)) := by
  have hleading : (parse leadingSource).toOption.map List.length = some 2 := by decide +kernel
  have htrailing : (parse trailingSource).toOption.map List.length = some 2 := by decide +kernel
  obtain ⟨ds, hds, hlength⟩ := Option.map_eq_some_iff.mp hleading
  obtain ⟨es, hes, hlength'⟩ := Option.map_eq_some_iff.mp htrailing
  have happend := parse_append (toOption_eq_some.mp hds) (toOption_eq_some.mp hes)
    (.inr (by decide))
  exact ⟨ds, es, toOption_eq_some.mp hds, toOption_eq_some.mp hes, hlength, hlength', happend⟩

end TypeGuard
