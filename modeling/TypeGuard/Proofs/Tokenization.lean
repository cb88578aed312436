import Mathlib.Data.List.Induction
import TypeGuard.Proofs.Scan

/-!
The token lists of a text, told without a scan.

A list of tokens belongs to a text if the tokens spell it and every one of them may stand where it
does. What may stand at a place depends on the tokens before it only: on their characters, on the
kind of the last one, and on the last brace among them. Every text has one such list at most, and it
is the one that the scan finds.
-/

namespace TypeGuard

namespace Tokenization

open Scan

def lastBrace? (front : List Token) : Option Kind :=
  (front.map (·.kind)).reverse.find? fun kind => kind = .openBrace || kind = .closeBrace

/-- A token that may stand behind given tokens. -/
structure Stands (front : List Token) (t : Token) : Prop where
  /-- Lines are counted by the line ends before the token. -/
  line : t.position.line = 1 + (characters front).count '\n'
  /-- Columns are counted from the last line end before the token. -/
  column : t.position.column = 1 + ((characters front).reverse.takeWhile (· ≠ '\n')).length
  spelling : t.kind.Spelling t.text.toList
  follows : Kind.mayFollow (front.getLast?.map (·.kind)) t.kind = true
  /-- Inside a block the reserved words are names. -/
  reserved : ∀ w : Keyword, t.text = w.text →
    t.kind = if lastBrace? front = some .openBrace then .identifier else .keyword w
  truth : t.text = "true" ∨ t.text = "false" → t.kind = .boolean

structure Lexed (source : String) (ts : List Token) : Prop where
  text : String.join (ts.map (·.text)) = source
  token : ∀ front t back, ts = front ++ t :: back → Stands front t

/-! ### Places -/

lemma advance_line (p : Position) (cs : List Char) :
    (p.advance cs).line = p.line + cs.count '\n' := by
  induction cs generalizing p with
  | nil => simp
  | cons c cs ih =>
    rw [Position.advance_cons, ih, Position.step, List.count_cons]
    by_cases hc : c = '\n'
    · simp only [hc, if_true, beq_self_eq_true]
      omega
    · simp [hc]

lemma advance_column (cs : List Char) :
    (Position.start.advance cs).column = 1 + (cs.reverse.takeWhile (· ≠ '\n')).length := by
  -- the last character decides, so the text grows at its end
  induction cs using List.reverseRecOn with
  | nil => rfl
  | append_singleton cs c ih =>
    rw [Position.advance_append, Position.advance_cons, Position.advance_nil, Position.step,
      List.reverse_append, List.reverse_singleton, List.singleton_append, List.takeWhile_cons]
    by_cases hc : c = '\n'
    · simp [hc]
    · simp only [hc, if_false, ih, ne_eq, not_false_eq_true, decide_true, if_true,
        List.length_cons]
      omega

/-! ### The state behind tokens -/

def after (s : State) (front : List Token) : State :=
  front.foldl (fun s t => s.next t.kind t.text.toList) s

lemma after_snoc (s : State) (front : List Token) (t : Token) :
    after s (front ++ [t]) = (after s front).next t.kind t.text.toList := by
  simp [after]

lemma after_position (front : List Token) :
    (after .initial front).position = Position.start.advance (characters front) := by
  induction front using List.reverseRecOn with
  | nil => rfl
  | append_singleton front t ih =>
    have hchars : characters (front ++ [t]) = characters front ++ t.text.toList := by
      simp [characters]
    rw [after_snoc, hchars, Position.advance_append, ← ih]
    rfl

lemma after_previous (front : List Token) :
    (after .initial front).previous = front.getLast?.map (·.kind) := by
  rcases List.eq_nil_or_concat front with rfl | ⟨front, t, rfl⟩
  · rfl
  · rw [List.concat_eq_append, after_snoc, List.getLast?_concat]
    rfl

lemma after_inBlock (front : List Token) :
    (after .initial front).inBlock = decide (lastBrace? front = some .openBrace) := by
  induction front using List.reverseRecOn with
  | nil => rfl
  | append_singleton front t ih =>
    have hlast : lastBrace? (front ++ [t]) =
        if t.kind = .openBrace || t.kind = .closeBrace then some t.kind
        else lastBrace? front := by
      simp only [lastBrace?, List.map_append, List.map_cons, List.map_nil, List.reverse_append,
        List.reverse_singleton, List.singleton_append, List.find?_cons]
      split <;> simp_all
    rw [after_snoc, hlast]
    unfold State.next
    cases t.kind <;> simp [ih]

lemma accepts_iff {s : State} {ts : List Token} :
    Accepts s ts ↔ ∀ front t back, ts = front ++ t :: back → Fits (after s front) t := by
  induction ts generalizing s with
  | nil => simp [Accepts]
  | cons t rest ih =>
    rw [Accepts, ih]
    constructor
    · rintro ⟨hfits, hrest⟩ front u back heq
      rcases front with _ | ⟨first, front⟩
      · obtain ⟨rfl, rfl⟩ := List.cons.inj heq
        exact hfits
      · obtain ⟨rfl, rfl⟩ := List.cons.inj heq
        exact hrest front u back rfl
    · intro h
      refine ⟨h [] t rest rfl, fun front u back heq => ?_⟩
      exact h (t :: front) u back (by rw [heq]; rfl)

/-! ### Words -/

lemma wordKind_keyword (inBlock : Bool) (w : Keyword) :
    wordKind inBlock w.text.toList = if inBlock then .identifier else .keyword w := by
  cases inBlock <;> cases w <;> decide

lemma wordKind_truth {inBlock : Bool} {word : List Char}
    (h : word = "true".toList ∨ word = "false".toList) : wordKind inBlock word = .boolean := by
  cases inBlock <;> rcases h with rfl | rfl <;> decide

lemma wordKind_name {inBlock : Bool} {word : List Char}
    (hreserved : ∀ w : Keyword, word = w.text.toList → inBlock = true)
    (htruth : ¬ (word = "true".toList ∨ word = "false".toList)) :
    wordKind inBlock word = .identifier := by
  have hnot : ∀ w : Keyword, ¬ (!inBlock && word = w.text.toList) = true := by
    intro w hw
    obtain ⟨hblock, hword⟩ := Bool.and_eq_true_iff.mp hw
    rw [hreserved w (of_decide_eq_true hword)] at hblock
    exact absurd hblock (by decide)
  have hneither : ¬ (word = "true".toList || word = "false".toList) = true := by
    rw [Bool.or_eq_true, decide_eq_true_iff, decide_eq_true_iff]
    exact htruth
  rw [wordKind, if_neg (hnot .config), if_neg (hnot .typeAlias), if_neg (hnot .define),
    if_neg (hnot .model), if_neg hneither]

/-- What a word says decides its kind, among the kinds of words. -/
lemma word_iff {inBlock : Bool} {t : Token} (hspelling : t.kind.Spelling t.text.toList) :
    (t.kind.isWord = true → t.kind = wordKind inBlock t.text.toList) ↔
      (∀ w : Keyword, t.text = w.text →
        t.kind = if inBlock then .identifier else .keyword w) ∧
      (t.text = "true" ∨ t.text = "false" → t.kind = .boolean) := by
  have htoList : ∀ text : String, t.text = text ↔ t.text.toList = text.toList := fun text =>
    String.toList_inj.symm
  simp only [htoList]
  generalize t.text.toList = word at hspelling ⊢
  constructor
  · intro h
    refine ⟨?_, fun htruth => ?_⟩
    · rintro w rfl
      rw [h (hspelling.isWord (by cases w <;> decide)), wordKind_keyword]
    · rw [h (hspelling.isWord (by rcases htruth with rfl | rfl <;> decide)),
        wordKind_truth htruth]
  · rintro ⟨hreserved, htruth⟩ hword
    -- a keyword or truth value is decided by its spelling, a name by what it does not say
    cases hk : t.kind with
    | keyword w =>
      rw [hk] at hspelling hreserved
      obtain rfl := hspelling
      rw [wordKind_keyword]
      exact hreserved w rfl
    | boolean =>
      rw [hk] at hspelling
      exact (wordKind_truth hspelling).symm
    | identifier =>
      rw [hk] at hreserved htruth
      refine (wordKind_name (fun w hw => ?_) fun h => ?_).symm
      · by_contra hblock
        simpa [hblock] using hreserved w hw
      · exact absurd (htruth h) (by decide)
    | _ => exact absurd hword (by rw [hk]; decide)

/-! ### Tokens and texts -/

lemma fits_iff_stands {front : List Token} {t : Token} :
    Fits (after .initial front) t ↔ Stands front t := by
  have hposition : t.position = (after .initial front).position ↔
      t.position.line = 1 + (characters front).count '\n' ∧
      t.position.column = 1 + ((characters front).reverse.takeWhile (· ≠ '\n')).length := by
    rw [after_position, ← advance_column, ← show Position.start.line = 1 from rfl,
      ← advance_line Position.start, Position.mk.injEq]
  constructor
  · rintro ⟨hp, hspelling, hfollows, hword⟩
    rw [after_inBlock] at hword
    rw [after_previous] at hfollows
    obtain ⟨hline, hcolumn⟩ := hposition.mp hp
    obtain ⟨hreserved, htruth⟩ := (word_iff hspelling).mp hword
    exact ⟨hline, hcolumn, hspelling, hfollows, by simpa using hreserved, htruth⟩
  · rintro ⟨hline, hcolumn, hspelling, hfollows, hreserved, htruth⟩
    refine ⟨hposition.mpr ⟨hline, hcolumn⟩, hspelling, ?_, ?_⟩
    · rw [after_previous]
      exact hfollows
    · rw [after_inBlock]
      exact (word_iff hspelling).mpr ⟨by simpa using hreserved, htruth⟩

lemma lexed_iff {source : String} {ts : List Token} :
    Lexed source ts ↔ Accepts .initial ts ∧ characters ts = source.toList := by
  have htext : String.join (ts.map (·.text)) = source ↔ characters ts = source.toList := by
    rw [← String.toList_inj, String.toList_join, List.flatMap_map]
    rfl
  constructor
  · rintro ⟨hsource, htoken⟩
    exact ⟨accepts_iff.mpr fun front t back h => fits_iff_stands.mpr (htoken front t back h),
      htext.mp hsource⟩
  · rintro ⟨haccepts, hchars⟩
    exact ⟨htext.mpr hchars, fun front t back h =>
      fits_iff_stands.mp (accepts_iff.mp haccepts front t back h)⟩

/-- **A text is cut into its tokens.** The scan succeeds exactly on the texts that have a token
list, and no text has two. -/
theorem tokenize_eq_ok_iff {source : String} {ts : List Token} :
    (tokenize source = .ok ts ↔ Lexed source ts) ∧
      ∀ us, Lexed source ts → Lexed source us → us = ts := by
  have hscan : ∀ us, tokenize source = .ok us ↔ Lexed source us := fun us =>
    tokensFrom_eq_ok_iff.trans lexed_iff.symm
  refine ⟨hscan ts, fun us hts hus => ?_⟩
  have hsame := ((hscan us).mpr hus).symm.trans ((hscan ts).mpr hts)
  exact Except.ok.inj hsame

end Tokenization

end TypeGuard
