import TypeGuard.Proofs.Pointing

/-!
Where the scan of a text stops, and why.

A scan that fails has found tokens up to some place. They are the tokens of the text in front of
that place, taken on its own: each of them may follow the one before it, so no recognizer would
have gone on with the characters behind. At the place itself either nothing is recognized, or the
kind that is recognized first may not follow the last token.
-/

namespace TypeGuard

open Tokenization

namespace Scan

lemma Reaches.accepts {s s' : State} {cs back : List Char} {ts : List Token}
    (h : Reaches s cs ts s' back) : Accepts s ts ∧ s' = after s ts := by
  induction h with
  | refl s cs => exact ⟨trivial, rfl⟩
  | @token s s' c cs back kind piece ts hnext _ ih =>
    obtain ⟨hcandidate, hfollow⟩ := nextToken_eq_ok.mp hnext
    obtain ⟨hspelling, -, hword⟩ := candidate_sound hcandidate
    obtain ⟨haccepts, hstate⟩ := ih
    refine ⟨⟨⟨rfl, ?_, hfollow, ?_⟩, ?_⟩, ?_⟩
    · simpa using hspelling
    · simpa using hword
    · simpa using haccepts
    · simpa [after] using hstate

/-- The kinds that are tried behind some tokens, in the order of priority. Inside a block the
reserved words are left out. -/
def tried (ts : List Token) : List Kind :=
  Kind.priority.filter fun kind => !(decide (lastBrace? ts = some .openBrace) && kind.isKeyword)

lemma candidate_after (ts : List Token) (cs : List Char) :
    candidate (after .initial ts).inBlock cs =
      (tried ts).findSome? (attempt (after .initial ts).inBlock cs) := by
  rw [candidate_eq, tried, after_inBlock, findSome?_filter]
  intro kind _ hkind
  rw [Bool.not_eq_false'] at hkind
  rw [attempt, if_pos hkind]

lemma attempt_of_tried {ts : List Token} {kind : Kind} (h : kind ∈ tried ts) (cs : List Char) :
    attempt (after .initial ts).inBlock cs kind =
      if kind.lexeme cs = [] then none else some (kind, kind.lexeme cs) := by
  have hkeyword : ((after .initial ts).inBlock && kind.isKeyword) = false := by
    rw [after_inBlock, ← Bool.not_eq_true']
    exact (List.mem_filter.mp h).2
  split
  · next hnil => simp [attempt, hkeyword, hnil]
  · next hne => exact attempt_eq hkeyword hne

/-- **A token is missing** where nothing is recognized, or where the kind that is recognized first
may not follow the last token. -/
lemma nextToken_after_error {ts : List Token} {c : Char} {rest : List Char} {d : Diagnostic}
    (h : nextToken (after .initial ts) c rest = .error d) :
    ((∀ kind ∈ tried ts, kind.lexeme (c :: rest) = []) ∧
        d.cause = .lexical (.unexpectedSymbol c)) ∨
      ∃ before kind behind, tried ts = before ++ kind :: behind ∧
        (∀ other ∈ before, other.lexeme (c :: rest) = []) ∧ kind.lexeme (c :: rest) ≠ [] ∧
        kind ∉ Kind.successors (ts.getLast?.map (·.kind)) ∧
        d.cause = .lexical (.misplaced kind (String.ofList (kind.lexeme (c :: rest)))) := by
  unfold nextToken at h
  rw [candidate_after] at h
  split at h
  · next hnone =>
    obtain rfl := Except.error.inj h
    refine .inl ⟨fun kind hkind => ?_, rfl⟩
    have hattempt := List.findSome?_eq_none_iff.mp hnone kind hkind
    rw [attempt_of_tried hkind] at hattempt
    by_contra hne
    simp [hne] at hattempt
  · next kind piece hsome =>
    split at h
    · simp at h
    · next hfollow =>
      obtain rfl := Except.error.inj h
      obtain ⟨before, found, behind, htried, hfound, hbefore⟩ :=
        List.findSome?_eq_some_iff.mp hsome
      have hempty : ∀ other ∈ before, other.lexeme (c :: rest) = [] := by
        intro other hother
        have hattempt := hbefore other hother
        rw [attempt_of_tried (by simp [htried, hother])] at hattempt
        by_contra hne
        simp [hne] at hattempt
      rw [attempt_of_tried (by simp [htried])] at hfound
      split at hfound
      · simp at hfound
      · next hne =>
        obtain ⟨rfl, rfl⟩ := Prod.mk.inj (Option.some.inj hfound)
        refine .inr ⟨before, found, behind, htried, hempty, hne, ?_, rfl⟩
        rw [after_previous] at hfollow
        simpa [Kind.mayFollow] using hfollow

end Scan

/-- **The place of a lexical rejection.** The text in front of the place has tokens of its own, and
behind them either no kind that is tried has a piece in front of the remaining text, or the first
one that has may not follow the last token. -/
theorem tokenize_error_located {source : String} {d : Diagnostic}
    (h : tokenize source = .error d) :
    ∃ front back ts, source = front ++ back ∧ back ≠ "" ∧ tokenize front = .ok ts ∧
      d.line = 1 + front.toList.count '\n' ∧
      d.column = 1 + (front.toList.reverse.takeWhile (· ≠ '\n')).length ∧
      (((∀ kind ∈ Scan.tried ts, kind.lexeme back.toList = []) ∧
          ∃ c ∈ back.toList.head?, d.cause = .lexical (.unexpectedSymbol c)) ∨
        ∃ before kind behind, Scan.tried ts = before ++ kind :: behind ∧
          (∀ other ∈ before, other.lexeme back.toList = []) ∧ kind.lexeme back.toList ≠ [] ∧
          kind ∉ Kind.successors (ts.getLast?.map (·.kind)) ∧
          d.cause = .lexical (.misplaced kind (String.ofList (kind.lexeme back.toList)))) := by
  obtain ⟨ts, s, c, rest, hreach, hstop⟩ := Scan.tokensFrom_error h
  obtain ⟨hsource, -⟩ := hreach.passed
  obtain ⟨haccepts, rfl⟩ := hreach.accepts
  obtain ⟨problem, span, hplaced, hspan⟩ := Scan.nextToken_error hstop
  rw [after_position] at hspan
  refine ⟨String.ofList (Scan.characters ts), String.ofList (c :: rest), ts, ?_, ?_, ?_, ?_, ?_, ?_⟩
  · rw [← String.toList_inj, hsource]
    simp
  · simp [← String.toList_inj]
  · simpa [tokenize] using Scan.tokensFrom_of_accepts haccepts
  · have hline : d.line = span.position.line := by rw [hplaced]; rfl
    rw [hline, hspan, advance_line, String.toList_ofList]
    rfl
  · have hcolumn : d.column = span.position.column := by rw [hplaced]; rfl
    rw [hcolumn, hspan, advance_column, String.toList_ofList]
  · rw [String.toList_ofList]
    exact (Scan.nextToken_after_error hstop).imp_left fun ⟨hnone, hcause⟩ => ⟨hnone, c, rfl, hcause⟩

/-- A text with a block, in which a reserved word is a name, and a string that does not end. -/
def unendedSource : String := "model M \x7b\n  alias match(\"a\", \"b\n\x7d\n"

theorem tokenize_error_located_unended :
    ∃ d front back ts, tokenize unendedSource = .error d ∧ unendedSource = front ++ back ∧
      back ≠ "" ∧ tokenize front = .ok ts ∧ (d.line, d.column) = (2, 20) ∧
      1 + front.toList.count '\n' = 2 := by
  have hshown : (((tokenize unendedSource).map fun _ => (0, 0)).tryCatch fun d =>
      .ok (d.line, d.column)).toOption = some (2, 20) := by decide +kernel
  cases h : tokenize unendedSource with
  | ok ts => simp [h, Except.map, Except.tryCatch, Except.toOption] at hshown
  | error d =>
    obtain ⟨hline, hcolumn⟩ : d.line = 2 ∧ d.column = 20 := by
      simpa [h, Except.map, Except.tryCatch, Except.toOption] using hshown
    obtain ⟨front, back, ts, hsplit, hback, hfront, hplace, -⟩ := tokenize_error_located h
    exact ⟨d, front, back, ts, rfl, hsplit, hback, hfront, by rw [hline, hcolumn],
      by rw [← hplace, hline]⟩

end TypeGuard
