import TypeGuard.Constraint.Template
import TypeGuard.Proofs.OneLine

/-!
Filling in names in quoted texts.

A text without the placeholder stays as it is, and one with it loses its braces. Quoting leaves the
characters of the placeholder and of names alone, so it makes no difference whether a name is filled
in before a text is quoted or after.
-/

namespace TypeGuard

open Text

namespace Text

variable {target value : List Char}

/-! ### Where there is something to replace -/

/-- An occurrence at the front is replaced, and the replacement goes on behind it. -/
lemma substituteFrom_occurrence {first : Char} (target value back : List Char) :
    substituteFrom (first :: target) value 0 (first :: target ++ back) =
      value ++ substituteFrom (first :: target) value 0 back := by
  have hprefix : (first :: target).isPrefixOf (first :: target ++ back) = true :=
    List.isPrefixOf_iff_prefix.mpr (List.prefix_append _ _)
  rw [List.cons_append] at hprefix ⊢
  rw [substituteFrom, if_pos hprefix, substituteFrom_skip]
  simp

lemma substituteFrom_cons {c : Char} {rest : List Char} (h : ¬ target <+: c :: rest) :
    substituteFrom target value 0 (c :: rest) = c :: substituteFrom target value 0 rest := by
  rw [substituteFrom, if_neg (mt List.isPrefixOf_iff_prefix.mp h)]

lemma substituteFrom_of_not_infix {cs : List Char} (h : ¬ target <:+: cs) :
    substituteFrom target value 0 cs = cs := by
  induction cs with
  | nil => rfl
  | cons c rest ih =>
    have hrest : ¬ target <:+: rest := fun hspelled =>
      h (hspelled.trans (List.suffix_cons c rest).isInfix)
    rw [substituteFrom_cons fun hprefix => h hprefix.isInfix, ih hrest]

/-- A mark that the value does not have is replaced with the target, but never added. -/
lemma count_substituteFrom_le {mark : Char} (hvalue : mark ∉ value) (target : List Char)
    (skip : Nat) (cs : List Char) :
    (substituteFrom target value skip cs).count mark ≤ cs.count mark := by
  induction cs generalizing skip with
  | nil => simp [substituteFrom]
  | cons c rest ih =>
    cases skip with
    | succ n =>
      rw [substituteFrom]
      exact (ih n).trans List.count_le_count_cons
    | zero =>
      rw [substituteFrom]
      split
      · rw [List.count_append, List.count_eq_zero.mpr hvalue, Nat.zero_add]
        exact (ih _).trans List.count_le_count_cons
      · rw [List.count_cons, List.count_cons]
        exact Nat.add_le_add_right (ih 0) _

/-- A text with the target in it loses a mark that the target starts with. -/
lemma count_substituteFrom_lt {mark : Char} (hvalue : mark ∉ value) {cs : List Char}
    (h : mark :: target <:+: cs) :
    (substituteFrom (mark :: target) value 0 cs).count mark < cs.count mark := by
  induction cs with
  | nil => simp at h
  | cons c rest ih =>
    by_cases hprefix : mark :: target <+: c :: rest
    · obtain ⟨back, hback⟩ := hprefix
      have hle := count_substituteFrom_le hvalue (mark :: target) 0 back
      rw [← hback, substituteFrom_occurrence]
      simp only [List.count_append, List.count_eq_zero.mpr hvalue, List.count_cons_self]
      omega
    · have hrest : mark :: target <:+: rest := (List.infix_cons_iff.mp h).resolve_left hprefix
      rw [substituteFrom_cons hprefix, List.count_cons, List.count_cons]
      exact Nat.add_lt_add_right (ih hrest) _

/-! ### Quoting -/

/-- A character that stands for itself in a quoted text. -/
def Verbatim (c : Char) : Prop := quotedChar c = [c]

def escapeChars : List Char := "\\\"nrtbfu0123456789abcdef".toList

lemma hexDigit_mem {n : Nat} (h : n < 16) : hexDigit n ∈ escapeChars := by
  have hall : ∀ m < 16, hexDigit m ∈ escapeChars := by decide
  exact hall n h

/-- A character stands for itself, or is spelled by a backslash and other characters of escapes. -/
lemma verbatim_or_escaped (c : Char) :
    Verbatim c ∨ ∃ rest, quotedChar c = '\\' :: rest ∧ quotedChar c ⊆ escapeChars := by
  unfold Verbatim quotedChar
  split_ifs with hquote hslash hfeed hreturn htab hback hform hcontrol
  -- seven characters have an escape by a letter
  iterate 7 exact .inr ⟨_, rfl, by decide⟩
  · have hfixed : ['\\', 'u', '0', '0'] ⊆ escapeChars := by decide
    have hhigh := hexDigit_mem (n := c.toNat / 16) (by omega)
    have hlow := hexDigit_mem (n := c.toNat % 16) (by omega)
    exact .inr ⟨_, rfl, List.append_subset.mpr ⟨hfixed, by simp [hhigh, hlow]⟩⟩
  · exact .inl rfl

lemma flatMap_quotedChar {cs : List Char} (h : ∀ c ∈ cs, Verbatim c) :
    cs.flatMap quotedChar = cs := by
  induction cs with
  | nil => rfl
  | cons c rest ih =>
    obtain ⟨hc, hrest⟩ := List.forall_mem_cons.mp h
    rw [List.flatMap_cons, hc, ih hrest, List.singleton_append]

/-- Verbatim characters at the front of a quoted text stand at the front of the text. -/
lemma prefix_of_quoted {cs : List Char} (htarget : ∀ c ∈ target, Verbatim c ∧ c ≠ '\\')
    {stop : Char} (hstop : stop ∉ target) (back : List Char)
    (h : target <+: cs.flatMap quotedChar ++ stop :: back) : target <+: cs := by
  induction target generalizing cs with
  | nil => exact List.nil_prefix
  | cons first target ih =>
    obtain ⟨⟨-, hslash⟩, htarget⟩ := List.forall_mem_cons.mp htarget
    obtain ⟨hfirst, hstop⟩ : stop ≠ first ∧ stop ∉ target := by simpa using hstop
    cases cs with
    | nil =>
      rw [List.flatMap_nil, List.nil_append, List.cons_prefix_cons] at h
      exact absurd h.1.symm hfirst
    | cons c rest =>
      rw [List.flatMap_cons] at h
      rcases verbatim_or_escaped c with hc | ⟨more, hc, -⟩
      · rw [hc, List.singleton_append, List.cons_append, List.cons_prefix_cons] at h
        exact List.cons_prefix_cons.mpr ⟨h.1, ih htarget hstop h.2⟩
      · rw [hc, List.cons_append, List.cons_append, List.cons_prefix_cons] at h
        exact absurd h.1 hslash

/-- **Replacing commutes with quoting**, if the target and the value stand for themselves. -/
lemma substituteFrom_quoted (htarget : ∀ c ∈ '\x7b' :: target, Verbatim c ∧ c ≠ '\\')
    (hvalue : ∀ c ∈ value, Verbatim c) {stop : Char} (hstop : stop ∉ '\x7b' :: target)
    {back : List Char} (hback : '\x7b' ∉ stop :: back) (cs : List Char) :
    substituteFrom ('\x7b' :: target) value 0 (cs.flatMap quotedChar ++ stop :: back) =
      (substituteFrom ('\x7b' :: target) value 0 cs).flatMap quotedChar ++ stop :: back := by
  match cs with
  | [] => simpa [substituteFrom] using substituteFrom_append hback []
  | c :: rest =>
    by_cases hprefix : '\x7b' :: target <+: c :: rest
    · obtain ⟨more, hmore⟩ := hprefix
      have hshorter : more.length < rest.length + 1 := by
        have hlength := congrArg List.length hmore
        simp only [List.length_append, List.length_cons] at hlength
        omega
      have hquoted := flatMap_quotedChar fun c hc => (htarget c hc).1
      rw [← hmore, List.flatMap_append, hquoted, List.append_assoc, substituteFrom_occurrence,
        substituteFrom_occurrence, List.flatMap_append, flatMap_quotedChar hvalue,
        substituteFrom_quoted htarget hvalue hstop hback more, List.append_assoc]
    · have ih := substituteFrom_quoted htarget hvalue hstop hback rest
      rw [substituteFrom_cons hprefix, List.flatMap_cons, List.flatMap_cons, List.append_assoc,
        List.append_assoc]
      rcases verbatim_or_escaped c with hc | ⟨_, -, hescape⟩
      · have hquoted : ¬ '\x7b' :: target <+: c :: (rest.flatMap quotedChar ++ stop :: back) := by
          intro h
          refine hprefix (prefix_of_quoted htarget hstop back ?_)
          rwa [List.flatMap_cons, hc]
        rw [hc, List.singleton_append, substituteFrom_cons hquoted, ih, List.singleton_append]
      · have hbrace : '\x7b' ∉ quotedChar c := fun h => absurd (hescape h) (by decide)
        rw [substituteFrom_append hbrace, ih]
termination_by cs.length

lemma verbatim_of_isNameRest {c : Char} (h : Lexeme.isNameRest c = true) : Verbatim c := by
  have hprintable : 0x20 ≤ c.toNat := by
    by_contra hlow
    have hall : ∀ n < 0x20, Lexeme.isNameRest (Char.ofNat n) = false := by decide
    have hfalse := hall c.toNat (by omega)
    simp [Char.ofNat_toNat, h] at hfalse
  have hne : ∀ d : Char, Lexeme.isNameRest d = false → c ≠ d := by
    rintro d hd rfl
    simp [h] at hd
  have hcontrol : ¬ c.toNat < 0x20 := by omega
  unfold Verbatim quotedChar
  simp [hne '"' (by decide), hne '\\' (by decide), hne '\n' (by decide), hne '\r' (by decide),
    hne '\t' (by decide), hne '\x08' (by decide), hne '\x0c' (by decide), hcontrol]

end Text

/-! ### The placeholder -/

lemma placeholder_toList : placeholder.toList = '\x7b' :: "\x7b name \x7d\x7d".toList := by decide

lemma placeholder_verbatim :
    ∀ c ∈ '\x7b' :: "\x7b name \x7d\x7d".toList, Verbatim c ∧ c ≠ '\\' := by
  have hall : ('\x7b' :: "\x7b name \x7d\x7d".toList).all
      (fun c => quotedChar c = [c] && c ≠ '\\') = true := by
    decide
  intro c hc
  simpa [Verbatim] using List.all_eq_true.mp hall c hc

variable {name text : String}

lemma fill_eq_self (h : ¬ placeholder.toList <:+: text.toList) : fill name text = text := by
  rw [fill, substitute, substituteFrom_of_not_infix h, String.ofList_toList]

lemma fill_ne_self (hname : IsSymbol name) (h : placeholder.toList <:+: text.toList) :
    fill name text ≠ text := by
  intro heq
  have hbrace : '\x7b' ∉ name.toList := hname.not_mem (by decide)
  rw [placeholder_toList] at h
  have hlt := count_substituteFrom_lt hbrace h
  have hlist : substituteFrom placeholder.toList name.toList 0 text.toList = text.toList := by
    simpa [fill, substitute] using congrArg String.toList heq
  rw [← placeholder_toList, hlist] at hlt
  exact Nat.lt_irrefl _ hlt

/-- Quoting a text leaves the placeholder in it. -/
lemma placeholder_infix_quoted (h : placeholder.toList <:+: text.toList) :
    placeholder.toList <:+: (quoted text).toList := by
  obtain ⟨front, back, htext⟩ := h
  have hquoted : placeholder.toList.flatMap quotedChar = placeholder.toList := by
    rw [placeholder_toList]
    exact flatMap_quotedChar fun c hc => (placeholder_verbatim c hc).1
  refine ⟨'"' :: front.flatMap quotedChar, back.flatMap quotedChar ++ ['"'], ?_⟩
  simp [quoted, ← htext, hquoted]

/-- A name is filled in before a text is quoted or after, where no brace comes behind it. -/
lemma substitute_quoted (hname : IsSymbol name) (text : String) {back : List Char}
    (hback : '\x7b' ∉ back) :
    substituteFrom placeholder.toList name.toList 0 ((quoted text).toList ++ back) =
      (quoted (fill name text)).toList ++ back := by
  have hverbatim : ∀ c ∈ name.toList, Verbatim c := fun c hc => verbatim_of_isNameRest (hname c hc)
  have hrest : '\x7b' ∉ '"' :: back := by simpa using hback
  have hstop : '"' ∉ '\x7b' :: "\x7b name \x7d\x7d".toList := by decide
  have hquoted := substituteFrom_quoted placeholder_verbatim hverbatim hstop hrest text.toList
  have hopening : '\x7b' ∉ ['"'] := by decide
  have hsplit : (quoted text).toList ++ back =
      ['"'] ++ (text.toList.flatMap quotedChar ++ '"' :: back) := by
    simp [quoted]
  rw [hsplit, placeholder_toList, substituteFrom_append hopening, hquoted, ← placeholder_toList]
  simp [quoted, fill, substitute]

end TypeGuard
