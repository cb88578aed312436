import Mathlib.Data.List.Infix
import TypeGuard.Literal
import TypeGuard.Proofs.Scan
import TypeGuard.Text.Substitution

/-!
Texts that stay on one line.

Names, numbers and quoted texts have no line end in them, and replacing a piece of a text by a name
brings none in. So statements that are put on lines of their own are the lines of the text that
they make up.
-/

namespace TypeGuard.Text

/-- A text without line ends. -/
def OneLine (text : String) : Prop := ∀ c ∈ text.toList, c ≠ '\n' ∧ c ≠ '\r'

instance : DecidablePred OneLine := fun text => List.decidableBAll _ text.toList

lemma ne_of_all {cs : List Char} (h : cs.all (fun c => c ≠ '\n' && c ≠ '\r') = true) {c : Char}
    (hc : c ∈ cs) : c ≠ '\n' ∧ c ≠ '\r' := by
  simpa using List.all_eq_true.mp h c hc

@[simp] lemma oneLine_append {first second : String} :
    OneLine (first ++ second) ↔ OneLine first ∧ OneLine second := by
  simp [OneLine, or_imp, forall_and]
  tauto

lemma oneLine_join {texts : List String} (h : ∀ text ∈ texts, OneLine text) :
    OneLine (String.join texts) := by
  intro c hc
  rw [String.toList_join, List.mem_flatMap] at hc
  obtain ⟨text, htext, hmem⟩ := hc
  exact h text htext c hmem

lemma oneLine_intercalate {separator : String} {texts : List String} (hs : OneLine separator)
    (h : ∀ text ∈ texts, OneLine text) : OneLine (String.intercalate separator texts) := by
  induction texts with
  | nil =>
    intro c hc
    simp at hc
  | cons first rest ih =>
    obtain ⟨hfirst, hrest⟩ := List.forall_mem_cons.mp h
    cases rest with
    | nil => simpa using hfirst
    | cons second rest =>
      rw [String.intercalate_cons_cons]
      simp [hs, hfirst, ih hrest]

/-! ### Quoted texts and numbers -/

lemma hexDigit_ne {n : Nat} (h : n < 16) : hexDigit n ≠ '\n' ∧ hexDigit n ≠ '\r' := by
  have hall : ∀ m < 16, hexDigit m ≠ '\n' ∧ hexDigit m ≠ '\r' := by decide
  exact hall n h

lemma quotedChar_ne {c d : Char} (h : d ∈ quotedChar c) : d ≠ '\n' ∧ d ≠ '\r' := by
  unfold quotedChar at h
  split_ifs at h with hquote hslash hfeed hreturn htab hback hform hcontrol
  -- an escape by a letter is two fixed characters
  any_goals (refine ne_of_all ?_ h; decide)
  · have hhigh := hexDigit_ne (n := c.toNat / 16) (by omega)
    have hlow := hexDigit_ne (n := c.toNat % 16) (by omega)
    simp only [List.mem_cons, List.not_mem_nil, or_false] at h
    rcases h with rfl | rfl | rfl | rfl | rfl | rfl
    · decide
    · decide
    · decide
    · decide
    · exact hhigh
    · exact hlow
  · obtain rfl := List.mem_singleton.mp h
    exact ⟨hfeed, hreturn⟩

lemma oneLine_quoted (text : String) : OneLine (quoted text) := by
  intro c hc
  have hmem : c = '"' ∨ ∃ d ∈ text.toList, c ∈ quotedChar d := by
    simpa [quoted, or_comm] using hc
  rcases hmem with rfl | ⟨d, -, hd⟩
  · decide
  · exact quotedChar_ne hd

lemma digits_isDigit {n : Nat} {c : Char} (h : c ∈ Nat.toDigits 10 n) : c.isDigit = true :=
  Nat.isDigit_of_mem_toDigits (by decide) (by decide) h

/-- A character of numbers: a digit, a sign, the point, or a letter of an exponent or of a name for
what is not finite. -/
def IsNumeric (c : Char) : Prop := c.isDigit = true ∨ c ∈ "+-.eNainful".toList

instance : DecidablePred IsNumeric := fun c =>
  inferInstanceAs (Decidable (c.isDigit = true ∨ c ∈ "+-.eNainful".toList))

lemma numeric_of_all {cs : List Char} (h : cs.all (decide <| IsNumeric ·) = true) :
    ∀ c ∈ cs, IsNumeric c := by
  simpa using h

lemma IsNumeric.of_digits {n : Nat} {c : Char} (h : c ∈ Nat.toDigits 10 n) : IsNumeric c :=
  .inl (digits_isDigit h)

lemma numeric_positionalText {pointZero : Bool} {d : Decimal.Numeral} :
    ∀ c ∈ Decimal.positionalText pointZero d, IsNumeric c := by
  have hzero : IsNumeric '0' := by decide
  have hpoint : IsNumeric '.' := by decide
  have hzeros (n : Nat) : ∀ c ∈ Decimal.zeros n, IsNumeric c := fun c hc =>
    List.eq_of_mem_replicate hc ▸ hzero
  have htail : ∀ c ∈ (if pointZero then ['.', '0'] else []), IsNumeric c := by
    cases pointZero <;> simp [hpoint, hzero]
  unfold Decimal.positionalText
  simp only
  split
  · simp only [List.forall_mem_append]
    exact ⟨⟨fun c => .of_digits, hzeros _⟩, htail⟩
  · split
    · simp only [List.forall_mem_append, List.forall_mem_cons]
      exact ⟨fun c hc => .of_digits (List.mem_of_mem_take hc), hpoint,
        fun c hc => .of_digits (List.mem_of_mem_drop hc)⟩
    · simp only [List.cons_append, List.forall_mem_append, List.forall_mem_cons]
      exact ⟨hzero, hpoint, hzeros _, fun c => .of_digits⟩

lemma numeric_exponentText (leading : Int) (d : Decimal.Numeral) :
    ∀ c ∈ Decimal.exponentText leading d, IsNumeric c := by
  have hfraction : ∀ c ∈ (if (Nat.toDigits 10 d.digits).length = 1 then []
      else '.' :: (Nat.toDigits 10 d.digits).drop 1), IsNumeric c := by
    split
    · simp
    · exact List.forall_mem_cons.mpr
        ⟨by decide, fun c hc => .of_digits (List.mem_of_mem_drop hc)⟩
  have hsign : IsNumeric (if leading < 0 then '-' else '+') := by split <;> decide
  unfold Decimal.exponentText
  simp only [List.forall_mem_append, List.forall_mem_cons]
  exact ⟨⟨fun c hc => .of_digits (List.mem_of_mem_take hc), hfraction⟩, by decide, hsign,
    fun c => .of_digits⟩

/-- **Numbers are written with the characters of numbers**, if the names of what is not finite
are. -/
lemma numeric_render {layout : Decimal.Layout} (hnan : ∀ c ∈ layout.nan.toList, IsNumeric c)
    (hinfinity : ∀ c ∈ layout.infinity.toList, IsNumeric c) (x : Float) :
    ∀ c ∈ (layout.render x).toList, IsNumeric c := by
  have hminus : IsNumeric '-' := by decide
  unfold Decimal.Layout.render
  split
  · exact hnan
  · next negative _ =>
    cases negative
    · exact hinfinity
    · simpa using ⟨hminus, hinfinity⟩
  · next negative magnitude _ =>
    have hmagnitude : ∀ c ∈ layout.magnitudeText magnitude, IsNumeric c := by
      unfold Decimal.Layout.magnitudeText
      split
      · exact numeric_positionalText
      · simp only
        split_ifs
        · exact numeric_positionalText
        · exact numeric_exponentText _ _
    cases negative
    · simpa using hmagnitude
    · simpa using ⟨hminus, hmagnitude⟩

lemma numeric_nat (n : Nat) : ∀ c ∈ (toString n).toList, IsNumeric c := by
  intro c hc
  have hdigit : c ∈ Nat.toDigits 10 n := by
    simpa [Nat.repr_eq_ofList_toDigits] using hc
  exact .of_digits hdigit

lemma numeric_int (n : Int) : ∀ c ∈ (toString n).toList, IsNumeric c := by
  cases n with
  | ofNat n => exact numeric_nat n
  | negSucc n =>
    have htext : toString (Int.negSucc n) = "-" ++ toString (n + 1) := rfl
    rw [htext, String.toList_append]
    exact List.forall_mem_append.mpr ⟨numeric_of_all (by decide), numeric_nat (n + 1)⟩

lemma numeric_numberText (x : Float) : ∀ c ∈ (Literal.numberText x).toList, IsNumeric c :=
  numeric_render (numeric_of_all (by decide)) (numeric_of_all (by decide)) x

lemma numeric_numberJson (x : Float) : ∀ c ∈ (Literal.numberJson x).toList, IsNumeric c := by
  have hrender : ∀ c ∈ (Literal.headerLayout.render x).toList, IsNumeric c :=
    numeric_render (numeric_of_all (by decide)) (numeric_of_all (by decide)) x
  unfold Literal.numberJson
  split
  · exact numeric_of_all (by decide)
  · split
    · split
      · exact numeric_int _
      · exact hrender
    · exact hrender

lemma oneLine_of_numeric {text : String} (h : ∀ c ∈ text.toList, IsNumeric c) : OneLine text := by
  intro c hc
  constructor
  · rintro rfl
    exact absurd (h _ hc) (by decide)
  · rintro rfl
    exact absurd (h _ hc) (by decide)

lemma oneLine_nat (n : Nat) : OneLine (toString n) := oneLine_of_numeric (numeric_nat n)

lemma oneLine_numberText (x : Float) : OneLine (Literal.numberText x) :=
  oneLine_of_numeric (numeric_numberText x)

/-! ### Names -/

/-- A text that is spelled as a name. -/
def IsName (name : String) : Prop := Kind.identifier.Spelling name.toList

/-- A text of characters that may stand in a name. -/
def IsSymbol (text : String) : Prop := ∀ c ∈ text.toList, Lexeme.isNameRest c = true

lemma isSymbol_ofList {cs : List Char} (h : cs.all Lexeme.isNameRest = true) :
    IsSymbol (String.ofList cs) := by
  simpa [IsSymbol] using h

@[simp] lemma isSymbol_append {first second : String} :
    IsSymbol (first ++ second) ↔ IsSymbol first ∧ IsSymbol second := by
  simp [IsSymbol, or_imp, forall_and]

lemma IsName.isSymbol {name : String} (h : IsName name) : IsSymbol name := by
  obtain ⟨first, rest, hname, hfirst, hrest⟩ := h
  intro c hc
  rw [hname] at hc
  rcases List.mem_cons.mp hc with rfl | hc
  · simp [Lexeme.isNameRest, hfirst]
  · exact hrest c hc

lemma isSymbol_nat (n : Nat) : IsSymbol (toString n) := by
  intro c hc
  have hdigit : c ∈ Nat.toDigits 10 n := by
    simpa [Nat.repr_eq_ofList_toDigits] using hc
  simp [Lexeme.isNameRest, digits_isDigit hdigit]

lemma IsSymbol.not_mem {text : String} (h : IsSymbol text) {c : Char}
    (hc : Lexeme.isNameRest c = false) : c ∉ text.toList := by
  intro hmem
  simp [h c hmem] at hc

lemma IsSymbol.oneLine {text : String} (h : IsSymbol text) : OneLine text := by
  intro c hc
  constructor
  · rintro rfl
    exact h.not_mem (by decide) hc
  · rintro rfl
    exact h.not_mem (by decide) hc

/-! ### Replacing a piece of a text -/

lemma mem_substituteFrom {target value : List Char} {skip : Nat} {cs : List Char} {c : Char}
    (h : c ∈ substituteFrom target value skip cs) : c ∈ value ∨ c ∈ cs := by
  induction cs generalizing skip with
  | nil => simp [substituteFrom] at h
  | cons d rest ih =>
    cases skip with
    | succ n =>
      rw [substituteFrom] at h
      exact (ih h).imp_right (List.mem_cons_of_mem _)
    | zero =>
      rw [substituteFrom] at h
      split at h
      · rcases List.mem_append.mp h with h | h
        · exact .inl h
        · exact (ih h).imp_right (List.mem_cons_of_mem _)
      · rcases List.mem_cons.mp h with rfl | h
        · simp
        · exact (ih h).imp_right (List.mem_cons_of_mem _)

lemma oneLine_substitute {target value text : String} (hvalue : OneLine value)
    (htext : OneLine text) : OneLine (substitute target value text) := by
  intro c hc
  rw [substitute, String.toList_ofList] at hc
  exact (mem_substituteFrom hc).elim (hvalue c) (htext c)

/-- Characters that the target does not start with are passed. -/
lemma substituteFrom_append {first : Char} {target value front : List Char}
    (h : first ∉ front) (back : List Char) :
    substituteFrom (first :: target) value 0 (front ++ back) =
      front ++ substituteFrom (first :: target) value 0 back := by
  induction front with
  | nil => rfl
  | cons c rest ih =>
    obtain ⟨hc, hrest⟩ : first ≠ c ∧ first ∉ rest := by simpa using h
    rw [List.cons_append, substituteFrom, if_neg (by simp [hc]), ih hrest, List.cons_append]

/-! ### Lines -/

lemma splitLines_cons {c : Char} (h : c ≠ '\n' ∧ c ≠ '\r') (rest : List Char) :
    splitLines (c :: rest) =
      match splitLines rest with
      | [] => [[c]]
      | line :: more => (c :: line) :: more := by
  refine (splitLines.eq_4 _ _ (fun _ hreturn _ => h.2 hreturn) h.1).trans ?_
  cases splitLines rest <;> rfl

lemma splitLines_eq_singleton {line : List Char} (h : ∀ c ∈ line, c ≠ '\n' ∧ c ≠ '\r')
    (hne : line ≠ []) : splitLines line = [line] := by
  induction line with
  | nil => exact absurd rfl hne
  | cons c rest ih =>
    obtain ⟨hc, hrest⟩ := List.forall_mem_cons.mp h
    rw [splitLines_cons hc]
    cases rest with
    | nil => rfl
    | cons d rest => rw [ih hrest (by simp)]

lemma splitLines_of_line {line : List Char} (h : ∀ c ∈ line, c ≠ '\n' ∧ c ≠ '\r') :
    (splitLines line).filter (!·.isEmpty) = [line].filter (!·.isEmpty) := by
  cases line with
  | nil => rfl
  | cons c rest => rw [splitLines_eq_singleton h (by simp)]

lemma splitLines_newline_append {line : List Char} (h : ∀ c ∈ line, c ≠ '\n' ∧ c ≠ '\r')
    (rest : List Char) : splitLines (line ++ '\n' :: rest) = line :: splitLines rest := by
  induction line with
  | nil => exact splitLines_newline rest
  | cons c line ih =>
    obtain ⟨hc, hline⟩ := List.forall_mem_cons.mp h
    rw [List.cons_append, splitLines_cons hc, ih hline]

lemma splitLines_joined {texts : List String} (h : ∀ text ∈ texts, OneLine text)
    {line : List Char} (hline : ∀ c ∈ line, c ≠ '\n' ∧ c ≠ '\r') :
    (splitLines (line ++ (String.join (texts.map ("\n" ++ ·))).toList)).filter (!·.isEmpty) =
      (line :: texts.map String.toList).filter (!·.isEmpty) := by
  induction texts generalizing line with
  | nil => simpa using splitLines_of_line hline
  | cons text rest ih =>
    obtain ⟨htext, hrest⟩ := List.forall_mem_cons.mp h
    have hjoin : (String.join ((text :: rest).map ("\n" ++ ·))).toList =
        '\n' :: (text.toList ++ (String.join (rest.map ("\n" ++ ·))).toList) := by
      simp [String.toList_join]
    rw [hjoin, splitLines_newline_append hline, List.map_cons, List.filter_cons, List.filter_cons,
      ih hrest htext]

/-- **Statements on lines of their own are the lines of their text.** -/
lemma lines_joined {texts : List String} (h : ∀ text ∈ texts, OneLine text)
    (hne : ∀ text ∈ texts, text.isEmpty = false) :
    (lines (String.join (texts.map ("\n" ++ ·)))).filter (!·.isEmpty) = texts := by
  have hnil : ∀ c ∈ ([] : List Char), c ≠ '\n' ∧ c ≠ '\r' := by simp
  have hsplit := splitLines_joined h hnil
  have hfilter : (texts.map String.toList).filter (!·.isEmpty) = texts.map String.toList := by
    rw [List.filter_eq_self]
    intro cs hcs
    obtain ⟨text, htext, rfl⟩ := List.mem_map.mp hcs
    simpa [String.isEmpty_iff] using hne text htext
  rw [List.nil_append, List.filter_cons_of_neg (by simp), hfilter] at hsplit
  have hempty (cs : List Char) : (String.ofList cs).isEmpty = cs.isEmpty := by
    rw [Bool.eq_iff_iff, String.isEmpty_iff, List.isEmpty_iff, String.ofList_eq_empty_iff]
  rw [lines, List.filter_map]
  simp only [Function.comp_def, hempty, hsplit]
  simp

end TypeGuard.Text
