import TypeGuard.Decimal.Reader
import TypeGuard.Proofs.Lexeme

/-!
The texts that are read as numbers, told without a reader.

    number   = sign? (inf | infinity | nan | numeral)
    numeral  = (digits | digits . digits? | digits? . digits) exponent?
    exponent = e sign? digits

Letters stand for themselves in either case. Along with its spelling a number has what it stands
for: a decimal is the value of its digits, times ten to the power of its exponent less the count of
digits behind the point. The reader accepts exactly these texts, and reads each of them as what it
stands for.
-/

namespace TypeGuard.Decimal

open Lexeme

def Digits (cs : List Char) : Prop := ∀ c ∈ cs, c.isDigit = true

/-- A sign that may be left out, and whether it makes a number negative. -/
inductive Sign : Bool → List Char → Prop where
  | none : Sign false []
  | plus : Sign false ['+']
  | minus : Sign true ['-']

/-- An exponent that may be left out, and its value. -/
inductive Exponent : Int → List Char → Prop where
  | none : Exponent 0 []
  | marked {mark : Char} {negative : Bool} {sign digits : List Char} :
      mark = 'e' ∨ mark = 'E' → Sign negative sign → digits ≠ [] → Digits digits →
      Exponent (if negative then -(digitsValue digits : Int) else digitsValue digits)
        (mark :: (sign ++ digits))

/-- A decimal without a sign, and the mantissa and exponent of its value. -/
inductive Unsigned : Nat → Int → List Char → Prop where
  | whole {digits tail : List Char} {e : Int} :
      digits ≠ [] → Digits digits → Exponent e tail →
      Unsigned (digitsValue digits) e (digits ++ tail)
  | pointed {digits fraction tail : List Char} {e : Int} :
      digits ≠ [] ∨ fraction ≠ [] → Digits digits → Digits fraction → Exponent e tail →
      Unsigned (digitsValue (digits ++ fraction)) (e - fraction.length)
        (digits ++ '.' :: (fraction ++ tail))

/-- A number, and what it stands for. -/
inductive Spells : Reading → List Char → Prop where
  | nan {negative : Bool} {sign word : List Char} :
      Sign negative sign → word.map Char.toLower = "nan".toList → Spells .nan (sign ++ word)
  | infinite {negative : Bool} {sign word : List Char} :
      Sign negative sign →
      word.map Char.toLower = "inf".toList ∨ word.map Char.toLower = "infinity".toList →
      Spells (.infinite negative) (sign ++ word)
  | finite {negative : Bool} {mantissa : Nat} {exponent : Int} {sign numeral : List Char} :
      Sign negative sign → Unsigned mantissa exponent numeral →
      Spells (.finite negative mantissa exponent) (sign ++ numeral)

/-! ### Signs -/

def isSign (c : Char) : Bool := c = '+' || c = '-'

lemma sign_of_readSign {cs rest : List Char} {negative : Bool}
    (h : readSign cs = (negative, rest)) : ∃ sign, Sign negative sign ∧ cs = sign ++ rest := by
  unfold readSign at h
  split at h
  · obtain ⟨rfl, rfl⟩ := Prod.mk.inj h
    exact ⟨['-'], .minus, rfl⟩
  · obtain ⟨rfl, rfl⟩ := Prod.mk.inj h
    exact ⟨['+'], .plus, rfl⟩
  · obtain ⟨rfl, rfl⟩ := Prod.mk.inj h
    exact ⟨[], .none, rfl⟩

lemma readSign_append {negative : Bool} {sign rest : List Char} (h : Sign negative sign)
    (hrest : Stops isSign rest) : readSign (sign ++ rest) = (negative, rest) := by
  cases h with
  | plus | minus => rfl
  | none =>
    cases rest with
    | nil => rfl
    | cons c more =>
      have hc : (c = '+' || c = '-') = false := stops_cons.mp hrest
      rw [Bool.or_eq_false_iff, decide_eq_false_iff_not, decide_eq_false_iff_not] at hc
      rw [List.nil_append, readSign]
      · exact fun _ heq => hc.2 (List.cons.inj heq).1
      · exact fun _ heq => hc.1 (List.cons.inj heq).1

lemma not_isSign_of_isDigit {c : Char} (h : c.isDigit = true) : isSign c = false := by
  have hplus : c ≠ '+' := by rintro rfl; exact absurd h (by decide)
  have hminus : c ≠ '-' := by rintro rfl; exact absurd h (by decide)
  simp [isSign, hplus, hminus]

/-! ### Exponents -/

lemma readExponent_cons {c : Char} {rest digits : List Char} {negative : Bool}
    (hc : c = 'e' ∨ c = 'E') (hsign : readSign rest = (negative, digits)) :
    readExponent (c :: rest) =
      if digits.isEmpty || !digits.all Char.isDigit then none
      else some (if negative then -(digitsValue digits : Int) else digitsValue digits) := by
  rw [readExponent, if_pos (by simpa using hc), hsign]

lemma readExponent_eq_some {cs : List Char} {e : Int} :
    readExponent cs = some e ↔ Exponent e cs := by
  constructor
  · intro h
    cases cs with
    | nil =>
      obtain rfl := Option.some.inj h
      exact .none
    | cons c rest =>
      by_cases hc : c = 'e' ∨ c = 'E'
      · obtain ⟨negative, digits, hsign⟩ : ∃ negative digits, readSign rest = (negative, digits) :=
          ⟨_, _, rfl⟩
        rw [readExponent_cons hc hsign] at h
        split at h
        · simp at h
        · next hdigits =>
          obtain rfl := Option.some.inj h
          obtain ⟨sign, hs, rfl⟩ := sign_of_readSign hsign
          simp only [Bool.or_eq_true, List.isEmpty_iff, Bool.not_eq_true', not_or,
            Bool.not_eq_false, List.all_eq_true] at hdigits
          exact .marked hc hs hdigits.1 hdigits.2
      · rw [readExponent, if_neg (by simpa using hc)] at h
        simp at h
  · intro h
    cases h with
    | none => rfl
    | @marked mark negative sign digits hmark hsign hne hdigits =>
      have hstops : Stops isSign digits := fun c hc =>
        not_isSign_of_isDigit (hdigits c (List.mem_of_mem_head? hc))
      rw [readExponent_cons hmark (readSign_append hsign hstops), if_neg]
      simp only [Bool.or_eq_true, List.isEmpty_iff, hne, false_or, Bool.not_eq_true',
        Bool.not_eq_false, List.all_eq_true]
      exact hdigits

lemma Exponent.stops {e : Int} {tail : List Char} (h : Exponent e tail) :
    Stops (fun c => c.isDigit || c == '.') tail := by
  cases h with
  | none => exact stops_nil
  | marked hmark _ _ _ =>
    rw [stops_cons]
    rcases hmark with rfl | rfl <;> decide

/-! ### Decimals -/

lemma readNumeral_whole {negative : Bool} {digits rest : List Char} (hdigits : Digits digits)
    (hrest : Stops (fun c => c.isDigit || c == '.') rest) :
    readNumeral negative (digits ++ rest) =
      if digits.isEmpty then none
      else (readExponent rest).map fun e => .finite negative (digitsValue digits) e := by
  have hdigit : Stops Char.isDigit rest := fun c hc => (Bool.or_eq_false_iff.mp (hrest c hc)).1
  unfold readNumeral
  rw [takeWhile_append_of_stops hdigits hdigit, dropWhile_append_of_stops hdigits hdigit]
  cases rest with
  | nil => simp
  | cons c more =>
    have hpoint : c ≠ '.' := by simpa using (Bool.or_eq_false_iff.mp (stops_cons.mp hrest)).2
    simp [hpoint]

lemma readNumeral_pointed {negative : Bool} {digits fraction tail : List Char}
    (hdigits : Digits digits) (hfraction : Digits fraction) (htail : Stops Char.isDigit tail) :
    readNumeral negative (digits ++ '.' :: (fraction ++ tail)) =
      if digits.isEmpty && fraction.isEmpty then none
      else (readExponent tail).map fun e =>
        .finite negative (digitsValue (digits ++ fraction)) (e - fraction.length) := by
  have hpoint : Stops Char.isDigit ('.' :: (fraction ++ tail)) := stops_cons.mpr (by decide)
  unfold readNumeral
  rw [takeWhile_append_of_stops hdigits hpoint, dropWhile_append_of_stops hdigits hpoint]
  simp only [takeWhile_append_of_stops hfraction htail, dropWhile_append_of_stops hfraction htail]

/-- Every text starts with digits, behind which a point stands or neither a digit nor a point. -/
lemma exists_digits (cs : List Char) :
    ∃ digits rest, Digits digits ∧ cs = digits ++ rest ∧
      (Stops (fun c => c.isDigit || c == '.') rest ∨ ∃ more, rest = '.' :: more) := by
  refine ⟨cs.takeWhile Char.isDigit, cs.dropWhile Char.isDigit,
    fun c hc => List.mem_takeWhile_imp hc, List.takeWhile_append_dropWhile.symm, ?_⟩
  have hstops := stops_dropWhile Char.isDigit cs
  cases hrest : cs.dropWhile Char.isDigit with
  | nil => exact .inl stops_nil
  | cons c more =>
    rw [hrest, stops_cons] at hstops
    by_cases hc : c = '.'
    · exact .inr ⟨more, by rw [hc]⟩
    · exact .inl (stops_cons.mpr (by simp [hstops, hc]))

lemma readNumeral_eq_some {negative : Bool} {cs : List Char} {r : Reading} :
    readNumeral negative cs = some r ↔
      ∃ mantissa exponent, Unsigned mantissa exponent cs ∧
        r = .finite negative mantissa exponent := by
  constructor
  · intro h
    obtain ⟨digits, rest, hdigits, rfl, hrest | ⟨more, rfl⟩⟩ := exists_digits cs
    · rw [readNumeral_whole hdigits hrest] at h
      split at h
      · simp at h
      · next hne =>
        obtain ⟨e, he, rfl⟩ := Option.map_eq_some_iff.mp h
        exact ⟨_, _, .whole (by simpa using hne) hdigits (readExponent_eq_some.mp he), rfl⟩
    · have hfraction : Digits (more.takeWhile Char.isDigit) := fun c hc =>
        List.mem_takeWhile_imp hc
      rw [← List.takeWhile_append_dropWhile (p := Char.isDigit) (l := more)] at h ⊢
      rw [readNumeral_pointed hdigits hfraction (stops_dropWhile _ _)] at h
      split at h
      · simp at h
      · next hne =>
        obtain ⟨e, he, rfl⟩ := Option.map_eq_some_iff.mp h
        have hsome : digits ≠ [] ∨ more.takeWhile Char.isDigit ≠ [] := by
          simpa only [Bool.and_eq_true, List.isEmpty_iff, not_and_or] using hne
        exact ⟨_, _, .pointed hsome hdigits hfraction (readExponent_eq_some.mp he), rfl⟩
  · rintro ⟨mantissa, exponent, hcs, rfl⟩
    cases hcs with
    | whole hne hdigits hexponent =>
      rw [readNumeral_whole hdigits hexponent.stops, if_neg (by simpa using hne),
        readExponent_eq_some.mpr hexponent]
      rfl
    | pointed hsome hdigits hfraction hexponent =>
      have hstops : Stops Char.isDigit _ := fun c hc =>
        (Bool.or_eq_false_iff.mp (hexponent.stops c hc)).1
      rw [readNumeral_pointed hdigits hfraction hstops, if_neg,
        readExponent_eq_some.mpr hexponent]
      · rfl
      · simpa only [Bool.and_eq_true, List.isEmpty_iff, not_and_or] using hsome

lemma Unsigned.head {mantissa : Nat} {exponent : Int} {cs : List Char}
    (h : Unsigned mantissa exponent cs) :
    ∃ c rest, cs = c :: rest ∧ (c.isDigit || c == '.') = true := by
  cases h with
  | @whole digits tail e hne hdigits _ =>
    obtain ⟨c, rest, rfl⟩ := List.exists_cons_of_ne_nil hne
    exact ⟨c, rest ++ tail, rfl, by simp [hdigits c (by simp)]⟩
  | @pointed digits fraction tail e _ hdigits _ _ =>
    cases digits with
    | nil => exact ⟨'.', fraction ++ tail, rfl, rfl⟩
    | cons c rest => exact ⟨c, _, rfl, by simp [hdigits c (by simp)]⟩

/-! ### Numbers -/

lemma isNameStart_of_toLower {c : Char} (h : c.toLower.isAlpha = true) : isNameStart c = true := by
  have halpha : c.isAlpha = true := by
    unfold Char.toLower at h
    split at h
    · next hupper =>
      have hc : c.isUpper = true := decide_eq_true hupper
      exact Bool.or_eq_true_iff.mpr (.inl hc)
    · exact h
  simp [isNameStart, halpha]

lemma exists_letter {word rest : List Char} {c : Char} (h : word.map Char.toLower = c :: rest)
    (hc : c.isAlpha = true) : ∃ d more, word = d :: more ∧ isNameStart d = true := by
  obtain ⟨d, more, rfl, rfl, -⟩ := List.map_eq_cons_iff.mp h
  exact ⟨d, more, rfl, isNameStart_of_toLower hc⟩

lemma stops_of_letter {word rest : List Char} {c : Char} (h : word.map Char.toLower = c :: rest)
    (hc : c.isAlpha = true) : Stops isSign word := by
  obtain ⟨d, more, rfl, hd⟩ := exists_letter h hc
  have hplus : d ≠ '+' := by rintro rfl; exact absurd hd (by decide)
  have hminus : d ≠ '-' := by rintro rfl; exact absurd hd (by decide)
  simp [stops_cons, isSign, hplus, hminus]

lemma Unsigned.stops {mantissa : Nat} {exponent : Int} {cs : List Char}
    (h : Unsigned mantissa exponent cs) : Stops isSign cs := by
  obtain ⟨c, rest, rfl, hc⟩ := h.head
  rw [stops_cons]
  rcases Bool.or_eq_true_iff.mp hc with hdigit | hpoint
  · exact not_isSign_of_isDigit hdigit
  · obtain rfl := beq_iff_eq.mp hpoint
    decide

/-- A decimal starts with no letter, so it is no word. -/
lemma Unsigned.map_ne {mantissa : Nat} {exponent : Int} {cs : List Char}
    (h : Unsigned mantissa exponent cs) {c : Char} {rest : List Char} (hc : c.isAlpha = true) :
    cs.map Char.toLower ≠ c :: rest := by
  intro hword
  obtain ⟨d, more, rfl, hd⟩ := h.head
  obtain ⟨d', more', heq, hletter⟩ := exists_letter hword hc
  obtain rfl := (List.cons.inj heq).1
  rcases Bool.or_eq_true_iff.mp hd with hdigit | hpoint
  · simp [isNameStart_digit hdigit] at hletter
  · obtain rfl := beq_iff_eq.mp hpoint
    exact absurd hletter (by decide)

lemma read?_of_readSign {text : String} {negative : Bool} {cs : List Char}
    (h : readSign text.toList = (negative, cs)) :
    read? text =
      if cs.map Char.toLower = "nan".toList then some .nan
      else if cs.map Char.toLower = "inf".toList || cs.map Char.toLower = "infinity".toList then
        some (.infinite negative)
      else readNumeral negative cs := by
  rw [read?, h]

/-- **The reader accepts exactly the numbers**, and reads each of them as what it stands for. -/
lemma read?_eq_some {text : String} {r : Reading} :
    read? text = some r ↔ Spells r text.toList := by
  constructor
  · intro h
    obtain ⟨negative, cs, hsplit⟩ : ∃ negative cs, readSign text.toList = (negative, cs) :=
      ⟨_, _, rfl⟩
    obtain ⟨sign, hsign, htext⟩ := sign_of_readSign hsplit
    rw [read?_of_readSign hsplit] at h
    rw [htext]
    split at h
    · next hword =>
      obtain rfl := Option.some.inj h
      exact .nan hsign hword
    split at h
    · next hword =>
      obtain rfl := Option.some.inj h
      rw [Bool.or_eq_true, decide_eq_true_iff, decide_eq_true_iff] at hword
      exact .infinite hsign hword
    · obtain ⟨mantissa, exponent, hcs, rfl⟩ := readNumeral_eq_some.mp h
      exact .finite hsign hcs
  · intro h
    generalize htext : text.toList = cs at h
    cases h with
    | nan hsign hword =>
      have hstops := stops_of_letter hword (by decide)
      rw [read?_of_readSign (htext ▸ readSign_append hsign hstops), if_pos hword]
    | infinite hsign hword =>
      rcases hword with hword | hword
      · have hstops := stops_of_letter hword (by decide)
        rw [read?_of_readSign (htext ▸ readSign_append hsign hstops), hword]
        rfl
      · have hstops := stops_of_letter hword (by decide)
        rw [read?_of_readSign (htext ▸ readSign_append hsign hstops), hword]
        rfl
    | finite hsign hnumeral =>
      have hnan : _ ≠ "nan".toList := hnumeral.map_ne (by decide)
      have hinf : _ ≠ "inf".toList := hnumeral.map_ne (by decide)
      have hinfinity : _ ≠ "infinity".toList := hnumeral.map_ne (by decide)
      rw [read?_of_readSign (htext ▸ readSign_append hsign hnumeral.stops), if_neg hnan, if_neg,
        readNumeral_eq_some]
      · exact ⟨_, _, hnumeral, rfl⟩
      · rw [Bool.or_eq_true, decide_eq_true_iff, decide_eq_true_iff, not_or]
        exact ⟨hinf, hinfinity⟩

end TypeGuard.Decimal
