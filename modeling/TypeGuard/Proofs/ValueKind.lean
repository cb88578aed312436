import TypeGuard.Declaration.Grouping
import TypeGuard.Proofs.NumberGrammar
import TypeGuard.Proofs.Placing
import TypeGuard.Proofs.Tokenization

/-!
The kind that a text has by itself.

A configuration value is taken as what its text spells: a truth value, a finite number or a quoted
text. Each of them starts with a character that starts tokens of one kind only, so a token that is
spelled as its kind asks is taken as what it is already.
-/

namespace TypeGuard

/-- Infinities and undefined numbers have no value, so only decimals have one. -/
lemma Decimal.Reading.exists_decimal {r : Decimal.Reading}
    (h : Decimal.isFinite r.toFloat = true) :
    ∃ negative mantissa exponent, r = .finite negative mantissa exponent := by
  cases r with
  | nan => exact absurd h (by decide +kernel)
  | infinite negative => cases negative <;> exact absurd h (by decide +kernel)
  | finite negative mantissa exponent => exact ⟨negative, mantissa, exponent, rfl⟩

lemma Decimal.Spells.kindOf? {negative : Bool} {mantissa : Nat} {exponent : Int} {cs : List Char}
    (h : Decimal.Spells (.finite negative mantissa exponent) cs) :
    ∃ c rest, cs = c :: rest ∧ Lexeme.kindOf? c = some .number := by
  obtain ⟨⟩ | ⟨⟩ | ⟨hsign, hnumeral⟩ := h
  cases hsign with
  | plus => exact ⟨'+', _, rfl, by decide⟩
  | minus => exact ⟨'-', _, rfl, by decide⟩
  | none =>
    obtain ⟨c, rest, rfl, hc⟩ := hnumeral.head
    refine ⟨c, rest, rfl, ?_⟩
    rcases Bool.or_eq_true_iff.mp hc with hdigit | hpoint
    · exact Lexeme.kindOf?_digit hdigit
    · obtain rfl := beq_iff_eq.mp hpoint
      decide

namespace Literal

open Lexeme

lemma kindOf?_of_finite? {text : String} (h : (finite? text).isSome = true) :
    ∃ c rest, text.toList = c :: rest ∧ kindOf? c = some .number := by
  obtain ⟨x, hx⟩ := Option.isSome_iff_exists.mp h
  obtain ⟨hparse, hfinite⟩ := Option.filter_eq_some_iff.mp hx
  obtain ⟨r, hread, rfl⟩ := Option.map_eq_some_iff.mp hparse
  obtain ⟨negative, mantissa, exponent, rfl⟩ := Decimal.Reading.exists_decimal hfinite
  exact (Decimal.read?_eq_some.mp hread).kindOf?

lemma kindOf?_of_isQuoted {text : String} (h : Grouping.isQuoted text = true) :
    ∃ c rest, text.toList = c :: rest ∧ kindOf? c = some .string := by
  unfold Grouping.isQuoted at h
  split at h
  · next first second rest htext =>
    have hquote : first = '"' ∨ first = '\'' := by simpa using (Bool.and_eq_true_iff.mp h).1
    refine ⟨first, second :: rest, htext, ?_⟩
    rcases hquote with rfl | rfl <;> decide
  · simp at h

end Literal

namespace Scan

variable {inBlock : Bool} {t : Token}

/-- The first character of a token that is no word tells its kind. -/
lemma Proper.kind_eq {c : Char} {rest : List Char} {kind : Kind} (h : Proper inBlock t)
    (htext : t.text.toList = c :: rest) (hc : Lexeme.kindOf? c = some kind)
    (hkind : kind ≠ .identifier) : t.kind = kind := by
  have hspelling := h.spelling
  rw [htext] at hspelling
  have hfamily : some kind = some t.kind.family := hc.symm.trans hspelling.kindOf?
  exact Kind.eq_of_family (Option.some.inj hfamily).symm hkind

lemma Proper.boolean (h : Proper inBlock t) (htruth : t.text = "true" ∨ t.text = "false") :
    t.kind = .boolean := by
  have hword : t.text.toList = "true".toList ∨ t.text.toList = "false".toList :=
    htruth.imp (congrArg _) (congrArg _)
  rw [h.word (h.spelling.isWord (by rcases hword with hword | hword <;> rw [hword] <;> decide))]
  exact Tokenization.wordKind_truth hword

/-- **The text of a token says no more than its kind.** -/
lemma Proper.valueKind_eq (h : Proper inBlock t) : Grouping.valueKind t = t.kind := by
  unfold Grouping.valueKind
  split
  · next htruth => exact (h.boolean (by simpa using htruth)).symm
  split
  · next hfinite =>
    obtain ⟨c, rest, htext, hc⟩ := Literal.kindOf?_of_finite? hfinite
    exact (h.kind_eq htext hc (by decide)).symm
  split
  · next hquoted =>
    obtain ⟨c, rest, htext, hc⟩ := Literal.kindOf?_of_isQuoted hquoted
    exact (h.kind_eq htext hc (by decide)).symm
  · rfl

lemma Proper.finite?_eq_none (h : Proper inBlock t) (hkind : t.kind ≠ .number) :
    Literal.finite? t.text = none := by
  by_contra hfinite
  obtain ⟨c, rest, htext, hc⟩ := Literal.kindOf?_of_finite? (Option.isSome_iff_ne_none.mpr hfinite)
  exact hkind (h.kind_eq htext hc (by decide))

end Scan

end TypeGuard
