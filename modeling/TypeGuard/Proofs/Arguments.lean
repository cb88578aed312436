import TypeGuard.Proofs.Factory

/-!
Which arguments the standard factories accept.

Of an argument that is a constraint only the fact that it is one matters, so the arguments are given
as literals, with a gap for each constraint. The place of a call does not matter at all.
-/

namespace TypeGuard

def Argument.literal? : Argument → Option Literal
  | literal value => some value
  | constraint _ => none

lemma Argument.literal?_eq_some {a : Argument} {value : Literal} :
    a.literal? = some value ↔ a = .literal value := by
  cases a <;> simp [literal?]

lemma Argument.literal?_eq_none {a : Argument} :
    a.literal? = none ↔ ∃ c, a = .constraint c := by
  cases a <;> simp [literal?]

namespace Factory

def flagLetters : List Char := ['i', 'm', 's', 'g', 'y', 'u']

def readingOf (flags : List Char) : Pattern.Flags where
  ignoreCase := flags.contains 'i'
  multiLine := flags.contains 'm'
  dotAll := flags.contains 's'

/-- The factories that bound a number or the length of a text. -/
def limitNames : List String := ["min", "max", "minlength", "maxlength"]

/-- **The arguments that a factory accepts.** -/
inductive Accepts : String → List (Option Literal) → Prop where
  /-- Up to three numbers. -/
  | range {xs : List Float} : xs.length ≤ 3 → Accepts "range" ((xs.map .number).map some)
  /-- A pattern that can be read under its flags, if there are any, each of them given once. -/
  | pattern {source : String} {flags : Option String} {p : Pattern} :
      source ≠ "" → (flags.getD "").toList.Nodup → (flags.getD "").toList ⊆ flagLetters →
      Pattern.ofText (readingOf (flags.getD "").toList) source = .ok p →
      Accepts "match" ((.string source :: (flags.map .string).toList).map some)
  /-- A number, and possibly whether the bound itself is excluded. -/
  | limit {name : String} {bound : Float} {exclusive : Option Bool} : name ∈ limitNames →
      Accepts name ((.number bound :: (exclusive.map .boolean).toList).map some)
  /-- A constraint. -/
  | optional : Accepts "optional" [none]

variable {call : Call} {args : List Argument}

/-- Flags are read if each of them is known and given once. -/
lemma patternFlags_eq_ok_iff {seen : List Char} {flags reading : Pattern.Flags} {cs : List Char} :
    patternFlags call seen flags cs = .ok reading ↔
      cs.Nodup ∧ (∀ c ∈ cs, c ∉ seen) ∧ cs ⊆ flagLetters ∧
      reading = { flags with
        ignoreCase := flags.ignoreCase || cs.contains 'i'
        multiLine := flags.multiLine || cs.contains 'm'
        dotAll := flags.dotAll || cs.contains 's' } := by
  induction cs generalizing seen flags with
  | nil => simp [patternFlags, eq_comm]
  | cons c rest ih =>
    by_cases hseen : c ∈ seen
    · simp [patternFlags, hseen]
    · -- the letter has been read, and the letters behind it must differ from it
      have hfresh : (∀ c' ∈ rest, c' ∉ c :: seen) ↔ c ∉ rest ∧ ∀ c' ∈ rest, c' ∉ seen := by
        grind
      by_cases hc : c ∈ flagLetters
      · have hmem : c = 'i' ∨ c = 'm' ∨ c = 's' ∨ c = 'g' ∨ c = 'y' ∨ c = 'u' := by
          simpa [flagLetters] using hc
        rcases hmem with rfl | rfl | rfl | rfl | rfl | rfl
        all_goals
          simp only [patternFlags, List.contains_iff_mem, hseen, if_false, ih, hfresh]
          simp [hseen, hc, List.nodup_cons, and_assoc, and_left_comm]
      · have hother : patternFlags call seen flags (c :: rest) =
            .error (call.refuse (.unknownFlag c)) := by
          simp only [patternFlags, List.contains_iff_mem, hseen, if_false]
          split <;> first | rfl | exact absurd (by decide) hc
        simp [hother, hc]

lemma eq_map_literal {values : List Literal} :
    args.map Argument.literal? = values.map some ↔ args = values.map .literal := by
  induction args generalizing values with
  | nil => cases values <;> simp
  | cons a rest ih => cases values <;> simp [ih, Argument.literal?_eq_some]

lemma eq_places {α : Type} : ∀ {items : List α}, items.length ≤ 3 →
    items = items[0]?.toList ++ (items[1]?.toList ++ items[2]?.toList)
  | [], _ => rfl
  | [_], _ => rfl
  | [_, _], _ => rfl
  | [_, _, _], _ => rfl

lemma eq_places_two {α : Type} {items : List α} (h : items.length ≤ 2) :
    items = items[0]?.toList ++ items[1]?.toList := by
  have hnone : items[2]? = none := List.getElem?_eq_none h
  have heq := eq_places (Nat.le_succ_of_le h)
  simpa [hnone] using heq

lemma range_accepts :
    (∃ c, range call args = .ok c) ↔
      ∃ xs : List Float, xs.length ≤ 3 ∧ args = (xs.map .number).map .literal := by
  simp only [range_eq_ok]
  constructor
  · rintro ⟨c, hlen, start, stop, step, h0, h1, h2, -⟩
    have hargs := eq_places hlen
    rw [h0, h1, h2] at hargs
    refine ⟨start.toList ++ (stop.toList ++ step.toList), ?_, ?_⟩
    · cases start <;> cases stop <;> cases step <;> simp
    · rw [hargs]
      cases start <;> cases stop <;> cases step <;> rfl
  · rintro ⟨xs, hlen, rfl⟩
    exact ⟨_, by simpa using hlen, xs[0]?, xs[1]?, xs[2]?, by simp [Function.comp_def],
      by simp [Function.comp_def], by simp [Function.comp_def], rfl⟩

lemma pattern_accepts :
    (∃ c, pattern call args = .ok c) ↔
      ∃ (source : String) (flags : Option String) (p : Pattern), source ≠ "" ∧
        (flags.getD "").toList.Nodup ∧ (flags.getD "").toList ⊆ flagLetters ∧
        Pattern.ofText (readingOf (flags.getD "").toList) source = .ok p ∧
        args = (.string source :: (flags.map .string).toList).map .literal := by
  simp only [pattern_eq_ok]
  constructor
  · rintro ⟨c, ⟨-, hmost⟩, source, flags, reading, p, h0, hsource, h1, hreading, hp, -⟩
    obtain ⟨hnodup, -, hletters, rfl⟩ := patternFlags_eq_ok_iff.mp hreading
    have hargs := eq_places_two hmost
    rw [h0, h1] at hargs
    cases source with
    | none => simp at hsource
    | some source =>
      refine ⟨source, flags, p, by simpa using hsource, hnodup, hletters, ?_, ?_⟩
      · simpa [readingOf] using hp
      · rw [hargs]
        cases flags <;> rfl
  · rintro ⟨source, flags, p, hsource, hnodup, hletters, hp, rfl⟩
    have hreading : patternFlags call [] {} (flags.getD "").toList =
        .ok (readingOf (flags.getD "").toList) :=
      patternFlags_eq_ok_iff.mpr ⟨hnodup, by simp, hletters, by simp [readingOf]⟩
    refine ⟨_, ⟨by simp, ?_⟩, some source, flags, _, p, by simp, by simpa using hsource, ?_,
      hreading, hp, rfl⟩
    · cases flags <;> simp
    · cases flags <;> simp

lemma limit_accepts {side : Side} {measure : Measure} :
    (∃ c, limit side measure call args = .ok c) ↔
      ∃ (bound : Float) (exclusive : Option Bool),
        args = (.number bound :: (exclusive.map .boolean).toList).map .literal := by
  simp only [limit_eq_ok]
  constructor
  · rintro ⟨c, hmost, bound, exclusive, h0, h1, -⟩
    have hargs := eq_places_two hmost
    rw [h0, h1] at hargs
    refine ⟨bound, exclusive, ?_⟩
    rw [hargs]
    cases exclusive <;> rfl
  · rintro ⟨bound, exclusive, rfl⟩
    refine ⟨_, ?_, bound, exclusive, by simp, ?_, rfl⟩
    · cases exclusive <;> simp
    · cases exclusive <;> simp

lemma optional_accepts :
    (∃ c, optional call args = .ok c) ↔ args.map Argument.literal? = [none] := by
  simp only [optional_eq_ok]
  constructor
  · rintro ⟨c, inner, rfl, -⟩
    rfl
  · intro h
    obtain ⟨a, rfl, ha⟩ := List.map_eq_singleton_iff.mp h
    obtain ⟨inner, rfl⟩ := Argument.literal?_eq_none.mp ha
    exact ⟨_, inner, rfl, rfl⟩

lemma accepts_iff {name : String} {values : List (Option Literal)} :
    Accepts name values ↔
      (name = "range" ∧ ∃ xs : List Float, xs.length ≤ 3 ∧
        values = (xs.map Literal.number).map some) ∨
      (name = "match" ∧ ∃ (source : String) (flags : Option String) (p : Pattern), source ≠ "" ∧
        (flags.getD "").toList.Nodup ∧ (flags.getD "").toList ⊆ flagLetters ∧
        Pattern.ofText (readingOf (flags.getD "").toList) source = .ok p ∧
        values = (Literal.string source :: (flags.map .string).toList).map some) ∨
      (name ∈ limitNames ∧ ∃ (bound : Float) (exclusive : Option Bool),
        values = (Literal.number bound :: (exclusive.map .boolean).toList).map some) ∨
      (name = "optional" ∧ values = [none]) := by
  constructor
  · intro h
    cases h with
    | range hlen => exact .inl ⟨rfl, _, hlen, rfl⟩
    | pattern hsource hnodup hletters hp =>
      exact .inr (.inl ⟨rfl, _, _, _, hsource, hnodup, hletters, hp, rfl⟩)
    | limit hname => exact .inr (.inr (.inl ⟨hname, _, _, rfl⟩))
    | optional => exact .inr (.inr (.inr ⟨rfl, rfl⟩))
  · rintro (⟨rfl, xs, hlen, rfl⟩ | ⟨rfl, source, flags, p, hsource, hnodup, hletters, hp, rfl⟩ |
      ⟨hname, bound, exclusive, rfl⟩ | ⟨rfl, rfl⟩)
    · exact .range hlen
    · exact .pattern hsource hnodup hletters hp
    · exact .limit hname
    · exact .optional

/-- **A standard factory builds a constraint** exactly of the arguments that it accepts. -/
lemma build_eq_ok_iff {name : String} {factory : Factory}
    (h : Registry.standard.factory? name = some factory) :
    (∃ c, factory.build call args = .ok c) ↔ Accepts name (args.map Argument.literal?) := by
  have hname : factory.name = name := by simpa using List.find?_some h
  have hmem : factory ∈ standard := List.mem_of_find?_eq_some h
  rw [accepts_iff]
  simp only [eq_map_literal]
  simp only [standard, List.mem_cons, List.not_mem_nil, or_false] at hmem
  rcases hmem with rfl | rfl | rfl | rfl | rfl | rfl | rfl <;> subst hname
  · simpa [limitNames] using range_accepts
  · simpa [limitNames] using pattern_accepts
  · simpa [limitNames] using limit_accepts
  · simpa [limitNames] using limit_accepts
  · simpa [limitNames] using limit_accepts
  · simpa [limitNames] using limit_accepts
  · simpa [limitNames] using optional_accepts

/-- Only factories accept anything. -/
lemma Accepts.isSome {name : String} {values : List (Option Literal)} (h : Accepts name values) :
    (Registry.standard.factory? name).isSome = true := by
  cases h with
  | range | pattern | optional => decide
  | limit hname =>
    simp only [limitNames, List.mem_cons, List.not_mem_nil, or_false] at hname
    rcases hname with rfl | rfl | rfl | rfl <;> decide

end Factory

end TypeGuard
