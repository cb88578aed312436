import TypeGuard.Factory.Registry
import TypeGuard.Proofs.Outcome

/-!
When the standard factories build a constraint, and which one. Of the token that was called, nothing
reaches the constraint.
-/

namespace TypeGuard

open Outcome

namespace Call

variable {call : Call} {args : List Argument}

lemma checkArity_eq_ok {least most : Nat} :
    call.checkArity args least most = .ok () ↔ least ≤ args.length ∧ args.length ≤ most := by
  unfold checkArity
  split <;> simp_all

lemma number_eq_ok {index : Nat} {x : Option Float} :
    call.number args index = .ok x ↔ args[index]? = x.map fun y => .literal (.number y) := by
  unfold number
  rcases args[index]? with _ | ⟨⟨y⟩ | ⟨s⟩ | ⟨b⟩⟩ | ⟨c⟩ <;> cases x <;> simp

lemma boolean_eq_ok {index : Nat} {x : Option Bool} :
    call.boolean args index = .ok x ↔ args[index]? = x.map fun y => .literal (.boolean y) := by
  unfold boolean
  rcases args[index]? with _ | ⟨⟨y⟩ | ⟨s⟩ | ⟨b⟩⟩ | ⟨c⟩ <;> cases x <;> simp

lemma string_eq_ok {index : Nat} {x : Option String} :
    call.string args index = .ok x ↔ args[index]? = x.map fun y => .literal (.string y) := by
  unfold string
  rcases args[index]? with _ | ⟨⟨y⟩ | ⟨s⟩ | ⟨b⟩⟩ | ⟨c⟩ <;> cases x <;> simp

end Call

namespace Factory

variable {call : Call} {args : List Argument} {c : Constraint}

lemma range_eq_ok :
    range call args = .ok c ↔ args.length ≤ 3 ∧ ∃ start stop step : Option Float,
      args[0]? = start.map (fun y => .literal (.number y)) ∧
      args[1]? = stop.map (fun y => .literal (.number y)) ∧
      args[2]? = step.map (fun y => .literal (.number y)) ∧
      c = .plain (.range start stop step) (.ofList ["string", "number"])
        (rangeCode start stop step) := by
  simp only [range, bind_eq_ok, pure_eq_ok, Call.number_eq_ok]
  constructor
  · rintro ⟨⟨⟩, harity, start, h0, stop, h1, step, h2, rfl⟩
    exact ⟨(Call.checkArity_eq_ok.mp harity).2, start, stop, step, h0, h1, h2, rfl⟩
  · rintro ⟨harity, start, stop, step, h0, h1, h2, rfl⟩
    exact ⟨(), Call.checkArity_eq_ok.mpr ⟨by omega, harity⟩, start, h0, stop, h1, step, h2, rfl⟩

lemma limit_eq_ok {side : Side} {measure : Measure} :
    limit side measure call args = .ok c ↔ args.length ≤ 2 ∧
      ∃ (bound : Float) (exclusive : Option Bool),
      args[0]? = some (.literal (.number bound)) ∧
      args[1]? = exclusive.map (fun y => .literal (.boolean y)) ∧
      c = .plain (.limit ⟨bound, exclusive.getD false, side, measure⟩)
        (.named (limitType measure).name)
        (limitCode ⟨bound, exclusive.getD false, side, measure⟩) := by
  simp only [limit, bind_eq_ok, Call.number_eq_ok]
  constructor
  · rintro ⟨⟨⟩, harity, _ | bound, h0, h⟩
    · exact absurd h throw_ne_ok
    · simp only [bind_eq_ok, pure_eq_ok, Call.boolean_eq_ok] at h
      obtain ⟨exclusive, h1, rfl⟩ := h
      exact ⟨(Call.checkArity_eq_ok.mp harity).2, bound, exclusive, h0, h1, rfl⟩
  · rintro ⟨harity, bound, exclusive, h0, h1, rfl⟩
    have hlen : 1 ≤ args.length := by
      have := (List.getElem?_eq_some_iff.mp h0).1
      omega
    refine ⟨(), Call.checkArity_eq_ok.mpr ⟨hlen, harity⟩, some bound, h0, ?_⟩
    simp only [bind_eq_ok, pure_eq_ok, Call.boolean_eq_ok]
    exact ⟨exclusive, h1, rfl⟩

lemma patternFlags_eq_ok {call' : Call} {seen : List Char} {flags reading : Pattern.Flags}
    {cs : List Char} (h : patternFlags call seen flags cs = .ok reading) :
    patternFlags call' seen flags cs = .ok reading := by
  induction cs generalizing seen flags with
  | nil => exact h
  | cons f rest ih =>
    unfold patternFlags at h ⊢
    split at h
    · simp at h
    · next hf =>
      rw [if_neg hf]
      split at h <;> first | exact ih h | simp at h

lemma pattern_eq_ok :
    pattern call args = .ok c ↔ (1 ≤ args.length ∧ args.length ≤ 2) ∧
      ∃ (source flags : Option String) (reading : Pattern.Flags) (p : Pattern),
        args[0]? = source.map (fun y => .literal (.string y)) ∧ (source.getD "").isEmpty = false ∧
        args[1]? = flags.map (fun y => .literal (.string y)) ∧
        patternFlags call [] {} (flags.getD "").toList = .ok reading ∧
        Pattern.ofText reading (source.getD "") = .ok p ∧
        c = {
          check := .pattern p
          type := .named "string"
          code := "(v) => " ++ typeTest .string ++ " && " ++ patternSymbol call ++ ".test(v)"
          preamble := some (patternStatement call (source.getD "") (flags.getD ""))
          dependencies := [] } := by
  simp only [pattern, bind_eq_ok, Call.string_eq_ok]
  constructor
  · rintro ⟨⟨⟩, harity, source, h0, h⟩
    by_cases hs : (source.getD "").isEmpty = true
    · simp [hs, bind_eq_ok, throw_ne_ok] at h
    · simp only [hs, Bool.false_eq_true, if_false, bind_eq_ok, Call.string_eq_ok] at h
      obtain ⟨flags, h1, reading, h2, h⟩ := h
      rcases hp : Pattern.ofText reading (source.getD "") with problem | p
      · simp [hp, throw_ne_ok] at h
      · simp only [hp, pure_eq_ok] at h
        obtain rfl := h
        exact ⟨Call.checkArity_eq_ok.mp harity, source, flags, reading, p, h0, by simpa using hs,
          h1, h2, hp, rfl⟩
  · rintro ⟨harity, source, flags, reading, p, h0, hs, h1, h2, hp, rfl⟩
    refine ⟨(), Call.checkArity_eq_ok.mpr harity, source, h0, ?_⟩
    simp only [hs, Bool.false_eq_true, if_false, bind_eq_ok, Call.string_eq_ok]
    refine ⟨flags, h1, reading, h2, ?_⟩
    simp [hp, pure_eq_ok]

lemma optional_eq_ok :
    optional call args = .ok c ↔ ∃ inner, args = [.constraint inner] ∧
      c = {
        check := .optional inner
        type := inner.type.extend (.named "undefined")
        code := optionalCode (optionalSymbol call)
        preamble := none
        dependencies := [.inline (optionalSymbol call) inner] } := by
  simp only [optional, bind_eq_ok]
  constructor
  · rintro ⟨⟨⟩, harity, h⟩
    have hlen := Call.checkArity_eq_ok.mp harity
    rcases args with _ | ⟨⟨value⟩ | ⟨inner⟩, rest⟩
    · exact absurd h throw_ne_ok
    · exact absurd h throw_ne_ok
    · obtain rfl : rest = [] := by
        simp only [List.length_cons] at hlen
        exact List.eq_nil_of_length_eq_zero (by omega)
      exact ⟨inner, rfl, (pure_eq_ok.mp h).symm⟩
  · rintro ⟨inner, rfl, rfl⟩
    exact ⟨(), Call.checkArity_eq_ok.mpr (by simp), rfl⟩

lemma standard_cases {motive : Factory → Prop} (hrange : motive ⟨"range", range⟩)
    (hpattern : motive ⟨"match", pattern⟩)
    (hlimit : ∀ name side measure, motive ⟨name, limit side measure⟩)
    (hoptional : motive ⟨"optional", optional⟩) {name : String} {factory : Factory}
    (h : Registry.standard.factory? name = some factory) : motive factory := by
  have hmem : factory ∈ standard := List.mem_of_find?_eq_some h
  simp only [standard, List.mem_cons, List.not_mem_nil, or_false] at hmem
  rcases hmem with rfl | rfl | rfl | rfl | rfl | rfl | rfl
  · exact hrange
  · exact hpattern
  · exact hlimit _ _ _
  · exact hlimit _ _ _
  · exact hlimit _ _ _
  · exact hlimit _ _ _
  · exact hoptional

end Factory

lemma Registry.standard_primitive {name : String} {c : Constraint}
    (h : Registry.standard.primitive? name = some c) :
    ∃ type : Primitive, name = type.name ∧ c = type.constraint := by
  obtain ⟨front, back, heq, -⟩ := List.lookup_eq_some_iff.mp h
  have hmem : (name, c) ∈ Registry.standard.primitives := by rw [heq]; simp
  obtain ⟨type, -, htype⟩ := List.mem_map.mp hmem
  obtain ⟨rfl, rfl⟩ := Prod.mk.inj htype
  exact ⟨type, rfl, rfl⟩

end TypeGuard
