import Mathlib.Tactic.Lemma
import TypeGuard.Constraint.Basic

/-!
The members of unions of types.
-/

namespace TypeGuard

namespace TypeUnion

lemma mem_extend {u other : TypeUnion} {name : String} :
    name ∈ (u.extend other).members ↔ name ∈ u.members ∨ name ∈ other.members := by
  have hfold : ∀ (names : List String) (u : TypeUnion),
      name ∈ (names.foldl insert u).members ↔ name ∈ u.members ∨ name ∈ names := by
    intro names
    induction names with
    | nil => simp
    | cons first rest ih =>
      intro u
      rw [List.foldl_cons, ih, mem_insert, List.mem_cons, or_assoc]
  exact hfold other.members u

lemma mem_union {parts : List TypeUnion} {name : String} :
    name ∈ (union parts).members ↔ ∃ u ∈ parts, name ∈ u.members := by
  have hfold : ∀ (parts : List TypeUnion) (u : TypeUnion),
      name ∈ (parts.foldl extend u).members ↔
        name ∈ u.members ∨ ∃ w ∈ parts, name ∈ w.members := by
    intro parts
    induction parts with
    | nil => simp
    | cons first rest ih =>
      intro u
      rw [List.foldl_cons, ih, mem_extend]
      simp [or_assoc]
  rw [union, hfold parts empty]
  simp [empty]

lemma nodup_insert {u : TypeUnion} (h : u.members.Nodup) (name : String) :
    (u.insert name).members.Nodup := by
  unfold insert
  split
  · exact h
  · next hname => exact List.nodup_append.mpr ⟨h, by simp, by grind⟩

lemma nodup_extend {u : TypeUnion} (h : u.members.Nodup) (other : TypeUnion) :
    (u.extend other).members.Nodup := by
  rw [extend]
  induction other.members generalizing u with
  | nil => exact h
  | cons first rest ih => exact ih (nodup_insert h first)

lemma nodup_union (parts : List TypeUnion) : (union parts).members.Nodup := by
  have hfold : ∀ (parts : List TypeUnion) (u : TypeUnion), u.members.Nodup →
      (parts.foldl extend u).members.Nodup := by
    intro parts
    induction parts with
    | nil => exact fun u hu => hu
    | cons first rest ih => exact fun u hu => ih _ (nodup_extend hu first)
  exact hfold parts empty (by simp [empty])

lemma extend_insert (u other : TypeUnion) (name : String) :
    u.extend (other.insert name) = (u.extend other).insert name := by
  by_cases h : name ∈ other.members
  · have hmem : name ∈ (u.extend other).members := mem_extend.mpr (.inr h)
    rw [insert, if_pos h, insert, if_pos hmem]
  · rw [insert, if_neg h]
    simp [extend]

lemma extend_extend (u other more : TypeUnion) :
    u.extend (other.extend more) = (u.extend other).extend more := by
  have hfold : ∀ (names : List String) (other : TypeUnion),
      u.extend (names.foldl insert other) = names.foldl insert (u.extend other) := by
    intro names
    induction names with
    | nil => simp
    | cons first rest ih =>
      intro other
      rw [List.foldl_cons, List.foldl_cons, ih, extend_insert]
  exact hfold more.members other

lemma foldl_extend (parts : List TypeUnion) (u : TypeUnion) :
    parts.foldl extend u = u.extend (union parts) := by
  have hfold : ∀ (parts : List TypeUnion) (u other : TypeUnion),
      parts.foldl extend (u.extend other) = u.extend (parts.foldl extend other) := by
    intro parts
    induction parts with
    | nil => simp
    | cons first rest ih =>
      intro u other
      rw [List.foldl_cons, List.foldl_cons, ← extend_extend, ih]
  exact hfold parts u empty

lemma union_append (first rest : List TypeUnion) :
    union (first ++ rest) = (union first).extend (union rest) := by
  rw [union, List.foldl_append, foldl_extend]
  rfl

end TypeUnion

lemma typeOf_append (first second : List Constraint) :
    typeOf (first ++ second) = (typeOf first).extend (typeOf second) := by
  rw [typeOf, List.map_append, TypeUnion.union_append]
  rfl

lemma typeOf_single (c : Constraint) : typeOf [c] = TypeUnion.empty.extend c.type := rfl

/-- A union of types is not changed by taking it as one type. -/
lemma extend_typeOf (cs : List Constraint) : TypeUnion.empty.extend (typeOf cs) = typeOf cs :=
  (TypeUnion.foldl_extend (cs.map Constraint.type) .empty).symm

lemma mem_typeOf {cs : List Constraint} {name : String} :
    name ∈ (typeOf cs).members ↔ ∃ c ∈ cs, name ∈ c.type.members := by
  rw [typeOf, TypeUnion.mem_union]
  constructor
  · rintro ⟨u, hu, hn⟩
    obtain ⟨c, hc, rfl⟩ := List.mem_map.mp hu
    exact ⟨c, hc, hn⟩
  · rintro ⟨c, hc, hn⟩
    exact ⟨c.type, List.mem_map_of_mem hc, hn⟩

end TypeGuard
