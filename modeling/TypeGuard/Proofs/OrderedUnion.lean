import Mathlib.Data.List.Perm.Subperm
import TypeGuard.Proofs.Globals
import TypeGuard.Proofs.TypeUnion

/-!
Unions of types as lists without repeats.

A union lists the members of its parts in the order in which they first come up. What is already
there adds nothing, so parts may be given twice or joined block by block.
-/

namespace TypeGuard

namespace TypeUnion

/-! ### First occurrences -/

lemma insert_eraseDups (names : List String) (name : String) :
    (⟨names.eraseDups⟩ : TypeUnion).insert name = ⟨(names ++ [name]).eraseDups⟩ := by
  rw [eraseDups_concat]
  unfold insert
  split <;> rfl

lemma extend_eraseDups (names : List String) (other : TypeUnion) :
    (⟨names.eraseDups⟩ : TypeUnion).extend other = ⟨(names ++ other.members).eraseDups⟩ := by
  unfold extend
  induction other.members generalizing names with
  | nil => rw [List.foldl_nil, List.append_nil]
  | cons name rest ih =>
    rw [List.foldl_cons, insert_eraseDups, ih, List.append_assoc, List.singleton_append]

lemma foldl_eraseDups (names : List String) (parts : List TypeUnion) :
    parts.foldl extend ⟨names.eraseDups⟩ = ⟨(names ++ parts.flatMap members).eraseDups⟩ := by
  induction parts generalizing names with
  | nil => rw [List.foldl_nil, List.flatMap_nil, List.append_nil]
  | cons part rest ih =>
    rw [List.foldl_cons, extend_eraseDups, ih, List.flatMap_cons, List.append_assoc]

lemma union_eq (parts : List TypeUnion) : union parts = ⟨(parts.flatMap members).eraseDups⟩ :=
  foldl_eraseDups [] parts

/-! ### Laws -/

lemma prefix_insert (u : TypeUnion) (name : String) : u.members <+: (u.insert name).members := by
  unfold insert
  split
  · exact List.prefix_rfl
  · exact List.prefix_append _ _

lemma prefix_extend (u other : TypeUnion) : u.members <+: (u.extend other).members := by
  unfold extend
  induction other.members generalizing u with
  | nil => exact List.prefix_rfl
  | cons name rest ih => exact (prefix_insert u name).trans (ih (u.insert name))

lemma extend_of_subset {u other : TypeUnion} (h : other.members ⊆ u.members) :
    u.extend other = u := by
  obtain ⟨names⟩ := other
  unfold extend
  induction names with
  | nil => rfl
  | cons name rest ih =>
    obtain ⟨hname, hrest⟩ := List.cons_subset.mp h
    rw [List.foldl_cons, insert, if_pos hname]
    exact ih hrest

lemma union_singleton {u : TypeUnion} (h : u.members.Nodup) : union [u] = u := by
  have hsubset : u.members ⊆ u.members.eraseDups := fun name hname =>
    List.mem_eraseDups.mpr hname
  have hmembers : u.members.eraseDups = u.members :=
    (eraseDups_sublist u.members).eq_of_length_le (h.subperm hsubset).length_le
  rw [union_eq, List.flatMap_singleton, hmembers]

lemma union_flatten (blocks : List (List TypeUnion)) :
    union (blocks.map union) = union blocks.flatten := by
  induction blocks with
  | nil => rfl
  | cons block rest ih =>
    have hblock : union [union block] = union block := (foldl_extend block empty).symm
    rw [List.map_cons, ← List.singleton_append, union_append, hblock, ih, List.flatten_cons,
      union_append]

/-- **A union of types is an ordered union of sets.** It has the members of its parts, each of them
once, in the order in which they first come up. Repeating the parts changes nothing, nor does
joining a union without repeats to itself; parts may be joined in blocks, and the blocks then
joined. A union without repeats that is extended has no repeats and starts with its old members. -/
theorem union_ordered :
    (∀ parts : List TypeUnion,
      (union parts).members = (parts.flatMap members).eraseDups ∧
        FirstOccurrences (parts.flatMap members) (union parts).members) ∧
    (∀ parts : List TypeUnion, union (parts ++ parts) = union parts) ∧
    (∀ u : TypeUnion, u.members.Nodup → union [u, u] = u) ∧
    (∀ blocks : List (List TypeUnion), union (blocks.map union) = union blocks.flatten) ∧
    ∀ u other : TypeUnion, u.members.Nodup →
      (u.extend other).members.Nodup ∧ u.members <+: (u.extend other).members := by
  refine ⟨fun parts => ?_, fun parts => ?_, fun u hu => ?_, union_flatten, fun u other hu => ?_⟩
  · rw [union_eq]
    exact ⟨rfl, firstOccurrences_eraseDups _⟩
  · rw [union_append]
    exact extend_of_subset (List.Subset.refl _)
  · rw [← List.singleton_append, union_append, union_singleton hu]
    exact extend_of_subset (List.Subset.refl _)
  · exact ⟨nodup_extend hu other, prefix_extend u other⟩

/-- An alias of a text or a number, next to an optional number. -/
theorem union_ordered_overlapping :
    let scalar : TypeUnion := ⟨["string", "number"]⟩
    let absent : TypeUnion := ⟨["number", "undefined"]⟩
    union [scalar, absent, scalar] = ⟨["string", "number", "undefined"]⟩ ∧
      union [union [scalar, absent], union [scalar]] = union [scalar, absent, scalar] ∧
      union [absent, absent] = absent ∧ scalar.members <+: (scalar.extend absent).members := by
  intro scalar absent
  obtain ⟨hmembers, -, hself, hblocks, hextend⟩ := union_ordered
  have hscalar : scalar.members.Nodup := by decide
  have habsent : absent.members.Nodup := by decide
  refine ⟨?_, hblocks [[scalar, absent], [scalar]], hself absent habsent,
    (hextend scalar absent hscalar).2⟩
  exact congrArg TypeUnion.mk ((hmembers [scalar, absent, scalar]).1.trans (by decide))

end TypeUnion

end TypeGuard
