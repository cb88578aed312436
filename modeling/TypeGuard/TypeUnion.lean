
/-!
Unions of type names, in the order in which the names were first contributed.
-/

namespace TypeGuard

structure TypeUnion where
  members : List String
  deriving DecidableEq, Repr, Inhabited

namespace TypeUnion

def empty : TypeUnion := ⟨[]⟩

def named (name : String) : TypeUnion := ⟨[name]⟩

/-- Adds a type at the end, unless it is a member already. -/
def insert (u : TypeUnion) (name : String) : TypeUnion :=
  if name ∈ u.members then u else ⟨u.members ++ [name]⟩

def extend (u other : TypeUnion) : TypeUnion :=
  other.members.foldl insert u

/-- The union of given types; repeats are dropped. -/
def ofList (names : List String) : TypeUnion :=
  names.foldl insert empty

def union (parts : List TypeUnion) : TypeUnion :=
  parts.foldl extend empty

/-- The text of a union; a union of nothing is the unknown type. -/
def text (u : TypeUnion) : String :=
  match u.members with
  | [] => "unknown"
  | members => String.intercalate " | " members

@[simp] theorem extend_empty (u : TypeUnion) : u.extend empty = u := rfl

theorem mem_insert {u : TypeUnion} {name other : String} :
    other ∈ (u.insert name).members ↔ other ∈ u.members ∨ other = name := by
  unfold insert
  split
  · constructor
    · exact Or.inl
    · rintro (h | rfl)
      · exact h
      · assumption
  · simp

end TypeUnion

end TypeGuard
