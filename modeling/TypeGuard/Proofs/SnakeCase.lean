import Mathlib.Computability.Language
import TypeGuard.Schema.Basic

/-!
Names in snake case, and the generated names that collide.

The names in snake case are the regular language `[a-z]+(_[a-z]+)*`. It has two equations, one for
the start of a word and one for the places behind a letter. Behind a letter the part up to the next
underscore may be empty, and at the start of a word it may not. A model with a name in snake case is
named with an underscore put before it, where another model may have one of its own. No other
declarations have the same generated name.
-/

namespace TypeGuard

open scoped Computability

namespace SnakeCase

def oneOf (sort : Char → Prop) : Language Char := {text | ∃ c, sort c ∧ text = [c]}

/-- A lower-case letter, `[a-z]`. -/
def letter : Language Char := oneOf fun c => 'a' ≤ c ∧ c ≤ 'z'

def underscore : Language Char := oneOf (· = '_')

/-- A word, `[a-z]+`. -/
def word : Language Char := letter * letter∗

/-- Words with single underscores between them, `[a-z]+(_[a-z]+)*`. -/
def names : Language Char := word * (underscore * word)∗

/-- What may follow a letter of a name, `[a-z]*(_[a-z]+)*`. -/
def endings : Language Char := letter∗ * (underscore * word)∗

/-! ### The language -/

/-- **At the start of a word** a letter has to follow. -/
lemma names_eq : names = letter * endings := by
  unfold names endings
  nth_rewrite 1 [word]
  exact mul_assoc _ _ _

/-- **Behind a letter** the name ends, a new word starts, or the word goes on. -/
lemma endings_eq : endings = 1 + underscore * names + letter * endings := by
  calc endings
      = (1 + letter * letter∗) * (underscore * word)∗ := by
        rw [Language.one_add_self_mul_kstar_eq_kstar, endings]
    _ = (underscore * word)∗ + letter * endings := by
        rw [add_mul, one_mul, mul_assoc, endings]
    _ = 1 + underscore * word * (underscore * word)∗ + letter * endings := by
        rw [Language.one_add_self_mul_kstar_eq_kstar]
    _ = 1 + underscore * names + letter * endings := by
        rw [mul_assoc, names]

lemma nil_notMem_oneOf_mul (sort : Char → Prop) (l : Language Char) : [] ∉ oneOf sort * l := by
  rw [Language.mem_mul]
  rintro ⟨-, ⟨c, -, rfl⟩, rest, -, hnil⟩
  simp at hnil

lemma cons_mem_oneOf_mul {sort : Char → Prop} {l : Language Char} {c : Char} {rest : List Char} :
    c :: rest ∈ oneOf sort * l ↔ sort c ∧ rest ∈ l := by
  rw [Language.mem_mul]
  constructor
  · rintro ⟨-, ⟨d, hd, rfl⟩, more, hmore, heq⟩
    obtain ⟨rfl, rfl⟩ := List.cons.inj heq
    exact ⟨hd, hmore⟩
  · rintro ⟨hc, hrest⟩
    exact ⟨[c], ⟨c, hc, rfl⟩, rest, hrest, rfl⟩

lemma cons_mem_names {c : Char} {rest : List Char} :
    c :: rest ∈ names ↔ ('a' ≤ c ∧ c ≤ 'z') ∧ rest ∈ endings := by
  rw [names_eq]
  exact cons_mem_oneOf_mul

lemma cons_mem_endings {c : Char} {rest : List Char} :
    c :: rest ∈ endings ↔
      c = '_' ∧ rest ∈ names ∨ ('a' ≤ c ∧ c ≤ 'z') ∧ rest ∈ endings := by
  conv_lhs => rw [endings_eq, Language.mem_add, Language.mem_add, Language.mem_one]
  simp only [List.cons_ne_nil, false_or]
  exact or_congr cons_mem_oneOf_mul cons_mem_oneOf_mul

/-- **The parts between underscores** are words exactly in the names, and so are they in the endings
if the first part may be empty. -/
lemma splitOn_iff (text : List Char) :
    ∃ first words, text.splitOn '_' = first :: words ∧
      ((first :: words).all isLowerWord = true ↔ text ∈ names) ∧
      ((first.all fun c => 'a' ≤ c && c ≤ 'z') = true ∧ words.all isLowerWord = true ↔
        text ∈ endings) := by
  induction text with
  | nil =>
    have hnames : [] ∉ names := by
      rw [names_eq]
      exact nil_notMem_oneOf_mul _ _
    have hendings : [] ∈ endings := by
      rw [endings_eq]
      exact .inl (.inl rfl)
    exact ⟨[], [], List.splitOn_nil '_', by simp [isLowerWord, hnames], by simp [hendings]⟩
  | cons c rest ih =>
    obtain ⟨first, words, hsplit, hstart, hbehind⟩ := ih
    rw [List.splitOn_cons_eq_if_modifyHead, hsplit, cons_mem_names, cons_mem_endings, ← hstart,
      ← hbehind]
    by_cases hc : c = '_'
    · have hletter : ¬ 'a' ≤ '_' := by decide
      exact ⟨[], first :: words, by simp [hc], by simp [isLowerWord, hc, hletter],
        by simp [hc, hletter]⟩
    · exact ⟨c :: first, words, by simp [hc], by simp [isLowerWord, and_assoc],
        by simp [hc, and_assoc]⟩

end SnakeCase

lemma isSnakeCase_iff {name : String} :
    isSnakeCase name = true ↔ name.toList ∈ SnakeCase.names := by
  obtain ⟨first, words, hsplit, hnames, -⟩ := SnakeCase.splitOn_iff name.toList
  rw [isSnakeCase, hsplit]
  exact hnames

/-! ### Generated names -/

namespace Role

lemma eq_of_symbol_eq {role role' : Role} {name name' : String}
    (h : role.symbol name = role'.symbol name') : role = role' := by
  have hinitial : role.initial = role'.initial := by
    have hhead := head?_symbol role' name'
    rw [← h, head?_symbol] at hhead
    exact Option.some.inj hhead
  rcases role with _ | (_ | _) <;> rcases role' with _ | (_ | _) <;> simp_all [initial]

/-- Apart from models, a generated name tells the name that it is made from. -/
lemma symbol_injective {role : Role} (hrole : role ≠ record .model) :
    Function.Injective role.symbol := by
  intro name name' h
  rcases role with _ | (_ | _)
  · exact String.append_right_inj "alias$" |>.mp h
  · exact String.append_right_inj "def$" |>.mp h
  · exact absurd rfl hrole

lemma symbol_model_of_snakeCase {name : String} (h : isSnakeCase name = true) :
    (record .model).symbol name = "is" ++ ("_" ++ name) := by
  rw [symbol, if_pos h, ← String.append_assoc]
  rfl

lemma symbol_model_of_not_snakeCase {name : String} (h : ¬ isSnakeCase name = true) :
    (record .model).symbol name = "is" ++ name := by
  rw [symbol, if_neg h]

lemma isSnakeCase_underscore (name : String) : ¬ isSnakeCase ("_" ++ name) = true := by
  simp [isSnakeCase, isLowerWord, List.splitOn_cons_eq_if_modifyHead]

lemma symbol_model_eq_iff {name name' : String} (hne : name ≠ name') :
    (record .model).symbol name = (record .model).symbol name' ↔
      isSnakeCase name = true ∧ name' = "_" ++ name ∨
        isSnakeCase name' = true ∧ name = "_" ++ name' := by
  by_cases h : isSnakeCase name = true
  · by_cases h' : isSnakeCase name' = true
    · -- both names follow the same word
      have hname : name' ≠ "_" ++ name := fun heq => isSnakeCase_underscore name (heq ▸ h')
      have hname' : name ≠ "_" ++ name' := fun heq => isSnakeCase_underscore name' (heq ▸ h)
      simp [symbol_model_of_snakeCase h, symbol_model_of_snakeCase h', hne, hname, hname']
    · rw [symbol_model_of_snakeCase h, symbol_model_of_not_snakeCase h', String.append_right_inj]
      simp [h, h', eq_comm]
  · by_cases h' : isSnakeCase name' = true
    · rw [symbol_model_of_not_snakeCase h, symbol_model_of_snakeCase h', String.append_right_inj]
      simp [h, h']
    · rw [symbol_model_of_not_snakeCase h, symbol_model_of_not_snakeCase h',
        String.append_right_inj]
      simp [h, h', hne]

end Role

/-- **Generated names collide in snake case only.** Two declarations that differ in role or in name
have the same generated name exactly if both are models, and the name of one of them is in snake
case and that of the other is the same with an underscore before it. A name is in snake case exactly
if it belongs to the language `[a-z]+(_[a-z]+)*`. -/
theorem symbols_collide_iff :
    (∀ (role role' : Role) (name name' : String), (role, name) ≠ (role', name') →
      (role.symbol name = role'.symbol name' ↔
        role = .record .model ∧ role' = .record .model ∧
          (isSnakeCase name = true ∧ name' = "_" ++ name ∨
            isSnakeCase name' = true ∧ name = "_" ++ name'))) ∧
    ∀ name : String, isSnakeCase name = true ↔ name.toList ∈ SnakeCase.names := by
  refine ⟨fun role role' name name' hne => ?_, fun name => isSnakeCase_iff⟩
  by_cases hmodels : role = .record .model ∧ role' = .record .model
  · obtain ⟨rfl, rfl⟩ := hmodels
    have hnames : name ≠ name' := fun heq => hne (by rw [heq])
    rw [Role.symbol_model_eq_iff hnames]
    simp
  · constructor
    · intro h
      obtain rfl := Role.eq_of_symbol_eq h
      have hrole : role ≠ .record .model := fun heq => hmodels ⟨heq, heq⟩
      exact absurd (congrArg (role, ·) (Role.symbol_injective hrole h)) hne
    · rintro ⟨hrole, hrole', -⟩
      exact absurd ⟨hrole, hrole'⟩ hmodels

/-- Two models with one generated name, and two that keep theirs apart. -/
theorem symbols_collide_iff_underscored :
    (Role.record .model).symbol "user_id" = (Role.record .model).symbol "_user_id" ∧
      (Role.record .model).symbol "userId" ≠ (Role.record .model).symbol "_userId" ∧
      "user_id".toList ∈ SnakeCase.names ∧ "user__id".toList ∉ SnakeCase.names := by
  obtain ⟨hcollide, hlanguage⟩ := symbols_collide_iff
  refine ⟨?_, ?_, (hlanguage _).mp (by decide), fun h => ?_⟩
  · rw [hcollide _ _ "user_id" "_user_id" (by decide)]
    exact ⟨rfl, rfl, .inl ⟨by decide, by decide⟩⟩
  · rw [ne_eq, hcollide _ _ "userId" "_userId" (by decide)]
    decide
  · exact absurd ((hlanguage _).mpr h) (by decide)

end TypeGuard
