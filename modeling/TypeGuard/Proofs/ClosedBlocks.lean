import TypeGuard.Proofs.Brackets
import TypeGuard.Proofs.Grouping

/-!
A block is never read past the end of the tokens.

The tokens that declarations are read from are always the last part of all tokens, whatever brackets
the body of an alias has passed over. So in well nested tokens, the brace that opens a block has its
closing brace among the tokens behind it, and the reader of the block meets a brace before it runs
out of tokens.
-/

namespace TypeGuard

open Outcome

namespace Grouping

/-! ### The blocks that are read -/

/-- The tokens that declarations are still to be read from, at some point of reading all of them. -/
inductive Reaches : List Token → List Token → Prop where
  | here {tokens : List Token} : Reaches tokens tokens
  | newline {t : Token} {rest place : List Token} :
      isNewline t = true → Reaches rest place → Reaches (t :: rest) place
  | declaration {t : Token} {rest behind place : List Token} {d : Declaration} :
      isNewline t = false → declaration t rest = .ok (d, behind) → Reaches behind place →
      Reaches (t :: rest) place

/-- The declaration that starts with a token has a block: its opening brace, and the tokens that its
lines are read from. -/
inductive Opens (first : Token) (rest : List Token) : Token → List Token → Prop where
  | config {opener : Token} {tokens : List Token} : first.kind = .keyword .config →
      expect .openBrace (.block "config") first (rest.dropWhile isNewline) = .ok (opener, tokens) →
      Opens first rest opener tokens
  | record {sort : RecordSort} {name opener : Token} {behind tokens : List Token} :
      first.kind = .keyword sort.keyword →
      expect .identifier (.name first.text) first rest = .ok (name, behind) →
      expect .openBrace (.block name.text) name (behind.dropWhile isNewline) =
        .ok (opener, tokens) → Opens first rest opener tokens

lemma suffix_of_declaration {first : Token} {rest behind : List Token} {d : Declaration}
    (h : declaration first rest = .ok (d, behind)) : behind <:+ rest := by
  obtain ⟨front, tail, hsplit, hspells, -, rfl⟩ := declaration_eq_ok.mp h
  obtain ⟨t, front, rfl, -⟩ := hspells.exists_cons
  obtain ⟨-, rfl⟩ := List.cons.inj hsplit
  exact (passed_suffix d tail).trans (List.suffix_append front tail)

lemma Reaches.suffix {tokens place : List Token} (h : Reaches tokens place) : place <:+ tokens := by
  induction h with
  | here => exact List.suffix_rfl
  | newline _ _ ih => exact ih.trans (List.suffix_cons _ _)
  | declaration _ hread _ ih =>
    exact (ih.trans (suffix_of_declaration hread)).trans (List.suffix_cons _ _)

lemma suffix_of_expect {kind : Kind} {what : Expectation} {anchor t : Token}
    {tokens rest : List Token} (h : expect kind what anchor tokens = .ok (t, rest)) :
    t :: rest <:+ tokens := by
  obtain ⟨rfl, -⟩ := expect_eq_ok.mp h
  exact List.suffix_rfl

lemma Opens.suffix {first opener : Token} {rest tokens : List Token}
    (h : Opens first rest opener tokens) :
    opener :: tokens <:+ rest ∧ opener.kind = .openBrace := by
  cases h with
  | config _ hopener =>
    exact ⟨(suffix_of_expect hopener).trans (List.dropWhile_suffix _), (expect_eq_ok.mp hopener).2⟩
  | record _ hname hopener =>
    have hbehind := (List.suffix_cons _ _).trans (suffix_of_expect hname)
    exact ⟨((suffix_of_expect hopener).trans (List.dropWhile_suffix _)).trans hbehind,
      (expect_eq_ok.mp hopener).2⟩

lemma exists_brace {tokens place : List Token} {first opener : Token} {rest : List Token}
    (hnested : Nesting.run [] tokens = .ok []) (hreach : Reaches tokens (first :: rest))
    (hopens : Opens first rest opener place) : ∃ t ∈ place, isBrace t = true := by
  obtain ⟨hsuffix, hopener⟩ := hopens.suffix
  obtain ⟨front, rfl⟩ := (hsuffix.trans (List.suffix_cons first rest)).trans hreach.suffix
  have hpair : Nesting.Pair opener.kind .closeBrace := hopener ▸ .brace
  obtain ⟨inner, closer, behind, rfl, -, hcloser⟩ := Nesting.exists_closer_of_run hpair hnested
  refine ⟨closer, by simp, ?_⟩
  rw [hopener] at hcloser
  generalize hkind : closer.kind = kind at hcloser
  cases hcloser
  simp [isBrace, hkind]

/-! ### Rejections -/

/-- A structural rejection for another reason than a block without an end. -/
def Ordinary (d : Diagnostic) : Prop :=
  ∃ t : Token, ∃ problem, problem ≠ .endlessBlock ∧ d = t.malformed problem

lemma ordinary_of_eq {α : Type} {t : Token} {problem : StructuralProblem} {d : Diagnostic}
    (hproblem : problem ≠ .endlessBlock)
    (h : (.error (t.malformed problem) : Except Diagnostic α) = .error d) : Ordinary d :=
  ⟨t, problem, hproblem, (Except.error.inj h).symm⟩

variable {tokens : List Token} {d : Diagnostic}

lemma check_ordinary (h : Nesting.check tokens = .error d) : Ordinary d := by
  rcases Nesting.check_eq_error.mp h with hrun | ⟨last, outer, -, rfl⟩
  · obtain ⟨front, t, behind, left, -, -, hstep⟩ := Nesting.run_eq_error.mp hrun
    obtain ⟨kind, -, ⟨-, rfl⟩ | ⟨last, outer, -, -, rfl⟩⟩ := Nesting.step_eq_error hstep
    · exact ⟨t, _, by simp, rfl⟩
    · exact ⟨t, _, by simp, rfl⟩
  · exact ⟨last, _, by simp, rfl⟩

lemma expect_ordinary {kind : Kind} {what : Expectation} {anchor : Token}
    (h : expect kind what anchor tokens = .error d) : Ordinary d := by
  cases tokens with
  | nil => exact ordinary_of_eq (by simp) h
  | cons t rest =>
    rw [expect] at h
    split at h
    · simp at h
    · exact ordinary_of_eq (by simp) h

lemma setting_ordinary {l : Token × List Token} (h : setting l = .error d) : Ordinary d := by
  unfold setting at h
  split at h
  · simp at h
  · exact ordinary_of_eq (by simp) h

lemma property_ordinary {l : Token × List Token} (h : property l = .error d) : Ordinary d := by
  obtain ⟨name, expression⟩ := l
  simp only [property] at h
  split at h
  · exact ordinary_of_eq (by simp) h
  · split at h
    · exact ordinary_of_eq (by simp) h
    · simp at h

lemma block_ordinary {opener : Token} (hbrace : ∃ t ∈ tokens, isBrace t = true)
    (h : block opener tokens = .error d) : Ordinary d := by
  unfold block at h
  split at h
  · next hnone =>
    obtain ⟨t, ht, hbrace⟩ := hbrace
    have hall := List.dropWhile_eq_nil_iff.mp hnone t ht
    simp [hbrace] at hall
  · split at h
    · simp at h
    · exact ordinary_of_eq (by simp) h

/-- Behind its head, a declaration with a block reads the block and then its lines. -/
lemma body_ordinary {α : Type} {read : Token × List Token → Except Diagnostic α}
    {make : List α → Declaration} {what : Expectation} {anchor : Token}
    (hread : ∀ l d, read l = .error d → Ordinary d)
    (hbrace : ∀ opener rest,
      expect .openBrace what anchor (tokens.dropWhile isNewline) = .ok (opener, rest) →
      ∃ t ∈ rest, isBrace t = true)
    (h : (do
      let (opener, rest) ← expect .openBrace what anchor (tokens.dropWhile isNewline)
      let (ls, rest) ← block opener rest
      let items ← ls.mapM read
      return (make items, rest)) = .error d) : Ordinary d := by
  rcases bind_eq_error.mp h with h | ⟨⟨opener, rest⟩, hopener, h⟩
  · exact expect_ordinary h
  · rcases bind_eq_error.mp h with h | ⟨⟨ls, behind⟩, -, h⟩
    · exact block_ordinary (hbrace opener rest hopener) h
    · rcases bind_eq_error.mp h with h | ⟨items, -, h⟩
      · obtain ⟨l, -, he⟩ := mapM_error h
        exact hread l d he
      · exact absurd h pure_ne_error

lemma typeAlias_ordinary {keyword : Token} (h : typeAlias keyword tokens = .error d) :
    Ordinary d := by
  rcases bind_eq_error.mp h with h | ⟨⟨name, rest⟩, -, h⟩
  · exact expect_ordinary h
  · simp only at h
    split at h
    · exact ordinary_of_eq (by simp) h
    · exact absurd h pure_ne_error

lemma record_ordinary {sort : RecordSort} {first : Token}
    (hkind : first.kind = .keyword sort.keyword)
    (hbrace : ∀ opener place, Opens first tokens opener place → ∃ t ∈ place, isBrace t = true)
    (h : record sort first tokens = .error d) : Ordinary d := by
  rcases bind_eq_error.mp h with h | ⟨⟨name, rest⟩, hname, h⟩
  · exact expect_ordinary h
  · exact body_ordinary (fun l d => property_ordinary)
      (fun opener place hopener => hbrace opener place (.record hkind hname hopener)) h

lemma declaration_ordinary {first : Token}
    (hbrace : ∀ opener place, Opens first tokens opener place → ∃ t ∈ place, isBrace t = true)
    (h : declaration first tokens = .error d) : Ordinary d := by
  unfold declaration at h
  split at h
  · next hkind =>
    exact body_ordinary (fun l d => setting_ordinary)
      (fun opener place hopener => hbrace opener place (.config hkind hopener)) h
  · exact typeAlias_ordinary h
  · next hkind => exact record_ordinary hkind hbrace h
  · next hkind => exact record_ordinary hkind hbrace h
  · exact ordinary_of_eq (by simp) h

lemma exists_declaration_error (h : declarationsFrom 0 tokens = .error d) :
    ∃ first rest, Reaches tokens (first :: rest) ∧ declaration first rest = .error d := by
  induction hn : tokens.length using Nat.strongRecOn generalizing tokens with
  | ind k ih =>
    cases tokens with
    | nil => simp [declarationsFrom] at h
    | cons t rest =>
      have hlength : rest.length < k := by simp [← hn]
      rw [declarationsFrom] at h
      split at h
      · next hnewline =>
        obtain ⟨first, behind, hreach, herror⟩ := ih _ hlength h rfl
        exact ⟨first, behind, .newline hnewline hreach, herror⟩
      · next hnewline =>
        split at h
        · next hread =>
          obtain rfl := Except.error.inj h
          exact ⟨t, rest, .here, hread⟩
        · next e behind hread =>
          have hsuffix := suffix_of_declaration hread
          -- the tokens passed over are those of the declaration
          rw [declarationsFrom_skip, ← List.suffix_iff_eq_drop.mp hsuffix] at h
          split at h
          · next hmore =>
            obtain rfl := Except.error.inj h
            have hle := hsuffix.length_le
            obtain ⟨first, behind', hreach, herror⟩ := ih _ (by omega) hmore rfl
            exact ⟨first, behind', .declaration (by simpa using hnewline) hread hreach, herror⟩
          · simp at h

/-- Well nested tokens are rejected for another reason than a block without an end. -/
lemma declarationsFrom_ordinary (hnested : Nesting.run [] tokens = .ok [])
    (h : declarationsFrom 0 tokens = .error d) : Ordinary d := by
  obtain ⟨first, rest, hreach, herror⟩ := exists_declaration_error h
  exact declaration_ordinary (fun opener place => exists_brace hnested hreach) herror

end Grouping

/-! ### The wording -/

lemma Token.head?_describe (t : Token) : t.describe.toList.head? ≠ some 'e' := by
  cases hk : t.kind with
  | keyword word => cases word <;> simp [Token.describe, hk, Kind.label, Keyword.text]
  | _ => simp [Token.describe, hk, Kind.label]

/-- The wording of a block without an end belongs to no other problem. -/
lemma StructuralProblem.message_ne {problem : StructuralProblem} (h : problem ≠ .endlessBlock) :
    problem.message ≠ "Unexpected end of input, block is never closed" := by
  intro heq
  have hlist := congrArg String.toList heq
  rw [StructuralProblem.message.eq_def] at hlist
  cases problem with
  | endlessBlock => exact h rfl
  | notADeclaration found =>
    simp only [String.toList_append] at hlist
    simp at hlist
    exact found.head?_describe (by rw [hlist]; rfl)
  | _ => simp at hlist

lemma Grouping.Ordinary.message_ne {d : Diagnostic} (h : Ordinary d) :
    d.cause.message ≠ "Unexpected end of input, block is never closed" := by
  obtain ⟨t, problem, hproblem, rfl⟩ := h
  exact StructuralProblem.message_ne hproblem

open Grouping

/-- **No block is read past the end of the tokens.** Grouping never says that a block is not closed,
as the nesting has been checked before: wherever the lines of a block are read, a brace comes before
the end of the tokens. -/
theorem blocks_meet_braces (tokens : List Token) :
    (∀ d, group tokens = .error d →
      d.cause.message ≠ "Unexpected end of input, block is never closed") ∧
    (Nesting.check tokens = .ok () → ∀ first rest opener place,
      Reaches (tokens.filter (!·.kind.isLayout)) (first :: rest) →
      Opens first rest opener place →
      ∃ inside brace behind, place = inside ++ brace :: behind ∧
        (∀ t ∈ inside, t.kind ≠ .openBrace ∧ t.kind ≠ .closeBrace) ∧
        (brace.kind = .closeBrace ∨ brace.kind = .openBrace)) := by
  have hnested (hcheck : Nesting.check tokens = .ok ()) :
      Nesting.run [] (tokens.filter (!·.kind.isLayout)) = .ok [] := by
    rw [Nesting.run_filter_layout]
    exact Nesting.wellNested_iff.mp (Nesting.check_eq_ok_iff.mp hcheck)
  refine ⟨fun d h => ?_, fun hcheck first rest opener place hreach hopens => ?_⟩
  · rcases bind_eq_error.mp h with h | ⟨⟨⟩, hcheck, h⟩
    · exact (check_ordinary h).message_ne
    · exact (declarationsFrom_ordinary (hnested hcheck) h).message_ne
  · have hbrace := List.find?_isSome.mpr (exists_brace (hnested hcheck) hreach hopens)
    obtain ⟨brace, hfind⟩ := Option.isSome_iff_exists.mp hbrace
    obtain ⟨hbrace, inside, behind, hplace, hinside⟩ := List.find?_eq_some_iff_append.mp hfind
    refine ⟨inside, brace, behind, hplace, fun t ht => ?_, ?_⟩
    · simpa [isBrace] using hinside t ht
    · simpa [isBrace, or_comm] using hbrace

/-- Tokens whose aliases have brackets around a block, which holds another block. -/
def straddlingTokens : List Token :=
  [token (.keyword .typeAlias) "alias", token .identifier "A", token .openParen "(",
    token .newline "\n", token (.keyword .config) "config", token .openBrace "\x7b",
    token .identifier "a", token .openBrace "\x7b", token .closeBrace "\x7d",
    token .closeBrace "\x7d", token .newline "\n", token (.keyword .typeAlias) "alias",
    token .identifier "B", token .closeParen ")"]
where
  token (kind : Kind) (text : String) : Token := ⟨kind, text, .start⟩

theorem blocks_meet_braces_straddling :
    ∃ d first rest opener place, group straddlingTokens = .error d ∧
      d.cause.message ≠ "Unexpected end of input, block is never closed" ∧
      Nesting.check straddlingTokens = .ok () ∧
      Reaches (straddlingTokens.filter (!·.kind.isLayout)) (first :: rest) ∧
      Opens first rest opener place ∧ ∃ inside brace behind, place = inside ++ brace :: behind ∧
        (brace.kind = .closeBrace ∨ brace.kind = .openBrace) := by
  have hgroup : group straddlingTokens =
      .error ((straddlingTokens.token .openBrace "\x7b").malformed .nestedBlock) := rfl
  have hcheck : Nesting.check straddlingTokens = .ok () := rfl
  have hreach : Reaches (straddlingTokens.filter (!·.kind.isLayout)) (straddlingTokens.drop 4) :=
    .declaration rfl rfl .here
  have hopens : Opens (straddlingTokens.token (.keyword .config) "config")
      (straddlingTokens.drop 5) (straddlingTokens.token .openBrace "\x7b")
      (straddlingTokens.drop 6) := .config rfl rfl
  obtain ⟨hmessage, hplaces⟩ := blocks_meet_braces straddlingTokens
  obtain ⟨inside, brace, behind, hplace, -, hbrace⟩ := hplaces hcheck _ _ _ _ hreach hopens
  exact ⟨_, _, _, _, _, hgroup, hmessage _ hgroup, hcheck, hreach, hopens, inside, brace, behind,
    hplace, hbrace⟩

end TypeGuard
