import Mathlib.Data.List.TakeWhile
import TypeGuard.Declaration.Grouping
import TypeGuard.Proofs.Nesting
import TypeGuard.Proofs.Outcome

/-!
Grouping accepts exactly the token lists that consist of declarations, and keeps their tokens.

The grammar is written down as relations between tokens and what they declare: lines, blocks,
declarations, and sequences of declarations with newlines between them. Each reader is then shown to
succeed on exactly the tokens that its relation allows in front of the rest.
-/

namespace TypeGuard.Grouping

open Outcome

/-- The lines of a block: the longest runs of tokens between newlines that are not empty. -/
inductive Lines : List Token → List (List Token) → Prop where
  | nil : Lines [] []
  | newline {t : Token} {rest : List Token} {ls : List (List Token)} :
      t.kind = .newline → Lines rest ls → Lines (t :: rest) ls
  | last {line : List Token} :
      line ≠ [] → (∀ t ∈ line, t.kind ≠ .newline) → Lines line [line]
  | line {line rest : List Token} {t : Token} {ls : List (List Token)} :
      line ≠ [] → (∀ t ∈ line, t.kind ≠ .newline) → t.kind = .newline → Lines rest ls →
      Lines (line ++ t :: rest) (line :: ls)

/-- A block and its lines: newlines, then tokens without braces between two braces. -/
inductive Block : List Token → List (List Token) → Prop where
  | mk {gap body : List Token} {opener closer : Token} {ls : List (List Token)} :
      (∀ t ∈ gap, t.kind = .newline) → opener.kind = .openBrace →
      (∀ t ∈ body, t.kind ≠ .openBrace ∧ t.kind ≠ .closeBrace) → Lines body ls →
      closer.kind = .closeBrace → Block (gap ++ opener :: (body ++ [closer])) ls

/-- A line of a configuration block: two tokens, the second one with the kind of its text. -/
inductive SettingLine : List Token → Setting → Prop where
  | mk (key value : Token) :
      SettingLine [key, value] ⟨key, { value with kind := valueKind value }⟩

/-- A line of a record: a name and at least one more token. -/
inductive FieldLine : List Token → PropertyLine → Prop where
  | mk {name : Token} {expression : List Token} :
      name.kind = .identifier → expression ≠ [] → FieldLine (name :: expression) ⟨name, expression⟩

inductive Spells : Declaration → List Token → Prop where
  | config {keyword : Token} {block : List Token} {ls : List (List Token)}
      {settings : List Setting} :
      keyword.kind = .keyword .config → Block block ls → List.Forall₂ SettingLine ls settings →
      Spells (.config keyword settings) (keyword :: block)
  | typeAlias {keyword name : Token} {body : List Token} :
      keyword.kind = .keyword .typeAlias → name.kind = .identifier → body ≠ [] →
      (∀ t ∈ body, t.kind ≠ .newline) → Spells (.typeAlias name body) (keyword :: name :: body)
  | record {sort : RecordSort} {keyword name : Token} {block : List Token}
      {ls : List (List Token)} {properties : List PropertyLine} :
      keyword.kind = .keyword sort.keyword → name.kind = .identifier → Block block ls →
      List.Forall₂ FieldLine ls properties →
      Spells (.record sort name properties) (keyword :: name :: block)

/-- What may stand behind a declaration. The body of an alias runs to the end of its line. -/
def MayPrecede : Declaration → List Token → Prop
  | .typeAlias .., tail => ∀ t ∈ tail.head?, t.kind = .newline
  | _, _ => True

/-- Tokens that are a sequence of declarations, with newlines around them. -/
inductive Declares : List Token → List Declaration → Prop where
  | nil : Declares [] []
  | newline {t : Token} {rest : List Token} {ds : List Declaration} :
      t.kind = .newline → Declares rest ds → Declares (t :: rest) ds
  | declaration {d : Declaration} {front tail : List Token} {ds : List Declaration} :
      Spells d front → MayPrecede d tail → Declares tail ds → Declares (front ++ tail) (d :: ds)

/-! ### Lines -/

lemma isNewline_iff {t : Token} : isNewline t = true ↔ t.kind = .newline := by
  simp [isNewline]

lemma splitRuns_of_forall {line : List Token} (h : ∀ t ∈ line, t.kind ≠ .newline) :
    splitRuns line = [line] := by
  induction line with
  | nil => rfl
  | cons t rest ih =>
    have ht : isNewline t = false := by simpa [isNewline] using h t (by simp)
    simp [splitRuns, ht, ih fun u hu => h u (by simp [hu])]

lemma splitRuns_append {line : List Token} (h : ∀ t ∈ line, t.kind ≠ .newline) {n : Token}
    (hn : n.kind = .newline) (rest : List Token) :
    splitRuns (line ++ n :: rest) = line :: splitRuns rest := by
  induction line with
  | nil => simp [splitRuns, isNewline_iff.mpr hn]
  | cons t line ih =>
    have ht : isNewline t = false := by simpa [isNewline] using h t (by simp)
    simp [splitRuns, ht, ih fun u hu => h u (by simp [hu])]

lemma lines_map (body : List Token) :
    ((lines body).map fun l => l.1 :: l.2) = (splitRuns body).filter (!·.isEmpty) := by
  unfold lines
  induction splitRuns body with
  | nil => rfl
  | cons run runs ih => cases run <;> simp [ih]

lemma Lines.eq_filter {body : List Token} {ls : List (List Token)} (h : Lines body ls) :
    ls = (splitRuns body).filter (!·.isEmpty) := by
  induction h with
  | nil => rfl
  | newline ht _ ih => simpa [splitRuns, isNewline_iff.mpr ht] using ih
  | last hne hl => rw [splitRuns_of_forall hl]; simp [hne]
  | line hne hl ht _ ih => rw [splitRuns_append hl ht]; simp [hne, ← ih]

lemma exists_line (body : List Token) : ∃ line, (∀ t ∈ line, t.kind ≠ .newline) ∧
    (body = line ∨ ∃ n rest, n.kind = .newline ∧ body = line ++ n :: rest) := by
  induction body with
  | nil => exact ⟨[], by simp, .inl rfl⟩
  | cons t rest ih =>
    by_cases ht : t.kind = .newline
    · exact ⟨[], by simp, .inr ⟨t, rest, ht, rfl⟩⟩
    · obtain ⟨line, hl, hb⟩ := ih
      refine ⟨t :: line, by simpa [ht] using hl, ?_⟩
      obtain rfl | ⟨n, rest', hn, rfl⟩ := hb
      · exact .inl rfl
      · exact .inr ⟨n, rest', hn, rfl⟩

lemma exists_lines (body : List Token) : ∃ ls, Lines body ls := by
  induction hn : body.length using Nat.strongRecOn generalizing body with
  | ind k ih =>
    obtain ⟨line, hl, rfl | ⟨n, rest, hnl, rfl⟩⟩ := exists_line body
    · by_cases hne : body = []
      · exact ⟨[], hne ▸ .nil⟩
      · exact ⟨_, .last hne hl⟩
    · obtain ⟨ls, hls⟩ := ih rest.length (by simp at hn; omega) rest rfl
      by_cases hne : line = []
      · exact ⟨ls, by simpa [hne] using Lines.newline hnl hls⟩
      · exact ⟨_, .line hne hl hnl hls⟩

/-- **The lines of a block are the lines of its grammar.** -/
lemma lines_iff {body : List Token} {ls : List (List Token)} :
    Lines body ls ↔ ls = (lines body).map fun l => l.1 :: l.2 := by
  rw [lines_map]
  constructor
  · exact Lines.eq_filter
  · rintro rfl
    obtain ⟨ls, hls⟩ := exists_lines body
    exact hls.eq_filter ▸ hls

/-! ### Readers -/

lemma expect_eq_ok {kind : Kind} {what : Expectation} {anchor t : Token}
    {tokens rest : List Token} :
    expect kind what anchor tokens = .ok (t, rest) ↔ tokens = t :: rest ∧ t.kind = kind := by
  cases tokens with
  | nil => simp [expect]
  | cons u tokens =>
    by_cases hu : u.kind = kind
    · simp only [expect, hu, if_true, Except.ok.injEq, Prod.mk.injEq, List.cons.injEq]
      constructor
      · rintro ⟨rfl, rfl⟩; exact ⟨⟨rfl, rfl⟩, hu⟩
      · exact fun h => h.1
    · simp only [expect, hu, if_false, reduceCtorEq, List.cons.injEq, false_iff]
      rintro ⟨⟨rfl, -⟩, h⟩
      exact hu h

/-- The closing brace of a block is the first brace behind its opening one. -/
lemma block_eq_ok {opener : Token} {tokens rest : List Token} {ls : List (Token × List Token)} :
    block opener tokens = .ok (ls, rest) ↔ ∃ body closer, tokens = body ++ closer :: rest ∧
      (∀ t ∈ body, t.kind ≠ .openBrace ∧ t.kind ≠ .closeBrace) ∧ closer.kind = .closeBrace ∧
      ls = lines body := by
  have hno : ∀ t : Token, (!isBrace t) = true ↔ t.kind ≠ .openBrace ∧ t.kind ≠ .closeBrace := by
    simp [isBrace]
  constructor
  · intro h
    have htw : ∀ t ∈ tokens.takeWhile (!isBrace ·), (!isBrace t) = true :=
      fun t ht => List.mem_takeWhile_imp (p := (!isBrace ·)) ht
    have hsplit := List.takeWhile_append_dropWhile (p := (!isBrace ·)) (l := tokens)
    unfold block at h
    rcases hd : tokens.dropWhile (!isBrace ·) with _ | ⟨closer, rest'⟩
    · simp [hd] at h
    · rw [hd] at h hsplit
      simp only at h
      split at h
      · next hk =>
        simp only [Except.ok.injEq, Prod.mk.injEq] at h
        obtain ⟨rfl, rfl⟩ := h
        exact ⟨_, closer, hsplit.symm, fun t ht => (hno t).mp (htw t ht), hk, rfl⟩
      · simp at h
  · rintro ⟨body, closer, rfl, hbody, hk, rfl⟩
    have hb : ∀ t ∈ body, (!isBrace t) = true := fun t ht => (hno t).mpr (hbody t ht)
    have hc : (!isBrace closer) = false := by simp [isBrace, hk]
    have h1 : (body ++ closer :: rest).takeWhile (!isBrace ·) = body := by
      rw [List.takeWhile_append_of_pos hb, List.takeWhile_cons_of_neg (by simp [hc]),
        List.append_nil]
    have h2 : (body ++ closer :: rest).dropWhile (!isBrace ·) = closer :: rest := by
      rw [List.dropWhile_append_of_pos hb, List.dropWhile_cons_of_neg (by simp [hc])]
    simp [block, h1, h2, hk]

lemma block_iff {what : Expectation} {anchor : Token} {tokens behind : List Token}
    {ls : List (Token × List Token)} :
    (∃ opener rest, expect .openBrace what anchor (tokens.dropWhile isNewline) =
        .ok (opener, rest) ∧ block opener rest = .ok (ls, behind)) ↔
      ∃ front, tokens = front ++ behind ∧ Block front (ls.map fun l => l.1 :: l.2) := by
  simp only [expect_eq_ok, block_eq_ok]
  constructor
  · rintro ⟨opener, rest, ⟨hdrop, ho⟩, body, closer, rfl, hbody, hc, rfl⟩
    have hsplit := List.takeWhile_append_dropWhile (p := isNewline) (l := tokens)
    refine ⟨tokens.takeWhile isNewline ++ opener :: (body ++ [closer]), ?_, ?_⟩
    · conv_lhs => rw [← hsplit, hdrop]
      simp
    · exact .mk (fun t ht => isNewline_iff.mp (List.mem_takeWhile_imp ht)) ho hbody
        (lines_iff.mpr rfl) hc
  · rintro ⟨front, rfl, hb⟩
    generalize hls : ls.map (fun l => l.1 :: l.2) = ls' at hb
    obtain @⟨gap, body, opener, closer, _, hgap, ho, hbody, hl, hc⟩ := hb
    have hne : isNewline opener = false := by simp [isNewline, ho]
    refine ⟨opener, body ++ closer :: behind, ⟨?_, ho⟩, body, closer, rfl, hbody, hc, ?_⟩
    · rw [List.append_assoc, List.dropWhile_append_of_pos fun t ht => isNewline_iff.mpr (hgap t ht)]
      simp [hne]
    · rw [lines_iff, ← hls] at hl
      exact (List.map_injective_iff.mpr fun a b h => by
        simpa [Prod.ext_iff] using h) hl

lemma setting_eq_ok {l : Token × List Token} {s : Setting} :
    setting l = .ok s ↔ SettingLine (l.1 :: l.2) s := by
  obtain ⟨key, rest⟩ := l
  constructor
  · intro h
    rcases rest with _ | ⟨value, _ | ⟨third, rest⟩⟩
    · simp [setting] at h
    · obtain rfl : _ = s := by simpa [setting] using h
      exact .mk key value
    · simp [setting] at h
  · intro h
    generalize hl : ((key, rest) : Token × List Token).1 :: (key, rest).2 = line at h
    obtain ⟨key', value⟩ := h
    obtain ⟨rfl, rfl⟩ : key = key' ∧ rest = [value] := by simpa using hl
    rfl

lemma property_eq_ok {l : Token × List Token} {p : PropertyLine} :
    property l = .ok p ↔ FieldLine (l.1 :: l.2) p := by
  obtain ⟨name, expression⟩ := l
  constructor
  · intro h
    simp only [property] at h
    split at h
    · simp at h
    · next hk =>
      split at h
      · simp at h
      · next he =>
        obtain rfl : _ = p := by simpa using h
        exact .mk (by simpa using hk) (by simpa using he)
  · intro h
    generalize hl : ((name, expression) : Token × List Token).1 :: (name, expression).2 = line at h
    obtain @⟨name', expression', hk, he⟩ := h
    obtain ⟨rfl, rfl⟩ : name = name' ∧ expression = expression' := by simpa using hl
    simp [property, hk, he]

lemma mapM_setting {ls : List (Token × List Token)} {settings : List Setting} :
    ls.mapM setting = .ok settings ↔
      List.Forall₂ SettingLine (ls.map fun l => l.1 :: l.2) settings := by
  rw [mapM_eq_ok, List.forall₂_map_left_iff]
  simp only [setting_eq_ok]

lemma mapM_property {ls : List (Token × List Token)} {properties : List PropertyLine} :
    ls.mapM property = .ok properties ↔
      List.Forall₂ FieldLine (ls.map fun l => l.1 :: l.2) properties := by
  rw [mapM_eq_ok, List.forall₂_map_left_iff]
  simp only [property_eq_ok]

/-- The lines of a block are pairs of a first token and the others. -/
lemma Block.exists_pairs {front : List Token} {ls : List (List Token)} (h : Block front ls) :
    ∃ pairs : List (Token × List Token), ls = pairs.map fun l => l.1 :: l.2 := by
  obtain ⟨-, -, -, hl, -⟩ := h
  exact ⟨_, lines_iff.mp hl⟩

lemma config_eq_ok {keyword : Token} {tokens behind : List Token} {d : Declaration} :
    config keyword tokens = .ok (d, behind) ↔ ∃ front ls settings, tokens = front ++ behind ∧
      Block front ls ∧ List.Forall₂ SettingLine ls settings ∧ d = .config keyword settings := by
  have hread : config keyword tokens = .ok (d, behind) ↔ ∃ ls settings,
      (∃ opener rest, expect .openBrace (.block "config") keyword (tokens.dropWhile isNewline) =
        .ok (opener, rest) ∧ block opener rest = .ok (ls, behind)) ∧
      ls.mapM setting = .ok settings ∧ d = .config keyword settings := by
    simp only [config, bind_eq_ok, pure_eq_ok, Prod.exists, Prod.mk.injEq]
    constructor
    · rintro ⟨opener, rest, h1, ls, behind, h2, settings, h3, rfl, rfl⟩
      exact ⟨ls, settings, ⟨opener, rest, h1, h2⟩, h3, rfl⟩
    · rintro ⟨ls, settings, ⟨opener, rest, h1, h2⟩, h3, rfl⟩
      exact ⟨opener, rest, h1, ls, behind, h2, settings, h3, rfl, rfl⟩
  rw [hread]
  simp only [block_iff, mapM_setting]
  constructor
  · rintro ⟨ls, settings, ⟨front, rfl, hb⟩, hs, rfl⟩
    exact ⟨front, _, settings, rfl, hb, hs, rfl⟩
  · rintro ⟨front, _, settings, rfl, hb, hs, rfl⟩
    obtain ⟨ls, rfl⟩ := hb.exists_pairs
    exact ⟨ls, settings, ⟨front, rfl, hb⟩, hs, rfl⟩

lemma record_eq_ok {sort : RecordSort} {keyword : Token} {tokens behind : List Token}
    {d : Declaration} :
    record sort keyword tokens = .ok (d, behind) ↔ ∃ name front ls properties,
      tokens = name :: (front ++ behind) ∧ name.kind = .identifier ∧ Block front ls ∧
      List.Forall₂ FieldLine ls properties ∧ d = .record sort name properties := by
  have hread : record sort keyword tokens = .ok (d, behind) ↔ ∃ name rest ls properties,
      (tokens = name :: rest ∧ name.kind = .identifier) ∧
      (∃ opener rest', expect .openBrace (.block name.text) name (rest.dropWhile isNewline) =
        .ok (opener, rest') ∧ block opener rest' = .ok (ls, behind)) ∧
      ls.mapM property = .ok properties ∧ d = .record sort name properties := by
    simp only [record, bind_eq_ok, pure_eq_ok, Prod.exists, Prod.mk.injEq]
    constructor
    · rintro ⟨name, rest, h0, opener, rest', h1, ls, behind, h2, properties, h3, rfl, rfl⟩
      exact ⟨name, rest, ls, properties, expect_eq_ok.mp h0, ⟨opener, rest', h1, h2⟩, h3, rfl⟩
    · rintro ⟨name, rest, ls, properties, h0, ⟨opener, rest', h1, h2⟩, h3, rfl⟩
      exact ⟨name, rest, expect_eq_ok.mpr h0, opener, rest', h1, ls, behind, h2, properties, h3,
        rfl, rfl⟩
  rw [hread]
  simp only [block_iff, mapM_property]
  constructor
  · rintro ⟨name, rest, ls, properties, ⟨rfl, hn⟩, ⟨front, rfl, hb⟩, hp, rfl⟩
    exact ⟨name, front, _, properties, rfl, hn, hb, hp, rfl⟩
  · rintro ⟨name, front, _, properties, rfl, hn, hb, hp, rfl⟩
    obtain ⟨ls, rfl⟩ := hb.exists_pairs
    exact ⟨name, _, ls, properties, ⟨rfl, hn⟩, ⟨front, rfl, hb⟩, hp, rfl⟩

lemma typeAlias_eq_ok {keyword : Token} {tokens behind : List Token} {d : Declaration} :
    typeAlias keyword tokens = .ok (d, behind) ↔ ∃ name body tail,
      tokens = name :: (body ++ tail) ∧ name.kind = .identifier ∧ body ≠ [] ∧
      (∀ t ∈ body, t.kind ≠ .newline) ∧ (∀ t ∈ tail.head?, t.kind = .newline) ∧
      behind = tail.drop 1 ∧ d = .typeAlias name body := by
  have hno : ∀ t : Token, (!isNewline t) = true ↔ t.kind ≠ .newline := by simp [isNewline]
  simp only [typeAlias, bind_eq_ok, Prod.exists, expect_eq_ok]
  constructor
  · rintro ⟨name, rest, ⟨rfl, hn⟩, h⟩
    have hsplit := List.takeWhile_append_dropWhile (p := (!isNewline ·)) (l := rest)
    have hbody : ∀ t ∈ rest.takeWhile (!isNewline ·), t.kind ≠ .newline :=
      fun t ht => (hno t).mp (List.mem_takeWhile_imp (p := (!isNewline ·)) ht)
    have htail : ∀ t ∈ (rest.dropWhile (!isNewline ·)).head?, t.kind = .newline := by
      intro t ht
      have := List.head?_dropWhile_not (!isNewline ·) rest
      rw [Option.mem_def.mp ht] at this
      simpa [isNewline] using this
    split at h
    · exact absurd h throw_ne_ok
    · next body hne =>
      simp only [pure_eq_ok, Prod.mk.injEq] at h
      obtain ⟨rfl, rfl⟩ := h
      exact ⟨name, _, _, by rw [hsplit], hn, hne, hbody, htail, rfl, rfl⟩
  · rintro ⟨name, body, tail, rfl, hn, hne, hbody, htail, rfl, rfl⟩
    have hb : ∀ t ∈ body, (!isNewline t) = true := fun t ht => (hno t).mpr (hbody t ht)
    have h1 : (body ++ tail).takeWhile (!isNewline ·) = body := by
      rw [List.takeWhile_append_of_pos hb]
      cases tail <;> simp_all [isNewline]
    have h2 : (body ++ tail).dropWhile (!isNewline ·) = tail := by
      rw [List.dropWhile_append_of_pos hb]
      cases tail <;> simp_all [isNewline]
    refine ⟨name, body ++ tail, ⟨rfl, hn⟩, ?_⟩
    rw [h1, h2]
    cases body with
    | nil => exact absurd rfl hne
    | cons t body => rfl

/-- The tokens to go on with behind a declaration: the newline that ends an alias is passed. -/
def passed : Declaration → List Token → List Token
  | .typeAlias .., tail => tail.drop 1
  | _, tail => tail

/-- **Reading a declaration** takes exactly its tokens off the front. -/
lemma declaration_eq_ok {first : Token} {rest behind : List Token} {d : Declaration} :
    declaration first rest = .ok (d, behind) ↔ ∃ front tail, first :: rest = front ++ tail ∧
      Spells d front ∧ MayPrecede d tail ∧ behind = passed d tail := by
  constructor
  · intro h
    unfold declaration at h
    split at h
    · next hk =>
      obtain ⟨front, ls, settings, rfl, hb, hs, rfl⟩ := config_eq_ok.mp h
      exact ⟨first :: front, behind, rfl, .config hk hb hs, trivial, rfl⟩
    · next hk =>
      obtain ⟨name, body, tail, rfl, hn, hne, hbody, htail, rfl, rfl⟩ := typeAlias_eq_ok.mp h
      exact ⟨first :: name :: body, tail, rfl, .typeAlias hk hn hne hbody, htail, rfl⟩
    · next hk =>
      obtain ⟨name, front, ls, properties, rfl, hn, hb, hp, rfl⟩ := record_eq_ok.mp h
      exact ⟨first :: name :: front, behind, rfl, .record hk hn hb hp, trivial, rfl⟩
    · next hk =>
      obtain ⟨name, front, ls, properties, rfl, hn, hb, hp, rfl⟩ := record_eq_ok.mp h
      exact ⟨first :: name :: front, behind, rfl, .record hk hn hb hp, trivial, rfl⟩
    · simp at h
  · rintro ⟨front, tail, hsplit, hspell, hend, rfl⟩
    cases hspell with
    | config hk hb hs =>
      obtain ⟨rfl, rfl⟩ := List.cons_eq_cons.mp hsplit
      simp only [declaration, hk]
      exact config_eq_ok.mpr ⟨_, _, _, rfl, hb, hs, rfl⟩
    | typeAlias hk hn hne hbody =>
      obtain ⟨rfl, rfl⟩ := List.cons_eq_cons.mp hsplit
      simp only [declaration, hk]
      exact typeAlias_eq_ok.mpr ⟨_, _, tail, rfl, hn, hne, hbody, hend, rfl, rfl⟩
    | @record sort keyword name block ls properties hk hn hb hp =>
      obtain ⟨rfl, rfl⟩ := List.cons_eq_cons.mp hsplit
      have hread : record sort first (name :: (block ++ tail)) =
          .ok (.record sort name properties, tail) :=
        record_eq_ok.mpr ⟨name, block, ls, properties, rfl, hn, hb, hp, rfl⟩
      cases sort with
      | definition => rw [declaration, hk]; exact hread
      | model => rw [declaration, hk]; exact hread

lemma passed_suffix (d : Declaration) (tail : List Token) : passed d tail <:+ tail := by
  cases d with
  | typeAlias name body => exact List.drop_suffix 1 tail
  | config keyword settings => exact List.suffix_rfl
  | record sort name properties => exact List.suffix_rfl

lemma Spells.exists_cons {d : Declaration} {front : List Token} (h : Spells d front) :
    ∃ t rest, front = t :: rest ∧ t.kind ≠ .newline := by
  cases h with
  | config hk _ _ => exact ⟨_, _, rfl, by simp [hk]⟩
  | typeAlias hk _ _ _ => exact ⟨_, _, rfl, by simp [hk]⟩
  | record hk _ _ _ => exact ⟨_, _, rfl, by simp [hk]⟩

/-- Behind a declaration, passing the newline that ends it or reading it makes no difference. -/
lemma declarationsFrom_passed {d : Declaration} {tail : List Token} (hend : MayPrecede d tail) :
    declarationsFrom 0 (passed d tail) = declarationsFrom 0 tail := by
  cases d with
  | typeAlias name body =>
    cases tail with
    | nil => rfl
    | cons n rest =>
      have hn : n.kind = .newline := hend n (by simp)
      simp [passed, declarationsFrom, isNewline_iff.mpr hn]
  | config keyword settings => rfl
  | record sort name properties => rfl

lemma declarationsFrom_declaration {d : Declaration} {front tail : List Token}
    (hs : Spells d front) (hend : MayPrecede d tail) :
    declarationsFrom 0 (front ++ tail) = (declarationsFrom 0 tail).map (d :: ·) := by
  obtain ⟨t, rest, rfl, ht⟩ := hs.exists_cons
  have hread : declaration t (rest ++ tail) = .ok (d, passed d tail) :=
    declaration_eq_ok.mpr ⟨_, tail, rfl, hs, hend, rfl⟩
  have hdrop : (rest ++ tail).drop ((rest ++ tail).length - (passed d tail).length) =
      passed d tail :=
    (List.suffix_iff_eq_drop.mp ((passed_suffix d tail).trans (List.suffix_append _ _))).symm
  have hn : isNewline t = false := by simpa [isNewline] using ht
  rw [List.cons_append, declarationsFrom, hn, hread]
  simp only [Bool.false_eq_true, if_false]
  rw [declarationsFrom_skip, hdrop, declarationsFrom_passed hend]
  cases declarationsFrom 0 tail <;> rfl

lemma declares_of_eq_ok {tokens : List Token} {ds : List Declaration}
    (h : declarationsFrom 0 tokens = .ok ds) : Declares tokens ds := by
  induction hn : tokens.length using Nat.strongRecOn generalizing tokens ds with
  | ind k ih =>
    cases tokens with
    | nil =>
      obtain rfl : [] = ds := by simpa [declarationsFrom] using h
      exact .nil
    | cons t rest =>
      by_cases ht : t.kind = .newline
      · rw [declarationsFrom, isNewline_iff.mpr ht, if_pos rfl] at h
        exact .newline ht (ih _ (by simp at hn; omega) h rfl)
      · -- the reader of the first declaration says where the others start
        have hread : ∃ d behind, declaration t rest = .ok (d, behind) := by
          rw [declarationsFrom, if_neg (by simpa [isNewline] using ht)] at h
          split at h
          · simp at h
          · exact ⟨_, _, by assumption⟩
        obtain ⟨d, behind, hd⟩ := hread
        obtain ⟨front, tail, hsplit, hs, hend, -⟩ := declaration_eq_ok.mp hd
        rw [hsplit, declarationsFrom_declaration hs hend] at h
        have hlen : tail.length < k := by
          obtain ⟨u, front, rfl, -⟩ := hs.exists_cons
          have := congrArg List.length hsplit
          simp at this hn
          omega
        rcases hm : declarationsFrom 0 tail with e | more
        · simp [hm, Except.map] at h
        · obtain rfl : d :: more = ds := by simpa [hm, Except.map] using h
          exact hsplit ▸ .declaration hs hend (ih _ hlen hm rfl)

lemma eq_ok_of_declares {tokens : List Token} {ds : List Declaration} (h : Declares tokens ds) :
    declarationsFrom 0 tokens = .ok ds := by
  induction h with
  | nil => rfl
  | newline ht _ ih => rw [declarationsFrom, isNewline_iff.mpr ht, if_pos rfl, ih]
  | declaration hs hend _ ih => rw [declarationsFrom_declaration hs hend, ih]; rfl

def Filled : Declaration → Prop
  | .config .. => True
  | .typeAlias _ body => body ≠ []
  | .record _ _ properties => ∀ p ∈ properties, p.expression ≠ []

lemma fieldLines_filled {ls : List (List Token)} {properties : List PropertyLine}
    (h : List.Forall₂ FieldLine ls properties) : ∀ p ∈ properties, p.expression ≠ [] := by
  induction h with
  | nil => simp
  | cons hline _ ih =>
    obtain ⟨-, hne⟩ := hline
    exact List.forall_mem_cons.mpr ⟨hne, ih⟩

lemma Spells.filled {d : Declaration} {front : List Token} (h : Spells d front) : Filled d := by
  cases h with
  | config _ _ _ => trivial
  | typeAlias _ _ hne _ => exact hne
  | record _ _ _ hp => exact fieldLines_filled hp

lemma Declares.filled {tokens : List Token} {ds : List Declaration} (h : Declares tokens ds) :
    ∀ d ∈ ds, Filled d := by
  induction h with
  | nil => simp
  | newline _ _ ih => exact ih
  | declaration hs _ _ ih => exact List.forall_mem_cons.mpr ⟨hs.filled, ih⟩

/-- The nesting is checked first, and does not change what is read. -/
lemma group_eq_ok {tokens : List Token} {ds : List Declaration} :
    group tokens = .ok ds ↔ Nesting.check tokens = .ok () ∧
      declarationsFrom 0 (tokens.filter (!·.kind.isLayout)) = .ok ds := by
  simp only [group, bind_eq_ok]
  constructor
  · rintro ⟨⟨⟩, hcheck, h⟩
    exact ⟨hcheck, h⟩
  · rintro ⟨hcheck, h⟩
    exact ⟨(), hcheck, h⟩

/-- **Grouping is exact**: it succeeds on the well nested token lists that, apart from white space
and comments, are sequences of declarations, and gives these declarations with their tokens. -/
theorem group_eq_ok_iff (tokens : List Token) (ds : List Declaration) :
    group tokens = .ok ds ↔
      Nesting.WellNested tokens ∧ Declares (tokens.filter (!·.kind.isLayout)) ds := by
  rw [group_eq_ok, Nesting.check_eq_ok_iff]
  exact and_congr_right fun _ => ⟨declares_of_eq_ok, eq_ok_of_declares⟩

end TypeGuard.Grouping
