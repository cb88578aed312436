import TypeGuard.Proofs.Readable

/-!
Neighbours in the canonical layout.

The layout leaves out the blanks around parentheses and before commas, and puts line ends behind the
last token of a line. A relation between kinds holds all along the layout exactly if it holds where
the layout does so. Taken for the relation between kinds that may stand next to each other, this
says when the layout can be cut into tokens at all.
-/

namespace TypeGuard

namespace Canonical

open Grouping Scan

/-- A kind of tokens that stand on a line, white space apart. -/
def Solid (kind : Kind) : Prop := kind.isLayout = false ∧ kind ≠ .newline

/-- Tokens on a line behind a name. Each of them has a blank before it or is related to the one
before, and the last one is related to a line end. -/
def Settled (R : Kind → Kind → Prop) (tokens : List Token) : Prop :=
  (Kind.whitespace :: tokens.map (·.kind)).IsChain (fun p n => isSpaced p n = true ∨ R p n) ∧
    ∀ t ∈ tokens.getLast?, R t.kind .newline

def SettledEntry (R : Kind → Kind → Prop) (e : Entry) : Prop :=
  R .whitespace e.1.kind ∧ Settled R e.2

/-- Declarations whose layout sets next to each other only what may stand so. -/
def Settles (ds : List Declaration) : Prop :=
  ∀ d ∈ ds, ∀ e ∈ entries d, SettledEntry Kind.Beside e

instance (R : Kind → Kind → Prop) [DecidableRel R] : DecidablePred (Settled R) := fun _ =>
  inferInstanceAs (Decidable (_ ∧ _))

instance (R : Kind → Kind → Prop) [DecidableRel R] : DecidablePred (SettledEntry R) := fun _ =>
  inferInstanceAs (Decidable (_ ∧ _))

instance : DecidablePred Settles := fun ds =>
  inferInstanceAs (Decidable (∀ d ∈ ds, ∀ e ∈ entries d, SettledEntry Kind.Beside e))

/-- A relation between kinds that holds wherever the layout is the same for all declarations. -/
structure Regular (R : Kind → Kind → Prop) : Prop where
  reserved : ∀ word, R .newline (.keyword word)
  indent : R .newline .whitespace
  closer : R .newline .closeBrace
  opened : R .openBrace .newline
  closed : R .closeBrace .newline
  blank {kind : Kind} : Solid kind → R kind .whitespace
  spaced {p n : Kind} : isSpaced p n = true → Solid n → R .whitespace n

lemma regular_beside : Regular Kind.Beside where
  reserved word := by cases word <;> decide
  indent := by decide
  closer := by decide
  opened := by decide
  closed := by decide
  blank := by
    intro kind h
    cases kind with
    | keyword word => cases word <;> decide
    | whitespace | comment => exact absurd h.1 (by decide)
    | newline => exact absurd rfl h.2
    | _ => decide
  spaced := by
    intro p n hspaced h
    cases n with
    | keyword word => cases word <;> decide
    | whitespace => exact absurd h.1 (by decide)
    | openParen | closeParen | comma => simp [isSpaced] at hspaced
    | _ => decide

lemma Regular.imp {R S : Kind → Kind → Prop} (h : Regular R) (himp : ∀ {p n}, R p n → S p n) :
    Regular S :=
  ⟨fun word => himp (h.reserved word), himp h.indent, himp h.closer, himp h.opened, himp h.closed,
    fun hk => himp (h.blank hk), fun hs hn => himp (h.spaced hs hn)⟩

lemma regular_apart : Regular Kind.Apart := regular_beside.imp Kind.Beside.apart

/-! ### Chains of kinds -/

section

variable {R : Kind → Kind → Prop}

lemma settled_cons {t : Token} {rest : List Token} :
    Settled R (t :: rest) ↔ (isSpaced .whitespace t.kind = true ∨ R .whitespace t.kind) ∧
      (t.kind :: rest.map (·.kind)).IsChain (fun p n => isSpaced p n = true ∨ R p n) ∧
        ∀ kind ∈ (t.kind :: rest.map (·.kind)).getLast?, R kind .newline := by
  rw [Settled, List.map_cons, List.isChain_cons_cons, ← List.map_cons, List.getLast?_map, and_assoc]
  simp

lemma isChain_expressionAfter (hR : Regular R) {previous : Kind} (hp : Solid previous)
    {tokens : List Token} (h : ∀ t ∈ tokens, Solid t.kind) :
    (previous :: ((expressionTokensAfter previous tokens).map (·.kind) ++ [.newline])).IsChain R ↔
      (previous :: tokens.map (·.kind)).IsChain (fun p n => isSpaced p n = true ∨ R p n) ∧
        ∀ kind ∈ (previous :: tokens.map (·.kind)).getLast?, R kind .newline := by
  induction tokens generalizing previous with
  | nil => simp [expressionTokensAfter]
  | cons t rest ih =>
    obtain ⟨ht, hrest⟩ := List.forall_mem_cons.mp h
    rw [expressionTokensAfter]
    by_cases hspaced : isSpaced previous t.kind = true
    · have hblank : (blanks 1).kind = .whitespace := rfl
      rw [if_pos hspaced, List.singleton_append]
      simp only [List.map_cons, List.cons_append, hblank, List.isChain_cons_cons, hR.blank hp,
        hR.spaced hspaced ht, hspaced, true_and, true_or, ih ht hrest, List.getLast?_cons_cons]
    · rw [if_neg hspaced, List.nil_append]
      simp only [List.map_cons, List.cons_append, List.isChain_cons_cons, hspaced, false_or,
        ih ht hrest, List.getLast?_cons_cons, and_assoc, Bool.false_eq_true]

lemma isChain_expression (hR : Regular R) {tokens : List Token} (hne : tokens ≠ [])
    (h : ∀ t ∈ tokens, Solid t.kind) :
    (.whitespace :: ((expressionTokens tokens).map (·.kind) ++ [.newline])).IsChain R ↔
      Settled R tokens := by
  cases tokens with
  | nil => exact absurd rfl hne
  | cons t rest =>
    obtain ⟨ht, hrest⟩ := List.forall_mem_cons.mp h
    have hfirst : (isSpaced .whitespace t.kind = true ∨ R .whitespace t.kind) ↔
        R .whitespace t.kind :=
      or_iff_right_of_imp fun hspaced => hR.spaced hspaced ht
    rw [settled_cons, hfirst, expressionTokens, List.map_cons, List.cons_append,
      List.isChain_cons_cons, isChain_expressionAfter hR ht hrest]

/-- A chain of lines falls apart at the line ends. -/
lemma isChain_lines {α : Type} (f : α → List Kind) (as : List α) (tail : List Kind) :
    (.newline :: (as.flatMap (fun a => f a ++ [.newline]) ++ tail)).IsChain R ↔
      (∀ a ∈ as, (.newline :: (f a ++ [.newline])).IsChain R) ∧ (.newline :: tail).IsChain R := by
  induction as with
  | nil => simp
  | cons a as ih =>
    have hsplit : Kind.newline :: ((a :: as).flatMap (fun a => f a ++ [.newline]) ++ tail) =
        (.newline :: f a) ++ .newline :: (as.flatMap (fun a => f a ++ [.newline]) ++ tail) := by
      simp
    rw [hsplit, List.isChain_split, ih, List.forall_mem_cons, List.cons_append, and_assoc]

/-! ### Lines, blocks and declarations -/

/-- A line with the blanks of the layout between its tokens. -/
def laid (e : Entry) : Row := (e.1, expressionTokens e.2)

lemma map_settingRow (keyword : Token) (settings : List Setting) :
    settings.map settingRow = (entries (.config keyword settings)).map laid := by
  rw [entries, List.map_map]
  rfl

lemma map_propertyRow (sort : RecordSort) (name : Token) (lines : List PropertyLine) :
    lines.map propertyRow = (entries (.record sort name lines)).map laid := by
  rw [entries, List.map_map]
  rfl

lemma ReadableBlock.solid {es : List Entry} (h : ReadableBlock es) {e : Entry} (he : e ∈ es) :
    Solid e.1.kind ∧ e.2 ≠ [] ∧ ∀ t ∈ e.2, Solid t.kind := by
  have hname := h.name e he
  obtain ⟨hne, hvalue⟩ := h.value e he
  exact ⟨⟨hname.layout, hname.newline⟩, hne, fun t ht =>
    ⟨(hvalue t ht).layout, (hvalue t ht).newline⟩⟩

lemma kinds_row (width : Nat) (e : Entry) :
    (rowTokens width (laid e)).map (·.kind) =
      (.whitespace :: e.1.kind :: .whitespace :: (expressionTokens e.2).map (·.kind)) ++
        [.newline] := by
  simp [rowTokens, laid, blanks, newlines]

lemma isChain_row (hR : Regular R) {e : Entry} (hname : Solid e.1.kind) (hne : e.2 ≠ [])
    (hvalue : ∀ t ∈ e.2, Solid t.kind) :
    (.newline :: ((.whitespace :: e.1.kind :: .whitespace ::
        (expressionTokens e.2).map (·.kind)) ++ [.newline])).IsChain R ↔ SettledEntry R e := by
  simp only [List.cons_append, List.isChain_cons_cons, hR.indent, hR.blank hname, true_and,
    isChain_expression hR hne hvalue, SettledEntry]

lemma isChain_block (hR : Regular R) {previous : Kind} (hp : Solid previous) {es : List Entry}
    (hes : ReadableBlock es) :
    (previous :: ((blockTokens (es.map laid)).map (·.kind) ++ [.newline])).IsChain R ↔
      ∀ e ∈ es, SettledEntry R e := by
  have hkinds : (blockTokens (es.map laid)).map (·.kind) ++ [.newline] =
      .whitespace :: .openBrace :: .newline ::
        (es.flatMap (fun e => (.whitespace :: e.1.kind :: .whitespace ::
          (expressionTokens e.2).map (·.kind)) ++ [.newline]) ++ [.closeBrace, .newline]) := by
    simp only [← kinds_row (rowWidth (es.map laid))]
    simp [blockTokens, blanks, opener, newlines, closer, List.flatMap_map, List.map_flatMap]
  have hopener : R .whitespace .openBrace := hR.spaced (p := .whitespace) rfl ⟨rfl, by decide⟩
  rw [hkinds, List.isChain_cons_cons, List.isChain_cons_cons, List.isChain_cons_cons, isChain_lines]
  simp only [hR.blank hp, hopener, hR.opened, hR.closer, hR.closed, List.isChain_cons_cons,
    List.IsChain.singleton, true_and, and_true]
  refine forall₂_congr fun e he => ?_
  obtain ⟨hname, hne, hvalue⟩ := hes.solid he
  exact isChain_row hR hname hne hvalue

lemma isChain_declaration (hR : Regular R) {d : Declaration} (hd : Readable d) :
    (.newline :: ((declarationTokens d).map (·.kind) ++ [.newline])).IsChain R ↔
      ∀ e ∈ entries d, SettledEntry R e := by
  have hword (word : Keyword) : Solid (.keyword word) := ⟨rfl, by simp⟩
  have hname : R .whitespace .identifier := hR.spaced (p := .whitespace) rfl ⟨rfl, by decide⟩
  have hbehind : R .identifier .whitespace := hR.blank ⟨rfl, by decide⟩
  cases d with
  | config keyword settings =>
    rw [declarationTokens, map_settingRow keyword, List.map_cons, List.cons_append,
      List.isChain_cons_cons]
    simp only [reserved, hR.reserved, true_and]
    exact isChain_block hR (hword _) hd.1
  | typeAlias name body =>
    obtain ⟨hn, hbody⟩ := hd
    simp only [declarationTokens, List.map_cons, List.cons_append, List.isChain_cons_cons, reserved,
      blanks, hn.kind, hR.reserved, hR.blank (hword _), hname, hbehind, true_and,
      isChain_expression hR hbody.ne_nil hbody.solid]
    simp [entries, SettledEntry, hn.kind, hname]
  | record sort name lines =>
    obtain ⟨hn, hlines, -⟩ := hd
    rw [declarationTokens, map_propertyRow sort name]
    simp only [List.map_cons, List.cons_append, List.isChain_cons_cons, reserved, blanks, hn.kind,
      hR.reserved, hR.blank (hword _), hname, true_and]
    exact isChain_block hR ⟨rfl, by decide⟩ hlines

/-! ### Schemas -/

lemma kinds_declarationsAfter (d : Declaration) (ds : List Declaration) :
    (declarationTokens d ++ declarationsTokensAfter d ds).map (·.kind) =
      (d :: ds).flatMap fun d => (declarationTokens d).map (·.kind) ++ [.newline] := by
  induction ds generalizing d with
  | nil => simp [declarationsTokensAfter, newlines]
  | cons e ds ih =>
    rw [declarationsTokensAfter, List.flatMap_cons, ← ih e]
    simp [newlines]

lemma kinds_schema (ds : List Declaration) :
    (schemaTokens ds).map (·.kind) =
      (ordered ds).flatMap fun d => (declarationTokens d).map (·.kind) ++ [.newline] := by
  unfold schemaTokens
  cases ordered ds with
  | nil => rfl
  | cons d rest => exact kinds_declarationsAfter d rest

/-- **A relation holds along the layout** of a schema exactly if it holds along its lines. -/
lemma isChain_schema (hR : Regular R) {ds : List Declaration} (h : ∀ d ∈ ds, Readable d) :
    (.newline :: (schemaTokens ds).map (·.kind)).IsChain R ↔
      ∀ d ∈ ds, ∀ e ∈ entries d, SettledEntry R e := by
  rw [kinds_schema, ← List.append_nil (List.flatMap _ _), isChain_lines]
  simp only [List.IsChain.singleton, and_true, mem_ordered]
  exact forall₂_congr fun d hd => isChain_declaration hR (h d hd)

end

/-! ### Kinds that are told apart -/

lemma mem_of_kindOf?_symbol {c : Char} {kind : Kind}
    (hkind : kind ∈ [Kind.openParen, .closeParen, .comma, .newline])
    (h : Lexeme.kindOf? c = some kind) : c ∈ ['(', ')', ',', '\n'] := by
  by_contra hc
  simp only [List.mem_cons, List.not_mem_nil, or_false, not_or] at hc
  unfold Lexeme.kindOf? at h
  simp only [hc, if_false] at h
  split_ifs at h <;> (obtain rfl := Option.some.inj h; exact absurd hkind (by decide))

lemma apart_symbol {p n : Kind} (hp : Solid p ∨ p = .whitespace)
    (hn : n ∈ [Kind.openParen, .closeParen, .comma, .newline]) : p.Apart n := by
  intro c hc
  have hfamily : ∀ kind ∈ [Kind.openParen, .closeParen, .comma, .newline], kind.family = kind := by
    decide
  rw [hfamily n hn] at hc
  have hsymbol := mem_of_kindOf?_symbol hn hc
  have hstop : Lexeme.isBlank c = false ∧ Lexeme.isNameRest c = false ∧
      (c.isDigit || c == '.') = false := by
    simp only [List.mem_cons, List.not_mem_nil, or_false] at hsymbol
    rcases hsymbol with rfl | rfl | rfl | rfl <;> decide
  obtain ⟨hblank, hname, hdigit⟩ := hstop
  cases p with
  | newline | comment => simp [Solid, Kind.isLayout] at hp
  | whitespace => exact hblank
  | keyword _ | boolean | identifier => exact hname
  | number => exact hdigit
  | _ => rfl

lemma apart_blank {kind : Kind} (h : Solid kind) : Kind.Apart .whitespace kind := by
  intro c hc
  by_contra hblank
  rw [Lexeme.kindOf?_blank (by simpa [Kind.continues] using hblank)] at hc
  obtain rfl := Kind.eq_of_family (Option.some.inj hc).symm (by decide)
  simp [Solid, Kind.isLayout] at h

/-- Where the layout leaves out a blank, no token runs into the next. -/
lemma spaced_or_apart {p n : Kind} (hp : Solid p ∨ p = .whitespace) :
    isSpaced p n = true ∨ p.Apart n := by
  by_cases hspaced : isSpaced p n = true
  · exact .inl hspaced
  · refine .inr ?_
    by_cases hparen : p = .openParen
    · subst hparen
      exact fun _ _ => rfl
    · have hnext : n = .openParen ∨ n = .closeParen ∨ n = .comma := by
        by_contra hnext
        simp only [not_or] at hnext
        exact hspaced (by simp [isSpaced, hparen, hnext])
      refine apart_symbol hp ?_
      rcases hnext with rfl | rfl | rfl <;> decide

lemma settled_apart {tokens : List Token} (h : ∀ t ∈ tokens, Solid t.kind) :
    Settled Kind.Apart tokens := by
  have hchain : ∀ {p : Kind}, Solid p ∨ p = .whitespace → (p :: tokens.map (·.kind)).IsChain
      (fun p n => isSpaced p n = true ∨ p.Apart n) := by
    induction tokens with
    | nil => simp
    | cons t rest ih =>
      intro p hp
      obtain ⟨ht, hrest⟩ := List.forall_mem_cons.mp h
      exact List.isChain_cons_cons.mpr ⟨spaced_or_apart hp, ih hrest (.inl ht)⟩
  refine ⟨hchain (.inr rfl), fun t ht => ?_⟩
  exact apart_symbol (.inl (h t (List.mem_of_getLast? ht))) (by decide)

lemma settledEntry_apart {d : Declaration} (hd : Readable d) :
    ∀ e ∈ entries d, SettledEntry Kind.Apart e := by
  have hblock {es : List Entry} (hes : ReadableBlock es) : ∀ e ∈ es, SettledEntry Kind.Apart e := by
    intro e he
    obtain ⟨hname, -, hvalue⟩ := hes.solid he
    exact ⟨apart_blank hname, settled_apart hvalue⟩
  cases d with
  | config keyword settings => exact hblock hd.1
  | typeAlias name body =>
    have hname : Solid name.kind := by
      rw [hd.1.kind]
      exact ⟨rfl, by decide⟩
    simpa [entries] using ⟨apart_blank hname, settled_apart hd.2.solid⟩
  | record sort name lines => exact hblock hd.2.1

/-! ### Proper tokens -/

lemma proceeds_expressionAfter {previous : Kind} {tokens : List Token} {inBlock behind : Bool}
    (h : Proceeds inBlock tokens behind) :
    Proceeds inBlock (expressionTokensAfter previous tokens) behind := by
  induction tokens generalizing previous inBlock with
  | nil => exact h
  | cons t rest ih =>
    obtain ⟨ht, hrest⟩ := proceeds_cons.mp h
    have htail : Proceeds inBlock (t :: expressionTokensAfter t.kind rest) behind :=
      proceeds_cons.mpr ⟨ht, ih hrest⟩
    rw [expressionTokensAfter]
    split
    · exact proceeds_cons.mpr ⟨proper_blanks inBlock 0, htail⟩
    · exact htail

lemma proceeds_expression {tokens : List Token} {inBlock behind : Bool}
    (h : Proceeds inBlock tokens behind) : Proceeds inBlock (expressionTokens tokens) behind := by
  cases tokens with
  | nil => exact h
  | cons t rest =>
    obtain ⟨ht, hrest⟩ := proceeds_cons.mp h
    exact proceeds_cons.mpr ⟨ht, proceeds_expressionAfter hrest⟩

lemma proceeds_row (width : Nat) {e : Entry} (hname : OnLine e.1) (hvalue : ∀ t ∈ e.2, OnLine t) :
    Proceeds true (rowTokens width (laid e)) true := by
  have hexpression : Proceeds true (expressionTokens e.2) true :=
    proceeds_expression (proceeds_of_forall (fun t ht => (hvalue t ht).proper) fun t ht =>
      (hvalue t ht).brace)
  have hend : Proceeds true [newlines 1] true :=
    proceeds_cons.mpr ⟨proper_newlines true 0, proceeds_nil true⟩
  refine proceeds_cons.mpr ⟨proper_blanks true 3, .cons hname.proper hname.brace ?_⟩
  exact proceeds_cons.mpr ⟨proper_blanks true _, hexpression.append hend⟩

lemma proceeds_block {es : List Entry} (h : ReadableBlock es) :
    Proceeds false (blockTokens (es.map laid)) false := by
  have hrows : Proceeds true ((es.map laid).flatMap (rowTokens (rowWidth (es.map laid)))) true := by
    refine proceeds_flatMap fun r hr => ?_
    obtain ⟨e, he, rfl⟩ := List.mem_map.mp hr
    exact proceeds_row _ (h.name e he) (h.value e he).2
  have hclose : Proceeds true [closer] false :=
    proceeds_cons.mpr ⟨proper_closer true, proceeds_nil false⟩
  refine proceeds_cons.mpr ⟨proper_blanks false 0, proceeds_cons.mpr ⟨proper_opener false, ?_⟩⟩
  exact proceeds_cons.mpr ⟨proper_newlines true 0, hrows.append hclose⟩

lemma proceeds_declaration {d : Declaration} (hd : Readable d) :
    Proceeds false (declarationTokens d) false := by
  have hnamed {name : Token} {rest : List Token} (hname : IsName false name)
      (hrest : Proceeds false rest false) : Proceeds false (blanks 1 :: name :: rest) false := by
    have hbrace : name.kind ≠ .openBrace ∧ name.kind ≠ .closeBrace := by simp [hname.kind]
    exact proceeds_cons.mpr ⟨proper_blanks false 0, .cons hname.proper hbrace hrest⟩
  cases d with
  | config keyword settings =>
    rw [declarationTokens, map_settingRow keyword]
    exact proceeds_cons.mpr ⟨proper_reserved _, proceeds_block hd.1⟩
  | typeAlias name body =>
    have hbody := proceeds_cons.mpr ⟨proper_blanks false 0, proceeds_expression hd.2.proceeds⟩
    exact proceeds_cons.mpr ⟨proper_reserved _, hnamed hd.1 hbody⟩
  | record sort name lines =>
    rw [declarationTokens, map_propertyRow sort name]
    exact proceeds_cons.mpr ⟨proper_reserved _, hnamed hd.1 (proceeds_block hd.2.1)⟩

lemma proceeds_declarationsAfter {d : Declaration} {ds : List Declaration} (hd : Readable d)
    (hds : ∀ e ∈ ds, Readable e) :
    Proceeds false (declarationTokens d ++ declarationsTokensAfter d ds) false := by
  refine (proceeds_declaration hd).append ?_
  induction ds generalizing d with
  | nil => exact proceeds_cons.mpr ⟨proper_newlines false 0, proceeds_nil false⟩
  | cons e ds ih =>
    obtain ⟨he, hds⟩ := List.forall_mem_cons.mp hds
    have hgap : Proper false (newlines (if isAlias d && isAlias e then 1 else 2)) := by
      split
      · exact proper_newlines false 0
      · exact proper_newlines false 1
    exact proceeds_cons.mpr ⟨hgap, (proceeds_declaration he).append (ih he hds)⟩

lemma proceeds_schema {ds : List Declaration} (h : ∀ d ∈ ds, Readable d) :
    Proceeds false (schemaTokens ds) false := by
  have hordered : ∀ d ∈ ordered ds, Readable d := fun d hd => h d (mem_ordered.mp hd)
  unfold schemaTokens
  cases hds : ordered ds with
  | nil => exact proceeds_nil false
  | cons d rest =>
    rw [hds] at hordered
    obtain ⟨hd, hrest⟩ := List.forall_mem_cons.mp hordered
    exact proceeds_declarationsAfter hd hrest

/-! ### The text of the layout -/

lemma head_schema (ds : List Declaration) :
    ∀ t ∈ (schemaTokens ds).head?, ∃ word, t.kind = .keyword word := by
  unfold schemaTokens
  cases ordered ds with
  | nil => simp
  | cons d rest => cases d <;> simp [declarationTokens, reserved]

lemma chained_schema {ds : List Declaration} (h : ∀ d ∈ ds, Readable d) (hsettled : Settles ds) :
    Chained none false (schemaTokens ds) := by
  have hchain := List.isChain_cons.mp ((isChain_schema regular_beside h).mpr hsettled)
  refine chained_of_isChain (proceeds_schema h).proper (fun t ht => ?_) hchain.2
  obtain ⟨word, hword⟩ := head_schema ds t ht
  rw [hword]
  cases word <;> decide

/-- **The layout is cut into tokens** exactly if the neighbours on each line may stand next to each
other as the layout sets them. -/
lemma tokenize_schema_iff {ds : List Declaration} (h : ∀ d ∈ ds, Readable d) :
    (∃ us, tokenize (schema ds) = .ok us) ↔ Settles ds := by
  constructor
  · rintro ⟨us, hus⟩
    have hapart := (isChain_schema regular_apart h).mpr fun d hd => settledEntry_apart (h d hd)
    have htokens : tokensFrom .initial 0 (characters (schemaTokens ds)) = .ok us := by
      rw [characters_schema]
      exact hus
    -- tokens that are told apart are the only ones that can be found in the text
    obtain ⟨-, hchain⟩ := isChain_of_tokensFrom (s := .initial) (proceeds_schema h).proper
      (List.isChain_cons.mp hapart).2 htokens
    refine (isChain_schema regular_beside h).mp ?_
    refine List.isChain_cons.mpr ⟨fun kind hkind => ?_, hchain⟩
    rw [List.head?_map] at hkind
    obtain ⟨t, ht, rfl⟩ := Option.map_eq_some_iff.mp hkind
    obtain ⟨word, hword⟩ := head_schema ds t ht
    rw [hword]
    exact regular_beside.reserved word
  · intro hsettled
    obtain ⟨us, hus, -⟩ := tokenize_of_chained (chained_schema h hsettled) (characters_schema ds)
    exact ⟨us, hus⟩

end Canonical

end TypeGuard
