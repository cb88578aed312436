import TypeGuard.Proofs.Spacing

/-!
The canonical layout is grouped into the declarations that were laid out.

White space apart, the tokens of a line are its name and its expression, those of a block its lines,
and those of a schema its declarations. So a layout that is cut into tokens at all is grouped into
the declarations that were laid out.
-/

namespace TypeGuard

namespace Canonical

open Grouping Scan

/-- The tokens that are not white space or comments. -/
def significant (ts : List Token) : List Token := ts.filter (!·.kind.isLayout)

lemma significant_cons_of_layout {t : Token} (ts : List Token) (h : t.kind.isLayout = true) :
    significant (t :: ts) = significant ts :=
  List.filter_cons_of_neg (by simpa using h)

lemma significant_cons {t : Token} (ts : List Token) (h : t.kind.isLayout = false) :
    significant (t :: ts) = t :: significant ts :=
  List.filter_cons_of_pos (by simpa using h)

lemma significant_append (ts us : List Token) :
    significant (ts ++ us) = significant ts ++ significant us :=
  List.filter_append ..

lemma run_significant (opened ts : List Token) :
    Nesting.run opened (significant ts) = Nesting.run opened ts :=
  Nesting.run_filter_layout opened ts

/-! ### Lines and blocks -/

lemma significant_expressionAfter {previous : Kind} {tokens : List Token}
    (h : ∀ t ∈ tokens, t.kind.isLayout = false) :
    significant (expressionTokensAfter previous tokens) = tokens := by
  induction tokens generalizing previous with
  | nil => rfl
  | cons t rest ih =>
    obtain ⟨ht, hrest⟩ := List.forall_mem_cons.mp h
    rw [expressionTokensAfter, significant_append, significant_cons _ ht, ih hrest]
    split <;> rfl

lemma significant_expression {tokens : List Token} (h : ∀ t ∈ tokens, t.kind.isLayout = false) :
    significant (expressionTokens tokens) = tokens := by
  cases tokens with
  | nil => rfl
  | cons t rest =>
    obtain ⟨ht, hrest⟩ := List.forall_mem_cons.mp h
    rw [expressionTokens, significant_cons _ ht, significant_expressionAfter hrest]

lemma significant_row (width : Nat) {e : Entry} (hname : OnLine e.1)
    (hvalue : ∀ t ∈ e.2, OnLine t) :
    significant (rowTokens width (laid e)) = line e ++ [newlines 1] := by
  have hexpression : significant (expressionTokens e.2) = e.2 :=
    significant_expression fun t ht => (hvalue t ht).layout
  rw [rowTokens, laid, significant_cons_of_layout _ rfl, significant_cons _ hname.layout,
    significant_cons_of_layout _ rfl, significant_append, hexpression]
  rfl

lemma onLine_of_mem_line {es : List Entry} (h : ReadableBlock es) {e : Entry} (he : e ∈ es) :
    ∀ t ∈ line e, OnLine t :=
  List.forall_mem_cons.mpr ⟨h.name e he, (h.value e he).2⟩

lemma significant_rows (width : Nat) {es : List Entry} (h : ReadableBlock es) :
    significant ((es.map laid).flatMap (rowTokens width)) =
      es.flatMap fun e => line e ++ [newlines 1] := by
  rw [List.flatMap_map, significant, List.filter_flatMap]
  refine List.flatMap_congr fun e he => ?_
  exact significant_row width (h.name e he) (h.value e he).2

lemma lines_rows {es : List Entry} (h : ∀ e ∈ es, ∀ t ∈ line e, OnLine t) :
    Lines (es.flatMap fun e => line e ++ [newlines 1]) (es.map line) := by
  induction es with
  | nil => exact .nil
  | cons e es ih =>
    obtain ⟨he, hes⟩ := List.forall_mem_cons.mp h
    rw [List.flatMap_cons, List.append_assoc]
    exact .line (by simp [line]) (fun t ht => (he t ht).newline) rfl (ih hes)

lemma significant_block {es : List Entry} (h : ReadableBlock es) :
    significant (blockTokens (es.map laid)) = opener ::
      (newlines 1 :: (es.flatMap fun e => line e ++ [newlines 1]) ++ [closer]) := by
  rw [blockTokens, significant_cons_of_layout _ rfl, significant_cons _ rfl,
    significant_cons _ rfl, significant_append, significant_rows _ h]
  rfl

lemma block_rows {es : List Entry} (h : ReadableBlock es) :
    Block (significant (blockTokens (es.map laid))) (es.map line) := by
  have hlines := lines_rows fun e he => onLine_of_mem_line h he
  rw [significant_block h]
  refine @Block.mk [] _ _ _ _ (by simp) rfl (fun t ht => ?_) (.newline rfl hlines) rfl
  rcases List.mem_cons.mp ht with rfl | ht
  · exact ⟨by decide, by decide⟩
  · obtain ⟨e, he, ht⟩ := List.mem_flatMap.mp ht
    rcases List.mem_append.mp ht with ht | ht
    · exact (onLine_of_mem_line h he t ht).brace
    · obtain rfl := List.mem_singleton.mp ht
      exact ⟨by decide, by decide⟩

lemma nested_block {es : List Entry} (h : ReadableBlock es) :
    Nesting.WellNested (significant (blockTokens (es.map laid))) := by
  have hlines := lines_rows fun e he => onLine_of_mem_line h he
  have hnested : Nesting.WellNested (es.map line).flatten := by
    rw [← List.flatMap_def]
    exact h.nested
  have hnewline : (newlines 1).kind ∉ Nesting.brackets := by decide
  rw [significant_block h]
  exact .pair .brace (.other hnewline ((wellNested_lines hlines).mp hnested)) .nil

/-! ### Declarations -/

/-- A declaration with the reserved word of the layout in front of its settings. -/
def rehead : Declaration → Declaration
  | .config _ settings => .config (reserved .config) settings
  | d => d

lemma rehead_alike (d : Declaration) : d.Alike (rehead d) := by
  have hrefl : ∀ ts : List Token, List.Forall₂ Token.Alike ts ts := fun ts =>
    List.forall₂_same.mpr fun t _ => .refl t
  cases d with
  | config keyword settings =>
    exact .config (List.forall₂_same.mpr fun s _ => ⟨.refl _, .refl _⟩)
  | typeAlias name body => exact .typeAlias (.refl _) (hrefl body)
  | record sort name lines =>
    exact .record (.refl _) (List.forall₂_same.mpr fun p _ => ⟨.refl _, hrefl _⟩)

lemma significant_declaration {d : Declaration} (hd : Readable d) :
    significant (declarationTokens d) =
      match d with
      | .config _ _ => reserved .config :: significant (blockTokens ((entries d).map laid))
      | .typeAlias name body => reserved .typeAlias :: name :: body
      | .record sort name _ =>
        reserved sort.keyword :: name :: significant (blockTokens ((entries d).map laid)) := by
  cases d with
  | config keyword settings =>
    rw [declarationTokens, map_settingRow keyword]
    exact significant_cons _ rfl
  | typeAlias name body =>
    obtain ⟨hname, hbody⟩ := hd
    rw [declarationTokens, significant_cons _ rfl, significant_cons_of_layout _ rfl,
      significant_cons _ (by rw [hname.kind]; rfl), significant_cons_of_layout _ rfl,
      significant_expression fun t ht => (hbody.solid t ht).1]
  | record sort name lines =>
    rw [declarationTokens, map_propertyRow sort name, significant_cons _ rfl,
      significant_cons_of_layout _ rfl, significant_cons _ (by rw [hd.1.kind]; rfl)]

/-- **A declaration is spelled** by the tokens of its layout. -/
lemma spells_declaration {d : Declaration} (hd : Readable d) :
    Spells (rehead d) (significant (declarationTokens d)) := by
  rw [significant_declaration hd]
  cases d with
  | config keyword settings =>
    refine .config rfl (block_rows hd.1) ?_
    rw [entries, List.map_map, List.forall₂_map_left_iff, List.forall₂_same]
    intro s hs
    have hvalue : s = ⟨s.key, { valueToken s.value with
        kind := valueKind (valueToken s.value) }⟩ := by
      rw [hd.2 s hs]
      rfl
    exact hvalue ▸ SettingLine.mk s.key (valueToken s.value)
  | typeAlias name body =>
    obtain ⟨hname, hbody⟩ := hd
    exact .typeAlias rfl hname.kind hbody.ne_nil fun t ht => (hbody.solid t ht).2
  | record sort name lines =>
    obtain ⟨hname, hblock, hkind⟩ := hd
    refine .record rfl hname.kind (block_rows hblock) ?_
    rw [entries, List.map_map, List.forall₂_map_left_iff, List.forall₂_same]
    intro p hp
    have hne := (hblock.value (p.name, p.expression) (List.mem_map_of_mem hp)).1
    exact .mk (hkind p hp) hne

/-- Only the body of an alias matters for the nesting. -/
lemma run_declaration {d : Declaration} (hd : Readable d) (opened rest : List Token) :
    Nesting.run opened (significant (declarationTokens d) ++ rest) =
      Nesting.run opened (bodyTokens d ++ rest) := by
  have hreserved (word : Keyword) : (reserved word).kind ∉ Nesting.brackets := by
    cases word <;> decide
  have hname {name : Token} (h : IsName false name) : name.kind ∉ Nesting.brackets := by
    rw [h.kind]
    decide
  rw [significant_declaration hd]
  cases d with
  | config keyword settings =>
    exact Nesting.run_wellNested (.other (hreserved _) (nested_block hd.1)) opened rest
  | typeAlias name body =>
    exact Nesting.run_wellNested (.other (hreserved _) (.other (hname hd.1) .nil)) opened _
  | record sort name lines =>
    exact Nesting.run_wellNested
      (.other (hreserved _) (.other (hname hd.1) (nested_block hd.2.1))) opened rest

/-! ### Schemas -/

lemma mayPrecede_newline (d : Declaration) (n : Nat) (tail : List Token) :
    MayPrecede d (newlines n :: tail) := by
  cases d with
  | config _ _ | record _ _ _ => trivial
  | typeAlias name body =>
    intro t ht
    obtain rfl := Option.some.inj (Option.mem_def.mp ht)
    rfl

lemma declares_after {d : Declaration} {ds : List Declaration} (hd : Readable d)
    (hds : ∀ e ∈ ds, Readable e) :
    Declares (significant (declarationTokens d ++ declarationsTokensAfter d ds))
      ((d :: ds).map rehead) := by
  induction ds generalizing d with
  | nil =>
    rw [declarationsTokensAfter, significant_append]
    exact .declaration (spells_declaration hd) (mayPrecede_newline _ _ _) (.newline rfl .nil)
  | cons e ds ih =>
    obtain ⟨he, hds⟩ := List.forall_mem_cons.mp hds
    rw [declarationsTokensAfter, significant_append, significant_cons _ rfl]
    exact .declaration (spells_declaration hd) (mayPrecede_newline _ _ _)
      (.newline rfl (ih he hds))

lemma run_declarationsAfter (d : Declaration) {ds : List Declaration} (hds : ∀ e ∈ ds, Readable e)
    (opened : List Token) :
    Nesting.run opened (significant (declarationsTokensAfter d ds)) =
      Nesting.run opened (ds.flatMap bodyTokens) := by
  have hnewline (n : Nat) : (newlines n).kind ∉ Nesting.brackets := by
    change Kind.newline ∉ Nesting.brackets
    decide
  induction ds generalizing d opened with
  | nil => exact Nesting.run_cons_of_step _ (Nesting.step_other opened (hnewline _))
  | cons e ds ih =>
    obtain ⟨he, hds⟩ := List.forall_mem_cons.mp hds
    rw [declarationsTokensAfter, significant_cons _ rfl,
      Nesting.run_cons_of_step _ (Nesting.step_other opened (hnewline _)), significant_append,
      run_declaration he, List.flatMap_cons, Nesting.run_append, Nesting.run_append]
    simp only [ih e hds]

lemma bodyTokens_of_isConfig {d : Declaration} (h : isConfig d = true) : bodyTokens d = [] := by
  cases d with
  | config keyword settings => rfl
  | typeAlias name body | record sort name lines => simp [isConfig] at h

/-- Moving the configuration blocks to the front leaves the bodies of aliases in their order. -/
lemma bodies_ordered (ds : List Declaration) :
    (ordered ds).flatMap bodyTokens = ds.flatMap bodyTokens := by
  have hconfig : (ds.filter isConfig).flatMap bodyTokens = [] :=
    List.flatMap_eq_nil_iff.mpr fun d hd => bodyTokens_of_isConfig (List.mem_filter.mp hd).2
  rw [ordered, List.flatMap_append, hconfig, List.nil_append]
  clear hconfig
  induction ds with
  | nil => rfl
  | cons d ds ih =>
    cases hd : isConfig d with
    | true => simpa [hd, bodyTokens_of_isConfig hd] using ih
    | false => simp [hd, ih]

lemma declares_schema {ds : List Declaration} (h : ∀ d ∈ ds, Readable d) :
    Declares (significant (schemaTokens ds)) ((ordered ds).map rehead) ∧
      Nesting.run [] (significant (schemaTokens ds)) = Nesting.run [] (ds.flatMap bodyTokens) := by
  have hordered : ∀ d ∈ ordered ds, Readable d := fun d hd => h d (mem_ordered.mp hd)
  rw [← bodies_ordered]
  unfold schemaTokens
  cases hds : ordered ds with
  | nil => exact ⟨.nil, rfl⟩
  | cons d rest =>
    rw [hds] at hordered
    obtain ⟨hd, hrest⟩ := List.forall_mem_cons.mp hordered
    refine ⟨declares_after hd hrest, ?_⟩
    rw [significant_append, run_declaration hd, List.flatMap_cons, Nesting.run_append,
      Nesting.run_append]
    simp only [run_declarationsAfter d hrest]

lemma significant_alike {ts us : List Token} (h : List.Forall₂ Token.Alike ts us) :
    List.Forall₂ Token.Alike (significant ts) (significant us) := by
  induction h with
  | nil => exact .nil
  | @cons t u ts us hab _ ih =>
    by_cases hlayout : t.kind.isLayout = true
    · rwa [significant_cons_of_layout _ hlayout,
        significant_cons_of_layout _ (by rw [← hab.kind]; exact hlayout)]
    · have hkeep : t.kind.isLayout = false := by simpa using hlayout
      rw [significant_cons _ hkeep, significant_cons _ (by rw [← hab.kind]; exact hkeep)]
      exact .cons hab ih

/-- **The layout is read as the declarations that were laid out**, the configuration blocks first,
if it is cut into tokens at all. -/
lemma group_layout {ds : List Declaration} (h : ∀ d ∈ ds, Readable d)
    (hnested : Nesting.WellNested (ds.flatMap bodyTokens)) (hsettled : Settles ds) :
    ∃ us es, tokenize (schema ds) = .ok us ∧ group us = .ok es ∧
      List.Forall₂ Declaration.Alike ((ordered ds).map rehead) es := by
  obtain ⟨us, hus, halike⟩ := tokenize_of_chained (chained_schema h hsettled) (characters_schema ds)
  obtain ⟨hdeclares, hrun⟩ := declares_schema h
  have hsignificant := significant_alike halike
  obtain ⟨es, hes, hds⟩ := hdeclares.alike hsignificant
  rw [Nesting.wellNested_iff, ← hrun, ← Nesting.wellNested_iff] at hnested
  have hcheck := Nesting.wellNested_iff.mp (hnested.alike hsignificant)
  rw [run_significant, ← Nesting.wellNested_iff] at hcheck
  exact ⟨us, es, hus, group_eq_ok.mpr ⟨Nesting.check_eq_ok_iff.mpr hcheck, eq_ok_of_declares hes⟩,
    hds⟩

end Canonical

end TypeGuard
