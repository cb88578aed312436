import TypeGuard.Proofs.Formatting

/-!
When setting a text in its canonical layout twice is the same as once.

The layout reads no places, and it puts the configuration blocks first, where they stay. So it is
its own layout if it is read as the declarations that were laid out. This is so for all that
resolves, but not for all that is grouped: the layout leaves out blanks and adds line ends without
asking whether tokens may stand next to each other, and where they may not, the layout is rejected.
-/

namespace TypeGuard

open Outcome

namespace Canonical

/-! ### The layout reads no places -/

lemma expressionAfter_alike {previous : Kind} {ts us : List Token}
    (h : List.Forall₂ Token.Alike ts us) :
    expressionAfter previous ts = expressionAfter previous us := by
  induction h generalizing previous with
  | nil => rfl
  | cons hab _ ih => rw [expressionAfter, expressionAfter, hab.kind, hab.text, ih]

lemma expression_alike {ts us : List Token} (h : List.Forall₂ Token.Alike ts us) :
    expression ts = expression us := by
  cases h with
  | nil => rfl
  | cons hab hrest => rw [expression, expression, hab.kind, hab.text, expressionAfter_alike hrest]

lemma map_eq_of_forall₂ {α β : Type} {A : α → α → Prop} {f : α → β} {as bs : List α}
    (hf : ∀ {a b}, A a b → f a = f b) (h : List.Forall₂ A as bs) : as.map f = bs.map f := by
  have hmap : List.Forall₂ (· = ·) (as.map f) (bs.map f) := List.rel_map (fun _ _ hab => hf hab) h
  rwa [List.forall₂_eq_eq_eq] at hmap

lemma declaration_alike {d e : Declaration} (h : d.Alike e) : declaration d = declaration e := by
  cases h with
  | config hs =>
    rw [declaration, declaration, map_eq_of_forall₂ (fun hst => ?_) hs]
    rw [hst.key.text, hst.value.text]
  | typeAlias hn hb => rw [declaration, declaration, hn.text, expression_alike hb]
  | record hn hp =>
    rw [declaration, declaration, hn.text, map_eq_of_forall₂ (fun hpq => ?_) hp]
    rw [hpq.name.text, expression_alike hpq.expression]

lemma isConfig_alike {d e : Declaration} (h : d.Alike e) : isConfig d = isConfig e := by
  cases h <;> rfl

lemma isAlias_alike {d e : Declaration} (h : d.Alike e) : isAlias d = isAlias e := by
  cases h <;> rfl

lemma declarationsAfter_alike {d e : Declaration} {ds es : List Declaration} (hde : d.Alike e)
    (h : List.Forall₂ Declaration.Alike ds es) :
    declarationsAfter d ds = declarationsAfter e es := by
  induction h generalizing d e with
  | nil => rfl
  | cons hab _ ih =>
    rw [declarationsAfter, declarationsAfter, isAlias_alike hde, isAlias_alike hab,
      declaration_alike hab, ih hab]

lemma ordered_alike {ds es : List Declaration} (h : List.Forall₂ Declaration.Alike ds es) :
    List.Forall₂ Declaration.Alike (ordered ds) (ordered es) := by
  refine List.rel_append (List.rel_filter (fun d e hde => ?_) h)
    (List.rel_filter (fun d e hde => ?_) h)
  · exact Bool.coe_iff_coe.mpr (isConfig_alike hde)
  · exact Bool.coe_iff_coe.mpr (congrArg (!·) (isConfig_alike hde))

lemma schema_alike {ds es : List Declaration} (h : List.Forall₂ Declaration.Alike ds es) :
    schema ds = schema es := by
  have hordered := ordered_alike h
  unfold schema
  generalize ordered ds = as at hordered
  generalize ordered es = bs at hordered
  cases hordered with
  | nil => rfl
  | cons hab hrest => simp only [declaration_alike hab, declarationsAfter_alike hab hrest]

/-! ### The order of the layout -/

lemma ordered_ordered (ds : List Declaration) : ordered (ordered ds) = ordered ds := by
  simp [ordered, List.filter_append, List.filter_filter]

lemma schema_ordered (ds : List Declaration) : schema (ordered ds) = schema ds := by
  rw [schema, ordered_ordered, schema]

/-- The reserved word in front of a configuration block does not count. -/
lemma alike_of_rehead {ds es : List Declaration}
    (h : List.Forall₂ Declaration.Alike (ds.map rehead) es) :
    List.Forall₂ Declaration.Alike ds es := by
  refine (List.forall₂_map_left_iff.mp h).imp fun d e hde => ?_
  cases d with
  | config keyword settings =>
    obtain ⟨hs⟩ := hde
    exact .config hs
  | typeAlias name body | record sort name lines => exact hde

end Canonical

open Canonical

/-- **A layout is its own layout** if it is read as the declarations that were laid out. -/
lemma format_of_alike {ds es : List Declaration} {us : List Token}
    (hus : tokenize (schema ds) = .ok us) (hes : group us = .ok es)
    (h : List.Forall₂ Declaration.Alike (ordered ds) es) :
    format (schema ds) = .ok (schema ds) := by
  have hschema : schema es = schema ds := by rw [← schema_alike h, schema_ordered]
  exact format_eq_ok.mpr ⟨us, es, hus, hes, hschema⟩

lemma format_fixed_of_compile {source text : String} {files : Files}
    (h : compile source = .ok files) (hformat : format source = .ok text) :
    format text = .ok text := by
  obtain ⟨s, hresolve, -⟩ := compile_eq_ok.mp h
  obtain ⟨ts, ds, hts, hds, hs⟩ := resolveSource_eq_ok.mp hresolve
  obtain ⟨ts', ds', hts', hds', rfl⟩ := format_eq_ok.mp hformat
  obtain rfl : ts = ts' := Except.ok.inj (hts.symm.trans hts')
  obtain rfl : ds = ds' := Except.ok.inj (hds.symm.trans hds')
  obtain ⟨us, es, hus, hes, halike⟩ := group_schema (printable_of_resolve hts hds hs)
  exact format_of_alike hus hes (alike_of_rehead halike)

/-- **When the canonical layout is a fixed point.** The layout of a text that is grouped into
declarations is read as these declarations, up to places and with the configuration blocks first,
and is its own layout, if on each line the neighbours may stand next to each other as the layout
sets them. Otherwise the layout is not even cut into tokens. -/
theorem format_fixed {source text : String} (h : format source = .ok text) :
    ∃ ts ds, tokenize source = .ok ts ∧ group ts = .ok ds ∧
      (Settles ds → ∃ us es, tokenize text = .ok us ∧ group us = .ok es ∧
        List.Forall₂ Declaration.Alike (ordered ds) es ∧ format text = .ok text) ∧
      (¬ Settles ds → ∃ d, tokenize text = .error d ∧ format text = .error d) := by
  obtain ⟨ts, ds, hts, hds, rfl⟩ := format_eq_ok.mp h
  obtain ⟨hreadable, hnested⟩ := readable_of_group hts hds
  refine ⟨ts, ds, hts, hds, fun hsettled => ?_, fun hunsettled => ?_⟩
  · obtain ⟨us, es, hus, hes, halike⟩ := group_layout hreadable hnested hsettled
    have hordered := alike_of_rehead halike
    exact ⟨us, es, hus, hes, hordered, format_of_alike hus hes hordered⟩
  · cases htokens : tokenize (schema ds) with
    | ok us => exact absurd ((tokenize_schema_iff hreadable).mp ⟨us, htokens⟩) hunsettled
    | error d => exact ⟨d, rfl, by simp [format, parse, htokens, bind, Except.bind]⟩

/-- An alias with braces, a reserved word and a call of an unknown name behind it, and a comma in
place of the name of a setting. -/
def oddSource : String :=
  "alias A x \x7b model 3 \x7d f( y , z)\nconfig \x7b , true\n\x7d\n"

def oddLayout : String :=
  "config \x7b\n    , true\n\x7d\n\nalias A x \x7b model 3 \x7d f(y, z)\n"

theorem format_fixed_odd : format oddSource = .ok oddLayout ∧ format oddLayout = .ok oddLayout := by
  have hformat : format oddSource = .ok oddLayout := by decide +kernel
  have hsettles : (tokenize oddSource >>= group).toOption.any (Settles ·) = true := by
    decide +kernel
  obtain ⟨ts, ds, hts, hds, hfixed, -⟩ := format_fixed hformat
  have hgroup : (tokenize oddSource >>= group) = .ok ds := bind_eq_ok.mpr ⟨ts, hts, hds⟩
  rw [hgroup] at hsettles
  obtain ⟨us, es, -, -, -, hagain⟩ := hfixed (of_decide_eq_true hsettles)
  exact ⟨hformat, hagain⟩

/-- A comma at the end of a line is accepted at the end of a text only, and the layout adds a line
end. -/
theorem format_trailing_comma :
    format "alias A x," = .ok "alias A x,\n" ∧
      format "alias A x,\n" =
        .error (.placed (.lexical (.misplaced .newline "\n")) ⟨⟨1, 11⟩, 0⟩) := by
  decide +kernel

end TypeGuard
