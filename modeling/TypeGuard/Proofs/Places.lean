import TypeGuard.Proofs.Grouping

/-!
The places of tokens have no effect on what is declared.

Tokens are alike if they differ in their places at most. From token lists that are alike the same
declarations are read, up to places: this is carried through the grammar of declarations rule by
rule.
-/

namespace TypeGuard

/-- Tokens that differ in their places at most. -/
structure Token.Alike (t u : Token) : Prop where
  kind : t.kind = u.kind
  text : t.text = u.text

namespace Token.Alike

lemma refl (t : Token) : t.Alike t := ⟨rfl, rfl⟩

lemma symm {t u : Token} (h : t.Alike u) : u.Alike t := ⟨h.kind.symm, h.text.symm⟩

lemma exists_eq {t u : Token} (h : t.Alike u) : ∃ p, u = { t with position := p } := by
  obtain ⟨kind, text, p⟩ := u
  obtain ⟨rfl, rfl⟩ := h
  exact ⟨p, rfl⟩

end Token.Alike

structure Setting.Alike (s t : Setting) : Prop where
  key : s.key.Alike t.key
  value : s.value.Alike t.value

structure PropertyLine.Alike (p q : PropertyLine) : Prop where
  name : p.name.Alike q.name
  expression : List.Forall₂ Token.Alike p.expression q.expression

/-- Declarations of alike tokens. The reserved word that opens a configuration block does not
count. -/
inductive Declaration.Alike : Declaration → Declaration → Prop where
  | config {keyword keyword' : Token} {settings settings' : List Setting} :
      List.Forall₂ Setting.Alike settings settings' →
      Declaration.Alike (.config keyword settings) (.config keyword' settings')
  | typeAlias {name name' : Token} {body body' : List Token} :
      name.Alike name' → List.Forall₂ Token.Alike body body' →
      Declaration.Alike (.typeAlias name body) (.typeAlias name' body')
  | record {sort : RecordSort} {name name' : Token} {lines lines' : List PropertyLine} :
      name.Alike name' → List.Forall₂ PropertyLine.Alike lines lines' →
      Declaration.Alike (.record sort name lines) (.record sort name' lines')

namespace Places

variable {α β : Type} {R : α → β → Prop}

lemma forall₂_append_left {front back : List α} {us : List β}
    (h : List.Forall₂ R (front ++ back) us) :
    ∃ front' back', us = front' ++ back' ∧ List.Forall₂ R front front' ∧
      List.Forall₂ R back back' := by
  induction front generalizing us with
  | nil => exact ⟨[], us, rfl, .nil, h⟩
  | cons a front ih =>
    obtain ⟨b, us', hab, hrest, rfl⟩ := List.forall₂_cons_left_iff.mp h
    obtain ⟨front', back', rfl, hfront, hback⟩ := ih hrest
    exact ⟨b :: front', back', rfl, .cons hab hfront, hback⟩

lemma ne_nil_of_forall₂ {as : List α} {bs : List β} (h : List.Forall₂ R as bs) (hne : as ≠ []) :
    bs ≠ [] := by
  rintro rfl
  exact hne (List.forall₂_nil_right_iff.mp h)

lemma exists_left_of_mem {as : List α} {bs : List β} (h : List.Forall₂ R as bs) {b : β}
    (hb : b ∈ bs) : ∃ a ∈ as, R a b := by
  induction h with
  | nil => simp at hb
  | @cons a c as bs hac _ ih =>
    rcases List.mem_cons.mp hb with rfl | hb
    · exact ⟨a, by simp, hac⟩
    · obtain ⟨a', ha', hr⟩ := ih hb
      exact ⟨a', by simp [ha'], hr⟩

lemma forall₂_of_mem {S : α → β → Prop} {as : List α} {bs : List β} (h : List.Forall₂ R as bs)
    (himp : ∀ a ∈ as, ∀ b, R a b → S a b) : List.Forall₂ S as bs := by
  induction h with
  | nil => exact .nil
  | cons hab _ ih =>
    obtain ⟨ha, hrest⟩ := List.forall_mem_cons.mp himp
    exact .cons (ha _ hab) (ih hrest)

lemma forall_kind (P : Kind → Prop) {ts us : List Token} (h : List.Forall₂ Token.Alike ts us)
    (hts : ∀ t ∈ ts, P t.kind) : ∀ u ∈ us, P u.kind := by
  induction h with
  | nil => simp
  | cons hab _ ih =>
    obtain ⟨ht, hrest⟩ := List.forall_mem_cons.mp hts
    exact List.forall_mem_cons.mpr ⟨hab.kind ▸ ht, ih hrest⟩

end Places

open Places

lemma Nesting.WellNested.alike {ts us : List Token} (h : Nesting.WellNested ts)
    (ha : List.Forall₂ Token.Alike ts us) : Nesting.WellNested us := by
  induction h generalizing us with
  | nil =>
    obtain rfl := List.forall₂_nil_left_iff.mp ha
    exact .nil
  | other ht _ ih =>
    obtain ⟨u, us, hu, hrest, rfl⟩ := List.forall₂_cons_left_iff.mp ha
    exact .other (hu.kind ▸ ht) (ih hrest)
  | pair hp _ _ ihi ihr =>
    obtain ⟨opener, us, ho, hus, rfl⟩ := List.forall₂_cons_left_iff.mp ha
    obtain ⟨inner, back, rfl, hinner, hback⟩ := forall₂_append_left hus
    obtain ⟨closer, rest, hc, hrest, rfl⟩ := List.forall₂_cons_left_iff.mp hback
    exact .pair (ho.kind ▸ hc.kind ▸ hp) (ihi hinner) (ihr hrest)

/-! ### The grammar of declarations -/

namespace Grouping

lemma Lines.alike {body us : List Token} {ls : List (List Token)} (h : Lines body ls)
    (ha : List.Forall₂ Token.Alike body us) :
    ∃ ms, Lines us ms ∧ List.Forall₂ (List.Forall₂ Token.Alike) ls ms := by
  induction h generalizing us with
  | nil =>
    obtain rfl := List.forall₂_nil_left_iff.mp ha
    exact ⟨[], .nil, .nil⟩
  | newline ht _ ih =>
    obtain ⟨u, us, hu, hrest, rfl⟩ := List.forall₂_cons_left_iff.mp ha
    obtain ⟨ms, hms, hls⟩ := ih hrest
    exact ⟨ms, .newline (hu.kind ▸ ht) hms, hls⟩
  | last hne hl =>
    exact ⟨[us], .last (ne_nil_of_forall₂ ha hne) (forall_kind (· ≠ .newline) ha hl), .cons ha .nil⟩
  | line hne hl ht _ ih =>
    obtain ⟨line, back, rfl, hline, hback⟩ := forall₂_append_left ha
    obtain ⟨u, rest, hu, hrest, rfl⟩ := List.forall₂_cons_left_iff.mp hback
    obtain ⟨ms, hms, hls⟩ := ih hrest
    exact ⟨line :: ms, .line (ne_nil_of_forall₂ hline hne) (forall_kind (· ≠ .newline) hline hl)
      (hu.kind ▸ ht) hms, .cons hline hls⟩

lemma Block.alike {tokens us : List Token} {ls : List (List Token)} (h : Block tokens ls)
    (ha : List.Forall₂ Token.Alike tokens us) :
    ∃ ms, Block us ms ∧ List.Forall₂ (List.Forall₂ Token.Alike) ls ms := by
  obtain ⟨hgap, hopener, hbody, hlines, hcloser⟩ := h
  obtain ⟨gap, back, rfl, hgap', hback⟩ := forall₂_append_left ha
  obtain ⟨opener, rest, ho, hrest, rfl⟩ := List.forall₂_cons_left_iff.mp hback
  obtain ⟨body, last, rfl, hbody', hlast⟩ := forall₂_append_left hrest
  obtain ⟨closer, none, hc, hnone, rfl⟩ := List.forall₂_cons_left_iff.mp hlast
  obtain rfl := List.forall₂_nil_left_iff.mp hnone
  obtain ⟨ms, hms, hls⟩ := hlines.alike hbody'
  exact ⟨ms, .mk (forall_kind (· = .newline) hgap' hgap) (ho.kind ▸ hopener)
    (forall_kind (fun kind => kind ≠ .openBrace ∧ kind ≠ .closeBrace) hbody' hbody) hms
    (hc.kind ▸ hcloser), hls⟩

lemma valueKind_alike {t u : Token} (h : t.Alike u) : valueKind t = valueKind u := by
  unfold valueKind
  rw [h.kind, h.text]

lemma SettingLine.alike {line us : List Token} {s : Setting} (h : SettingLine line s)
    (ha : List.Forall₂ Token.Alike line us) : ∃ s', SettingLine us s' ∧ s.Alike s' := by
  obtain ⟨key, value⟩ := h
  obtain ⟨key', rest, hk, hrest, rfl⟩ := List.forall₂_cons_left_iff.mp ha
  obtain ⟨value', none, hv, hnone, rfl⟩ := List.forall₂_cons_left_iff.mp hrest
  obtain rfl := List.forall₂_nil_left_iff.mp hnone
  exact ⟨_, .mk key' value', hk, ⟨valueKind_alike hv, hv.text⟩⟩

lemma FieldLine.alike {line us : List Token} {p : PropertyLine} (h : FieldLine line p)
    (ha : List.Forall₂ Token.Alike line us) : ∃ p', FieldLine us p' ∧ p.Alike p' := by
  obtain ⟨hname, hne⟩ := h
  obtain ⟨name', expression', hn, he, rfl⟩ := List.forall₂_cons_left_iff.mp ha
  exact ⟨_, .mk (hn.kind ▸ hname) (ne_nil_of_forall₂ he hne), hn, he⟩

lemma forall₂_alike {α : Type} {R : List Token → α → Prop} {A : α → α → Prop}
    (hR : ∀ {line us a}, R line a → List.Forall₂ Token.Alike line us → ∃ b, R us b ∧ A a b)
    {ls ms : List (List Token)} {as : List α} (h : List.Forall₂ R ls as)
    (ha : List.Forall₂ (List.Forall₂ Token.Alike) ls ms) :
    ∃ bs, List.Forall₂ R ms bs ∧ List.Forall₂ A as bs := by
  induction h generalizing ms with
  | nil =>
    obtain rfl := List.forall₂_nil_left_iff.mp ha
    exact ⟨[], .nil, .nil⟩
  | cons hline _ ih =>
    obtain ⟨m, ms, hm, hrest, rfl⟩ := List.forall₂_cons_left_iff.mp ha
    obtain ⟨b, hb, hab⟩ := hR hline hm
    obtain ⟨bs, hbs, has⟩ := ih hrest
    exact ⟨b :: bs, .cons hb hbs, .cons hab has⟩

lemma Spells.alike {d : Declaration} {front us : List Token} (h : Spells d front)
    (ha : List.Forall₂ Token.Alike front us) : ∃ e, Spells e us ∧ d.Alike e := by
  cases h with
  | config hk hb hs =>
    obtain ⟨keyword, rest, hkey, hrest, rfl⟩ := List.forall₂_cons_left_iff.mp ha
    obtain ⟨ms, hms, hls⟩ := hb.alike hrest
    obtain ⟨settings, hset, halike⟩ := forall₂_alike SettingLine.alike hs hls
    exact ⟨_, .config (hkey.kind ▸ hk) hms hset, .config halike⟩
  | typeAlias hk hn hne hbody =>
    obtain ⟨keyword, rest, hkey, hrest, rfl⟩ := List.forall₂_cons_left_iff.mp ha
    obtain ⟨name, body, hname, hb, rfl⟩ := List.forall₂_cons_left_iff.mp hrest
    exact ⟨_, .typeAlias (hkey.kind ▸ hk) (hname.kind ▸ hn) (ne_nil_of_forall₂ hb hne)
      (forall_kind (· ≠ .newline) hb hbody), .typeAlias hname hb⟩
  | record hk hn hb hp =>
    obtain ⟨keyword, rest, hkey, hrest, rfl⟩ := List.forall₂_cons_left_iff.mp ha
    obtain ⟨name, block, hname, hblock, rfl⟩ := List.forall₂_cons_left_iff.mp hrest
    obtain ⟨ms, hms, hls⟩ := hb.alike hblock
    obtain ⟨lines, hlines, halike⟩ := forall₂_alike FieldLine.alike hp hls
    exact ⟨_, .record (hkey.kind ▸ hk) (hname.kind ▸ hn) hms hlines, .record hname halike⟩

lemma MayPrecede.alike {d e : Declaration} {tail us : List Token} (h : MayPrecede d tail)
    (hd : d.Alike e) (ha : List.Forall₂ Token.Alike tail us) : MayPrecede e us := by
  cases hd with
  | config _ | record _ _ => trivial
  | typeAlias _ _ =>
    cases ha with
    | nil => intro t ht; simp at ht
    | cons hab _ =>
      intro t ht
      obtain rfl := Option.some.inj (Option.mem_def.mp ht)
      exact hab.kind ▸ h _ (by simp)

/-- **Declarations are read alike** from alike tokens. -/
lemma Declares.alike {tokens us : List Token} {ds : List Declaration} (h : Declares tokens ds)
    (ha : List.Forall₂ Token.Alike tokens us) :
    ∃ es, Declares us es ∧ List.Forall₂ Declaration.Alike ds es := by
  induction h generalizing us with
  | nil =>
    obtain rfl := List.forall₂_nil_left_iff.mp ha
    exact ⟨[], .nil, .nil⟩
  | newline ht _ ih =>
    obtain ⟨u, us, hu, hrest, rfl⟩ := List.forall₂_cons_left_iff.mp ha
    obtain ⟨es, hes, hds⟩ := ih hrest
    exact ⟨es, .newline (hu.kind ▸ ht) hes, hds⟩
  | declaration hs hend _ ih =>
    obtain ⟨front, tail, rfl, hfront, htail⟩ := forall₂_append_left ha
    obtain ⟨e, he, hde⟩ := hs.alike hfront
    obtain ⟨es, hes, hds⟩ := ih htail
    exact ⟨e :: es, .declaration he (hend.alike hde htail) hes, .cons hde hds⟩

end Grouping

end TypeGuard
