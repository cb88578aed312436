import TypeGuard.Proofs.Pipeline
import TypeGuard.Proofs.Regrouping
import TypeGuard.Proofs.Relocation

/-!
Layout does not matter.

White space and comments are dropped before declarations are formed, and where line ends count, one
of them does what several do. So two token lists that differ in white space, comments and the number
of line ends in a row are grouped into alike declarations, or both are rejected; and alike
declarations compile to the same files, or are rejected under the same category.
-/

namespace TypeGuard

open Outcome Places

/-- Tokens of one kind that say the same, unless they end lines. -/
structure Token.Similar (t u : Token) : Prop where
  kind : t.kind = u.kind
  text : t.kind ≠ .newline → t.text = u.text

instance : DecidableRel Token.Similar := fun t u =>
  decidable_of_iff (t.kind = u.kind ∧ (t.kind ≠ .newline → t.text = u.text))
    ⟨fun h => ⟨h.1, h.2⟩, fun h => ⟨h.kind, h.text⟩⟩

/-- Tokens with one newline in place of every run of them; the flag says whether the token before is
a newline. -/
def collapseFrom (afterNewline : Bool) : List Token → List Token
  | [] => []
  | t :: rest =>
    if t.kind = .newline then
      if afterNewline then collapseFrom true rest else t :: collapseFrom true rest
    else t :: collapseFrom false rest

/-- The tokens of a text without white space and comments, and with one newline in place of every
run of them. -/
def condensed (ts : List Token) : List Token :=
  collapseFrom false (ts.filter (!·.kind.isLayout))

/-! ### Token lists up to the lengths of runs of newlines -/

/-- Token lists that differ in places and in the lengths of runs of newlines at most. -/
inductive Spaced : List Token → List Token → Prop where
  | nil : Spaced [] []
  | token {t u : Token} {ts us : List Token} :
      t.kind ≠ .newline → t.Alike u → Spaced ts us → Spaced (t :: ts) (u :: us)
  | newline {t u : Token} {ts us : List Token} :
      t.kind = .newline → u.kind = .newline → Spaced ts us → Spaced (t :: ts) (u :: us)
  | left {t t' : Token} {ts us : List Token} :
      t.kind = .newline → t'.kind = .newline → Spaced (t' :: ts) us → Spaced (t :: t' :: ts) us
  | right {u u' : Token} {ts us : List Token} :
      u.kind = .newline → u'.kind = .newline → Spaced ts (u' :: us) → Spaced ts (u :: u' :: us)

namespace Spaced

variable {ts us front tail : List Token} {t u : Token}

lemma symm (h : Spaced ts us) : Spaced us ts := by
  induction h with
  | nil => exact .nil
  | token ht hab _ ih => exact .token (hab.kind ▸ ht) hab.symm ih
  | newline ht hu _ ih => exact .newline hu ht ih
  | left ht ht' _ ih => exact .right ht ht' ih
  | right hu hu' _ ih => exact .left hu hu' ih

lemma append {front' back back' : List Token} (hfront : Spaced front front')
    (hback : Spaced back back') : Spaced (front ++ back) (front' ++ back') := by
  induction hfront with
  | nil => exact hback
  | token ht hab _ ih => exact .token ht hab ih
  | newline ht hu _ ih => exact .newline ht hu ih
  | left ht ht' _ ih => exact .left ht ht' ih
  | right hu hu' _ ih => exact .right hu hu' ih

lemma eq_nil (h : Spaced [] us) : us = [] := by
  obtain ⟨xs, hxs⟩ : ∃ xs : List Token, xs = [] := ⟨[], rfl⟩
  rw [← hxs] at h
  induction h with
  | nil => rfl
  | right _ _ _ ih => simp at ih hxs; exact absurd hxs ih
  | token _ _ _ _ => simp at hxs
  | newline _ _ _ _ => simp at hxs
  | left _ _ _ _ => simp at hxs

/-- A token that is no newline cuts both lists at the same place. -/
lemma cut (h : Spaced (front ++ t :: tail) us) (ht : t.kind ≠ .newline) :
    ∃ front' u tail', us = front' ++ u :: tail' ∧ Spaced front front' ∧ t.Alike u ∧
      Spaced tail tail' := by
  generalize hxs : front ++ t :: tail = xs at h
  induction h generalizing front with
  | nil => simp at hxs
  | @token t₀ u₀ ts us ht₀ hab hrest ih =>
    cases front with
    | nil =>
      obtain ⟨rfl, rfl⟩ := List.cons.inj hxs
      exact ⟨[], u₀, us, rfl, .nil, hab, hrest⟩
    | cons first front =>
      obtain ⟨hfirst, hts⟩ := List.cons.inj hxs
      obtain ⟨front', u, tail', rfl, hfront, hu, htail⟩ := ih hts
      exact ⟨u₀ :: front', u, tail', rfl, hfirst ▸ .token ht₀ hab hfront, hu, htail⟩
  | @newline t₀ u₀ ts us ht₀ hu₀ hrest ih =>
    cases front with
    | nil =>
      obtain ⟨rfl, -⟩ := List.cons.inj hxs
      exact absurd ht₀ ht
    | cons first front =>
      obtain ⟨hfirst, hts⟩ := List.cons.inj hxs
      obtain ⟨front', u, tail', rfl, hfront, hu, htail⟩ := ih hts
      exact ⟨u₀ :: front', u, tail', rfl, hfirst ▸ .newline ht₀ hu₀ hfront, hu, htail⟩
  | @left t₀ t₁ ts us ht₀ ht₁ hrest ih =>
    rcases front with _ | ⟨first, _ | ⟨second, front⟩⟩
    · obtain ⟨rfl, -⟩ := List.cons.inj hxs
      exact absurd ht₀ ht
    · obtain ⟨-, hts⟩ := List.cons.inj hxs
      obtain ⟨rfl, -⟩ := List.cons.inj hts
      exact absurd ht₁ ht
    · obtain ⟨hfirst, hts⟩ := List.cons.inj hxs
      obtain ⟨hsecond, -⟩ := List.cons.inj hts
      obtain ⟨front', u, tail', rfl, hfront, hu, htail⟩ := @ih (second :: front) hts
      have hfront' : Spaced (first :: second :: front) front' :=
        .left (hfirst ▸ ht₀) (hsecond ▸ ht₁) hfront
      exact ⟨front', u, tail', rfl, hfront', hu, htail⟩
  | @right u₀ u₁ ts us hu₀ hu₁ hrest ih =>
    obtain ⟨front', u, tail', heq, hfront, hu, htail⟩ := ih hxs
    cases front' with
    | nil =>
      -- the token would have to be alike to a newline
      obtain ⟨rfl, -⟩ := List.cons.inj heq
      exact absurd (hu.kind.trans hu₁) ht
    | cons second front' =>
      obtain ⟨rfl, rfl⟩ := List.cons.inj heq
      exact ⟨u₀ :: u₁ :: front', u, tail', rfl, .right hu₀ hu₁ hfront, hu, htail⟩

lemma split {last : Token} (h : Spaced ((front ++ [last]) ++ tail) us)
    (hlast : last.kind ≠ .newline) :
    ∃ front' tail', us = front' ++ tail' ∧ Spaced (front ++ [last]) front' ∧
      Spaced tail tail' := by
  rw [List.append_assoc] at h
  obtain ⟨front', u, tail', rfl, hfront, hu, htail⟩ := cut h hlast
  have hend : Spaced [last] [u] := .token hlast hu .nil
  exact ⟨front' ++ [u], tail', by simp, hfront.append hend, htail⟩

lemma cons (h : Spaced (t :: tail) us) (ht : t.kind ≠ .newline) :
    ∃ u tail', us = u :: tail' ∧ t.Alike u ∧ Spaced tail tail' := by
  have hnil : Spaced ([] ++ t :: tail) us := h
  obtain ⟨front', u, tail', rfl, hfront, hu, htail⟩ := cut hnil ht
  rw [hfront.eq_nil]
  exact ⟨u, tail', rfl, hu, htail⟩

lemma line (h : Spaced ts us) (hts : ∀ t ∈ ts, t.kind ≠ .newline) :
    List.Forall₂ Token.Alike ts us := by
  induction ts generalizing us with
  | nil => rw [h.eq_nil]; exact .nil
  | cons t rest ih =>
    obtain ⟨ht, hrest⟩ := List.forall_mem_cons.mp hts
    obtain ⟨u, us', rfl, hu, htail⟩ := h.cons ht
    exact .cons hu (ih htail hrest)

lemma forall_kind {P : Kind → Prop} (h : Spaced ts us) (hnewline : P .newline)
    (hts : ∀ t ∈ ts, P t.kind) : ∀ u ∈ us, P u.kind := by
  induction h with
  | nil => simp
  | token _ hab _ ih =>
    obtain ⟨ht, hrest⟩ := List.forall_mem_cons.mp hts
    exact List.forall_mem_cons.mpr ⟨hab.kind ▸ ht, ih hrest⟩
  | newline _ hu _ ih =>
    have hrest := (List.forall_mem_cons.mp hts).2
    exact List.forall_mem_cons.mpr ⟨hu ▸ hnewline, ih hrest⟩
  | left _ _ _ ih => exact ih (List.forall_mem_cons.mp hts).2
  | right hu _ _ ih => exact List.forall_mem_cons.mpr ⟨hu ▸ hnewline, ih hts⟩

lemma head_newline (h : Spaced (t :: tail) us) (ht : t.kind = .newline) :
    ∃ u us', us = u :: us' ∧ u.kind = .newline := by
  generalize hxs : t :: tail = xs at h
  induction h generalizing t tail with
  | nil => simp at hxs
  | token ht₀ _ _ _ =>
    obtain ⟨rfl, -⟩ := List.cons.inj hxs
    exact absurd ht ht₀
  | newline _ hu₀ _ _ => exact ⟨_, _, rfl, hu₀⟩
  | left _ ht₁ _ ih => exact ih ht₁ rfl
  | right hu₀ _ _ _ => exact ⟨_, _, rfl, hu₀⟩

/-- What stands behind a newline corresponds to what stands behind newlines, if any. -/
lemma pass (h : Spaced (t :: tail) us) (ht : t.kind = .newline) :
    ∃ gap us', us = gap ++ us' ∧ (∀ u ∈ gap, u.kind = .newline) ∧ Spaced tail us' := by
  generalize hxs : t :: tail = xs at h
  induction h with
  | nil => simp at hxs
  | token ht₀ _ _ _ =>
    obtain ⟨rfl, -⟩ := List.cons.inj hxs
    exact absurd ht ht₀
  | @newline t₀ u₀ ts us _ hu₀ hrest _ =>
    obtain ⟨-, rfl⟩ := List.cons.inj hxs
    exact ⟨[u₀], us, rfl, by simpa using hu₀, hrest⟩
  | @left t₀ t₁ ts us _ _ hrest _ =>
    obtain ⟨-, rfl⟩ := List.cons.inj hxs
    exact ⟨[], us, rfl, by simp, hrest⟩
  | @right u₀ u₁ ts us hu₀ _ _ ih =>
    obtain ⟨gap, us', heq, hgap, htail⟩ := ih hxs
    exact ⟨u₀ :: gap, us', by rw [heq]; rfl, List.forall_mem_cons.mpr ⟨hu₀, hgap⟩, htail⟩

lemma filter (h : Spaced ts us) :
    List.Forall₂ Token.Alike (ts.filter fun t => t.kind ≠ .newline)
      (us.filter fun u => u.kind ≠ .newline) := by
  induction h with
  | nil => exact .nil
  | token ht hab _ ih =>
    have hu := hab.kind ▸ ht
    rw [List.filter_cons_of_pos (by simpa using ht), List.filter_cons_of_pos (by simpa using hu)]
    exact .cons hab ih
  | newline ht hu _ ih =>
    rwa [List.filter_cons_of_neg (by simpa using ht), List.filter_cons_of_neg (by simpa using hu)]
  | left ht _ _ ih => rwa [List.filter_cons_of_neg (by simpa using ht)]
  | right hu _ _ ih => rwa [List.filter_cons_of_neg (a := _) (by simpa using hu)]

end Spaced

/-! ### Condensed tokens -/

open Grouping in
lemma collapseFrom_true (ts : List Token) :
    collapseFrom true ts = collapseFrom false (ts.dropWhile isNewline) := by
  induction ts with
  | nil => rfl
  | cons t rest ih =>
    by_cases ht : t.kind = .newline
    · rw [List.dropWhile_cons_of_pos (isNewline_iff.mpr ht), ← ih]
      simp [collapseFrom, ht]
    · rw [List.dropWhile_cons_of_neg (by simpa [isNewline] using ht)]
      simp [collapseFrom, ht]

lemma collapseFrom_cons (t : Token) (rest : List Token) :
    collapseFrom false (t :: rest) = t :: collapseFrom (t.kind = .newline) rest := by
  by_cases ht : t.kind = .newline <;> simp [collapseFrom, ht]

open Grouping in
/-- Newlines behind a newline may be put back. -/
lemma Spaced.restore {ts us : List Token}
    (h : ∀ n : Token, n.kind = .newline → Spaced (n :: ts.dropWhile isNewline) us) {n : Token}
    (hn : n.kind = .newline) : Spaced (n :: ts) us := by
  induction ts generalizing n with
  | nil => exact h n hn
  | cons t rest ih =>
    by_cases ht : t.kind = .newline
    · rw [List.dropWhile_cons_of_pos (isNewline_iff.mpr ht)] at h
      exact .left hn ht (ih h ht)
    · rw [List.dropWhile_cons_of_neg (by simpa [isNewline] using ht)] at h
      exact h n hn

/-- **Tokens that agree when condensed** differ in the lengths of runs of newlines at most. -/
lemma spaced_of_collapse {ts us : List Token}
    (h : List.Forall₂ Token.Similar (collapseFrom false ts) (collapseFrom false us)) :
    Spaced ts us := by
  induction hlength : ts.length using Nat.strongRecOn generalizing ts us with
  | ind k ih =>
    cases ts with
    | nil =>
      cases us with
      | nil => exact .nil
      | cons u us =>
        rw [collapseFrom_cons] at h
        exact absurd (List.forall₂_nil_left_iff.mp h) (by simp)
    | cons t ts =>
      cases us with
      | nil =>
        rw [collapseFrom_cons] at h
        exact absurd (List.forall₂_nil_right_iff.mp h) (by simp)
      | cons u us =>
        rw [collapseFrom_cons, collapseFrom_cons] at h
        obtain ⟨htu, hrest⟩ := List.forall₂_cons.mp h
        rw [List.length_cons] at hlength
        by_cases ht : t.kind = .newline
        · have hu : u.kind = .newline := htu.kind ▸ ht
          simp only [ht, hu, decide_true, collapseFrom_true] at hrest
          have hshort := (List.dropWhile_suffix Grouping.isNewline (l := ts)).length_le
          have hbehind := ih _ (by omega) hrest rfl
          -- the newlines that were dropped are put back on one side and then on the other
          have hleft (m : Token) (hm : m.kind = .newline) :
              Spaced (t :: ts) (m :: us.dropWhile Grouping.isNewline) :=
            Spaced.restore (fun n hn => .newline hn hm hbehind) ht
          exact (Spaced.restore (fun m hm => (hleft m hm).symm) hu).symm
        · have hu : u.kind ≠ .newline := htu.kind ▸ ht
          simp only [ht, hu, decide_false] at hrest
          exact .token ht ⟨htu.kind, htu.text ht⟩ (ih _ (by omega) hrest rfl)

/-! ### Declarations -/

namespace Nesting

lemma WellNested.spaced {ts us : List Token} (h : WellNested ts) (hs : Spaced ts us) :
    WellNested us := by
  have hnewline (ts : List Token) :
      WellNested (ts.filter fun t => t.kind ≠ .newline) ↔ WellNested ts := by
    rw [wellNested_iff, wellNested_iff, run_filter]
    intro t _ hkind
    have heq : t.kind = .newline := by simpa using hkind
    rw [heq]
    decide
  exact (hnewline us).mp (((hnewline ts).mpr h).alike hs.filter)

end Nesting

namespace Grouping

variable {ts us : List Token}

lemma lines_behind_newlines {gap : List Token} (hgap : ∀ t ∈ gap, t.kind = .newline)
    {ls : List (List Token)} (h : Lines us ls) : Lines (gap ++ us) ls := by
  induction gap with
  | nil => exact h
  | cons t gap ih =>
    obtain ⟨ht, hrest⟩ := List.forall_mem_cons.mp hgap
    exact .newline ht (ih hrest)

lemma Lines.behind_newline {t : Token} {ls : List (List Token)} (h : Lines (t :: ts) ls)
    (ht : t.kind = .newline) : Lines ts ls := by
  generalize hxs : t :: ts = xs at h
  cases h with
  | nil => simp at hxs
  | newline _ hrest =>
    obtain ⟨-, rfl⟩ := List.cons.inj hxs
    exact hrest
  | last _ hl =>
    subst hxs
    exact absurd ht (hl t (by simp))
  | @line line rest n ls hne hl _ _ =>
    obtain ⟨first, line, rfl⟩ := List.exists_cons_of_ne_nil hne
    obtain ⟨rfl, -⟩ := List.cons.inj hxs
    exact absurd ht (hl t (by simp))

lemma Lines.spaced {ls : List (List Token)} (h : Lines ts ls) (hs : Spaced ts us) :
    ∃ ms, Lines us ms ∧ List.Forall₂ (List.Forall₂ Token.Alike) ls ms := by
  induction h generalizing us with
  | nil =>
    rw [hs.eq_nil]
    exact ⟨[], .nil, .nil⟩
  | newline ht _ ih =>
    obtain ⟨gap, us', rfl, hgap, hrest⟩ := hs.pass ht
    obtain ⟨ms, hms, hls⟩ := ih hrest
    exact ⟨ms, lines_behind_newlines hgap hms, hls⟩
  | last hne hl =>
    have ha := hs.line hl
    exact ⟨[us], .last (ne_nil_of_forall₂ ha hne) (forall_kind (· ≠ .newline) ha hl), .cons ha .nil⟩
  | @line line rest n ls hne hl hn _ ih =>
    obtain ⟨front, last, rfl⟩ : ∃ front last, line = front ++ [last] :=
      ⟨line.dropLast, line.getLast hne, (List.dropLast_append_getLast hne).symm⟩
    obtain ⟨line', tail, rfl, hline, htail⟩ := hs.split (hl last (by simp))
    have ha := hline.line hl
    obtain ⟨m, us', rfl, hm⟩ := htail.head_newline hn
    obtain ⟨gap, behind, hgap, hnewlines, hrest⟩ := htail.pass hn
    obtain ⟨ms, hms, hls⟩ := ih hrest
    have hlines : Lines (m :: us') ms := hgap ▸ lines_behind_newlines hnewlines hms
    exact ⟨line' :: ms, .line (ne_nil_of_forall₂ ha hne) (forall_kind (· ≠ .newline) ha hl) hm
      (hlines.behind_newline hm), .cons ha hls⟩

lemma Block.spaced {ls : List (List Token)} (h : Block ts ls) (hs : Spaced ts us) :
    ∃ ms, Block us ms ∧ List.Forall₂ (List.Forall₂ Token.Alike) ls ms := by
  obtain ⟨hgap, hopener, hbody, hlines, hcloser⟩ := h
  obtain ⟨gap, opener, rest, rfl, hgap', ho, hrest⟩ := hs.cut (by simp [hopener])
  obtain ⟨body, closer, none, rfl, hbody', hc, hnone⟩ := hrest.cut (by simp [hcloser])
  rw [hnone.eq_nil]
  obtain ⟨ms, hms, hls⟩ := hlines.spaced hbody'
  exact ⟨ms, .mk (hgap'.forall_kind (P := (· = .newline)) rfl hgap) (ho.kind ▸ hopener)
    (hbody'.forall_kind (P := fun kind => kind ≠ .openBrace ∧ kind ≠ .closeBrace) (by decide) hbody)
    hms (hc.kind ▸ hcloser), hls⟩

lemma Spells.exists_last {d : Declaration} {front : List Token} (h : Spells d front) :
    ∃ rest last, front = rest ++ [last] ∧ last.kind ≠ .newline := by
  cases h with
  | @config keyword block _ _ _ hblock _ =>
    obtain @⟨gap, body, opener, closer, _, -, -, -, -, hcloser⟩ := hblock
    exact ⟨keyword :: (gap ++ opener :: body), closer, by simp, by simp [hcloser]⟩
  | @typeAlias keyword name body _ _ hne hbody =>
    refine ⟨keyword :: name :: body.dropLast, body.getLast hne, ?_, ?_⟩
    · simp [List.dropLast_append_getLast hne]
    · exact hbody _ (List.getLast_mem hne)
  | @record _ keyword name block _ _ _ _ hblock _ =>
    obtain @⟨gap, body, opener, closer, _, -, -, -, -, hcloser⟩ := hblock
    exact ⟨keyword :: name :: (gap ++ opener :: body), closer, by simp, by simp [hcloser]⟩

lemma Spells.spaced {d : Declaration} {front : List Token} (h : Spells d front)
    (hs : Spaced front us) : ∃ e, Spells e us ∧ d.Alike e := by
  cases h with
  | config hk hb hset =>
    obtain ⟨keyword, rest, rfl, hkey, hrest⟩ := hs.cons (by simp [hk])
    obtain ⟨ms, hms, hls⟩ := hb.spaced hrest
    obtain ⟨settings, hsettings, halike⟩ := forall₂_alike SettingLine.alike hset hls
    exact ⟨_, .config (hkey.kind ▸ hk) hms hsettings, .config halike⟩
  | typeAlias hk hn hne hbody =>
    obtain ⟨keyword, rest, rfl, hkey, hrest⟩ := hs.cons (by simp [hk])
    obtain ⟨name, body, rfl, hname, hb⟩ := hrest.cons (by simp [hn])
    have ha := hb.line hbody
    exact ⟨_, .typeAlias (hkey.kind ▸ hk) (hname.kind ▸ hn) (ne_nil_of_forall₂ ha hne)
      (forall_kind (· ≠ .newline) ha hbody), .typeAlias hname ha⟩
  | record hk hn hb hp =>
    obtain ⟨keyword, rest, rfl, hkey, hrest⟩ := hs.cons (by simp [hk])
    obtain ⟨name, block, rfl, hname, hblock⟩ := hrest.cons (by simp [hn])
    obtain ⟨ms, hms, hls⟩ := hb.spaced hblock
    obtain ⟨lines, hlines, halike⟩ := forall₂_alike FieldLine.alike hp hls
    exact ⟨_, .record (hkey.kind ▸ hk) (hname.kind ▸ hn) hms hlines, .record hname halike⟩

lemma MayPrecede.spaced {d e : Declaration} {tail : List Token} (h : MayPrecede d tail)
    (hd : d.Alike e) (hs : Spaced tail us) : MayPrecede e us := by
  cases hd with
  | config _ | record _ _ => trivial
  | typeAlias _ _ =>
    cases tail with
    | nil =>
      rw [hs.eq_nil]
      intro t ht
      simp at ht
    | cons n rest =>
      obtain ⟨u, us', rfl, hu⟩ := hs.head_newline (h n (by simp))
      intro t ht
      obtain rfl := Option.some.inj (Option.mem_def.mp ht)
      exact hu

lemma declares_behind_newlines {gap : List Token} (hgap : ∀ t ∈ gap, t.kind = .newline)
    {ds : List Declaration} (h : Declares us ds) : Declares (gap ++ us) ds := by
  induction gap with
  | nil => exact h
  | cons t gap ih =>
    obtain ⟨ht, hrest⟩ := List.forall_mem_cons.mp hgap
    exact .newline ht (ih hrest)

/-- **Declarations are read alike** whatever the number of newlines in a row. -/
lemma Declares.spaced {ds : List Declaration} (h : Declares ts ds) (hs : Spaced ts us) :
    ∃ es, Declares us es ∧ List.Forall₂ Declaration.Alike ds es := by
  induction h generalizing us with
  | nil =>
    rw [hs.eq_nil]
    exact ⟨[], .nil, .nil⟩
  | newline ht _ ih =>
    obtain ⟨gap, us', rfl, hgap, hrest⟩ := hs.pass ht
    obtain ⟨es, hes, hds⟩ := ih hrest
    exact ⟨es, declares_behind_newlines hgap hes, hds⟩
  | declaration hspells hend _ ih =>
    obtain ⟨rest, last, rfl, hlast⟩ := hspells.exists_last
    obtain ⟨front, tail, rfl, hfront, htail⟩ := hs.split hlast
    obtain ⟨e, he, hde⟩ := hspells.spaced hfront
    obtain ⟨es, hes, hds⟩ := ih htail
    exact ⟨e :: es, .declaration he (hend.spaced hde htail) hes, .cons hde hds⟩

end Grouping

lemma group_spaced {ts us : List Token}
    (hs : Spaced (ts.filter (!·.kind.isLayout)) (us.filter (!·.kind.isLayout)))
    {ds : List Declaration} (h : group ts = .ok ds) :
    ∃ es, group us = .ok es ∧ List.Forall₂ Declaration.Alike ds es := by
  obtain ⟨hcheck, hread⟩ := Grouping.group_eq_ok.mp h
  obtain ⟨es, hes, halike⟩ := (Grouping.declares_of_eq_ok hread).spaced hs
  have hnested (ts : List Token) : Nesting.WellNested (ts.filter (!·.kind.isLayout)) ↔
      Nesting.WellNested ts := by
    rw [Nesting.wellNested_iff, Nesting.wellNested_iff]
    exact Eq.congr_left (Canonical.run_significant [] ts)
  have hwell := (hnested ts).mpr (Nesting.check_eq_ok_iff.mp hcheck)
  refine ⟨es, Grouping.group_eq_ok.mpr ⟨?_, Grouping.eq_ok_of_declares hes⟩, halike⟩
  exact Nesting.check_eq_ok_iff.mpr ((hnested us).mp (hwell.spaced hs))

/-- **Texts that differ in layout only** are grouped and resolved alike, or rejected alike. -/
lemma resolve_spaced {ts us : List Token}
    (hs : Spaced (ts.filter (!·.kind.isLayout)) (us.filter (!·.kind.isLayout))) :
    Agree Eq (group ts >>= resolve) (group us >>= resolve) := by
  cases ht : group ts with
  | ok ds =>
    obtain ⟨es, hes, halike⟩ := group_spaced hs ht
    rw [hes]
    exact resolve_agree halike
  | error d =>
    cases hu : group us with
    | ok es =>
      obtain ⟨ds, hds, -⟩ := group_spaced hs.symm hu
      simp [hds] at ht
    | error e =>
      obtain ⟨_, -, cause, hcause, rfl⟩ := group_error ht
      obtain ⟨_, -, cause', hcause', rfl⟩ := group_error hu
      exact .error ((List.mem_singleton.mp hcause).trans (List.mem_singleton.mp hcause').symm)

lemma compile_of_ok {source : String} {ts : List Token} (hts : tokenize source = .ok ts)
    {s : Schema} (h : (group ts >>= resolve) = .ok s) : compile source = .ok s.files := by
  obtain ⟨ds, hds, hs⟩ := bind_eq_ok.mp h
  exact compile_eq_ok.mpr ⟨s, resolveSource_eq_ok.mpr ⟨ts, ds, hts, hds, hs⟩, rfl⟩

lemma compile_of_error {source : String} {ts : List Token} (hts : tokenize source = .ok ts)
    {d : Diagnostic} (h : (group ts >>= resolve) = .error d) :
    compile source = .error (d.attach inlineLabel source) :=
  compileAs_eq_error.mpr ⟨d, rfl, .inr ⟨ts, hts, bind_eq_error.mp h⟩⟩

/-- **Layout does not matter.** If the tokens of two texts agree without white space and comments
and with one newline for every run of newlines, both texts compile to the same files, or both are
rejected under the same category. -/
theorem layout_irrelevant {source source' : String} {ts us : List Token}
    (hts : tokenize source = .ok ts) (hus : tokenize source' = .ok us)
    (h : List.Forall₂ Token.Similar (condensed ts) (condensed us)) :
    (∃ files, compile source = .ok files ∧ compile source' = .ok files) ∨
      ∃ d d', compile source = .error d ∧ compile source' = .error d' ∧
        d.cause.category = d'.cause.category := by
  have hagree := resolve_spaced (spaced_of_collapse h)
  generalize hx : (group ts >>= resolve) = x at hagree
  generalize hy : (group us >>= resolve) = y at hagree
  cases hagree with
  | ok hsame =>
    subst hsame
    exact .inl ⟨_, compile_of_ok hts hx, compile_of_ok hus hy⟩
  | error hcategory =>
    exact .inr ⟨_, _, compile_of_error hts hx, compile_of_error hus hy, hcategory⟩

/-- A text with single line ends. -/
def plainSource : String :=
  "config\n \x7b\nstrict true\n\x7d\nalias A string\nmodel M \x7b\nx optional(A)\n\x7d\n"

/-- The same text with comments, blank lines, other blanks, and more line ends. -/
def spreadSource : String :=
  "config // settings\n\n\t\x7b\n\n  strict\ttrue // on\n\n\x7d\n\n\nalias  A string\n// next\n"
    ++ "model M \x7b // one\n  x  optional( A)\n\n\x7d\n\n"

theorem layout_irrelevant_spread :
    ∃ files, compile plainSource = .ok files ∧ compile spreadSource = .ok files := by
  have hagree : ((tokenize plainSource).toOption.bind fun ts =>
      (tokenize spreadSource).toOption.map fun us =>
        decide (List.Forall₂ Token.Similar (condensed ts) (condensed us))) = some true := by
    decide +kernel
  have hok : (compile plainSource).toOption.isSome = true := by decide +kernel
  obtain ⟨ts, hts, hspread⟩ := Option.bind_eq_some_iff.mp hagree
  obtain ⟨us, hus, hsimilar⟩ := Option.map_eq_some_iff.mp hspread
  rcases layout_irrelevant (toOption_eq_some.mp hts) (toOption_eq_some.mp hus)
    (of_decide_eq_true hsimilar) with hfiles | ⟨d, -, hd, -⟩
  · exact hfiles
  · simp [hd, Except.toOption] at hok

end TypeGuard
