import TypeGuard.Proofs.Globals
import TypeGuard.Proofs.Order
import TypeGuard.Proofs.Printable
import TypeGuard.Proofs.Provenance

/-!
The configuration of a source text, out of its configuration lines.

A line sets one name, in place if it is there and else at the end. So the names stand in the order
in which they first come up, each with the literal of its last line. A literal is read off its text
alone, and other declarations leave the configuration as it is; so nothing but the texts of the
lines counts.
-/

namespace TypeGuard

open Outcome

/-! ### Setting names -/

namespace Configuration

variable {c c' : Configuration} {key : String} {value : Literal}

lemma get?_nil (key : String) : (⟨[]⟩ : Configuration).get? key = none := rfl

lemma get?_cons (e : String × Literal) (rest : List (String × Literal)) (key : String) :
    (⟨e :: rest⟩ : Configuration).get? key =
      if e.1 = key then some e.2 else (⟨rest⟩ : Configuration).get? key := by
  unfold get?
  by_cases hkey : e.1 = key
  · rw [List.find?_cons_of_pos (by simpa using hkey), if_pos hkey]
    rfl
  · rw [List.find?_cons_of_neg (by simpa using hkey), if_neg hkey]

lemma keys_insert :
    (c.insert key value).keys = if key ∈ c.keys then c.keys else c.keys ++ [key] := by
  unfold keys insert
  induction c.entries with
  | nil => rfl
  | cons e rest ih =>
    rw [setEntry]
    by_cases hkey : e.1 = key
    · simp [hkey]
    · simp only [if_neg hkey, List.map_cons, ih, List.mem_cons, Ne.symm hkey, false_or]
      split <;> rfl

lemma get?_insert (other : String) :
    (c.insert key value).get? other = if key = other then some value else c.get? other := by
  obtain ⟨entries⟩ := c
  unfold insert
  induction entries with
  | nil => rw [setEntry, get?_cons]
  | cons e rest ih =>
    rw [setEntry, get?_cons]
    split
    · next hkey =>
      rw [get?_cons, hkey]
      split <;> rfl
    · next hkey =>
      rw [get?_cons, ih]
      by_cases hother : e.1 = other
      · rw [if_pos hother, if_neg (hother ▸ Ne.symm hkey), if_pos hother]
      · rw [if_neg hother, if_neg hother]

lemma isSome_get? : (c.get? key).isSome = true ↔ key ∈ c.keys := by
  simp [get?, keys]

lemma mem_entries (hnodup : c.keys.Nodup) : (key, value) ∈ c.entries ↔ c.get? key = some value := by
  obtain ⟨entries⟩ := c
  induction entries with
  | nil => simp [get?_nil]
  | cons e rest ih =>
    obtain ⟨hnew, hrest⟩ := List.nodup_cons.mp hnodup
    rw [get?_cons, List.mem_cons, ih hrest]
    split
    · next hkey =>
      have hnone : (⟨rest⟩ : Configuration).get? key = none := by
        rw [← Option.not_isSome_iff_eq_none, isSome_get?, ← hkey]
        exact hnew
      rw [hnone, ← hkey]
      simp [Prod.ext_iff, eq_comm]
    · next hkey =>
      have hne : (key, value) ≠ e := fun heq => hkey (congrArg Prod.fst heq).symm
      simp [hne]

/-- A configuration is its names in order, each with its value. -/
lemma entries_eq (hnodup : c.keys.Nodup) :
    c.entries = c.keys.filterMap fun key => (c.get? key).map fun value => (key, value) := by
  rw [keys, List.filterMap_map]
  conv_lhs => rw [← List.filterMap_some (l := c.entries)]
  refine List.filterMap_congr fun e he => ?_
  have hget : c.get? e.1 = some e.2 := (mem_entries hnodup).mp he
  simp [hget]

end Configuration

/-! ### Literals -/

namespace Literal

/-- The literal that a text spells: a truth value, a finite number, or what stands between two
quotes. -/
def spelled? (text : String) : Option Literal :=
  if text = "true" ∨ text = "false" then some (.boolean (text == "true"))
  else match finite? text with
    | some x => some (.number x)
    | none => if Grouping.isQuoted text then some (.string (unquoted text)) else none

lemma isQuoted_of_spelling {text : String} (h : Kind.string.Spelling text.toList) :
    Grouping.isQuoted text = true := by
  obtain ⟨quote, body, htext, hquote, -⟩ := h
  unfold Grouping.isQuoted
  rw [htext]
  cases body with
  | nil => simpa using hquote
  | cons c rest =>
    have hlast : (c :: (rest ++ [quote])).getLast? = some quote := by
      rw [← List.cons_append, List.getLast?_concat]
    simpa [hlast] using hquote

lemma spelled_of_printable {s : Setting} {value : Literal} (hs : Canonical.PrintableSetting s)
    (h : ofToken s.value = .ok value) : spelled? s.value.text = some value := by
  have htext : (Canonical.valueToken s.value).text = s.value.text := rfl
  have hkind := hs.value
  have hspelling := hs.proper.spelling
  rw [Grouping.valueKind, htext] at hkind
  rw [htext] at hspelling
  unfold ofToken at h
  unfold spelled?
  by_cases htruth : s.value.text = "true" ∨ s.value.text = "false"
  · rw [if_pos (by simpa using htruth)] at hkind
    rw [← hkind] at h
    rw [if_pos htruth, Except.ok.inj h]
  rw [if_neg (by simpa using htruth)] at hkind
  rw [if_neg htruth]
  cases hfinite : finite? s.value.text with
  | some x =>
    simp only [hfinite, Option.isSome_some, if_true] at hkind
    simp only [← hkind, hfinite, Except.ok.injEq] at h
    exact congrArg some h
  | none =>
    simp only [hfinite, Option.isSome_none, Bool.false_eq_true, if_false] at hkind
    by_cases hquoted : Grouping.isQuoted s.value.text = true
    · rw [if_pos hquoted] at hkind
      rw [← hkind] at h
      rw [if_pos hquoted, Except.ok.inj h]
    -- a text that spells nothing has the kind of its token, and none of these is left
    rw [if_neg hquoted] at hkind
    exfalso
    have hplain := hs.value_kind
    simp only [List.mem_cons, List.not_mem_nil, or_false] at hplain
    rcases hplain with hk | hk | hk | hk
    · simp [← hkind, hk] at h
    · simp [← hkind, hk, hfinite] at h
    · rw [hk] at hspelling
      exact hquoted (isQuoted_of_spelling hspelling)
    · rw [hk] at hspelling
      exact htruth (hspelling.imp String.toList_inj.mp String.toList_inj.mp)

end Literal

/-! ### Lines -/

def Setting.texts (s : Setting) : String × String := (s.key.text, s.value.text)

/-- The configuration lines of declarations, in order, each with its two texts. -/
def configLines (ds : List Declaration) : List (String × String) :=
  (ds.flatMap Declaration.settings).map Setting.texts

/-- A configuration made from lines: every name at the place where it first comes up, with the
literal of its last line. -/
structure Configuration.Merges (c : Configuration) (lines : List (String × String)) : Prop where
  keys : c.keys = (lines.map (·.1)).eraseDups
  value : ∀ key, c.get? key = (lines.reverse.lookup key).bind Literal.spelled?

namespace Configuration.Merges

variable {c c' : Configuration} {lines : List (String × String)} {key text : String}

lemma nil : Configuration.empty.Merges [] := ⟨rfl, fun _ => rfl⟩

/-- **One line** sets its name. -/
lemma insert {value : Literal} (h : c.Merges lines) (hvalue : Literal.spelled? text = some value) :
    (c.insert key value).Merges (lines ++ [(key, text)]) := by
  constructor
  · rw [keys_insert, h.keys, List.map_append, List.map_singleton, eraseDups_concat]
  · intro other
    rw [get?_insert, h.value, List.reverse_append, List.reverse_singleton, List.singleton_append,
      List.lookup_cons]
    by_cases hother : key = other
    · simp [hother, hvalue]
    · have hne : (other == key) = false := by simpa using Ne.symm hother
      rw [if_neg hother, hne]

lemma nodup (h : c.Merges lines) : c.keys.Nodup := h.keys ▸ nodup_eraseDups _

lemma mem_keys (h : c.Merges lines) : key ∈ c.keys ↔ key ∈ lines.map (·.1) := by
  rw [h.keys, List.mem_eraseDups]

lemma firstOccurrences (h : c.Merges lines) : FirstOccurrences (lines.map (·.1)) c.keys :=
  h.keys ▸ firstOccurrences_eraseDups _

lemma last {front back : List (String × String)} (h : c.Merges lines)
    (hsplit : lines = front ++ (key, text) :: back) (hlast : key ∉ back.map (·.1)) :
    ∃ value, Literal.spelled? text = some value ∧ c.get? key = some value := by
  have hlookup : lines.reverse.lookup key = some text := by
    refine List.lookup_eq_some_iff.mpr ⟨back.reverse, front.reverse, by simp [hsplit], ?_⟩
    intro line hline
    have hmem : line.1 ∈ back.map (·.1) := List.mem_map_of_mem (List.mem_reverse.mp hline)
    simpa using fun heq : key = line.1 => hlast (heq ▸ hmem)
  have hkey : key ∈ c.keys := h.mem_keys.mpr (by simp [hsplit])
  obtain ⟨value, hvalue⟩ := Option.isSome_iff_exists.mp (isSome_get?.mpr hkey)
  refine ⟨value, ?_, hvalue⟩
  rw [← hvalue, h.value, hlookup, Option.bind_some]

lemma absent (h : c.Merges lines) (hkey : key ∉ lines.map (·.1)) : c.get? key = none := by
  rw [← Option.not_isSome_iff_eq_none, isSome_get?, h.mem_keys]
  exact hkey

lemma unique (h : c.Merges lines) (h' : c'.Merges lines) : c = c' := by
  have hentries : c.entries = c'.entries := by
    rw [entries_eq h.nodup, entries_eq h'.nodup, h.keys, h'.keys]
    simp only [h.value, h'.value]
  cases c
  exact congrArg Configuration.mk hentries

end Configuration.Merges

/-! ### All lines of a source text -/

namespace Resolution

variable {registry : Registry} {r r' : Resolution}

lemma merges_foldlM {settings : List Setting} {c c' : Configuration}
    {lines : List (String × String)} (hs : ∀ s ∈ settings, Canonical.PrintableSetting s)
    (hc : c.Merges lines) (h : settings.foldlM setting c = .ok c') :
    c'.Merges (lines ++ settings.map Setting.texts) := by
  induction settings generalizing c lines with
  | nil =>
    rw [List.foldlM_nil, pure_eq_ok] at h
    simpa [← h] using hc
  | cons s settings ih =>
    rw [List.foldlM_cons, bind_eq_ok] at h
    obtain ⟨c₁, h₁, h₂⟩ := h
    obtain ⟨hfirst, hrest⟩ := List.forall_mem_cons.mp hs
    obtain ⟨-, -, value, hvalue, rfl⟩ := setting_eq_ok.mp h₁
    have hset : (c.insert s.key.text value).Merges (lines ++ [s.texts]) :=
      hc.insert (Literal.spelled_of_printable hfirst hvalue)
    simpa using ih hrest hset h₂

/-- Configuration blocks alone add nothing else. -/
lemma eq_of_configs {ds : List Declaration} (hds : ∀ d ∈ ds, Canonical.isConfig d = true)
    (h : ds.foldlM (declaration registry) r = .ok r') : r' = { r with config := r'.config } :=
  Except.ok.inj (h.symm.trans (foldlM_configs hds h rfl))

end Resolution

lemma merges_of_source {source : String} {s : Schema} {ds : List Declaration}
    (h : resolveSource source = .ok s) (hparse : parse source = .ok ds) :
    s.config.Merges (configLines ds) := by
  obtain ⟨tokens, ds', htokens, hgroup, hresolve⟩ := resolveSource_eq_ok.mp h
  obtain rfl : ds' = ds := by
    rw [parse, htokens] at hparse
    exact Except.ok.inj (hgroup.symm.trans hparse)
  obtain ⟨r, hr, rfl⟩ := exists_of_resolve hresolve
  have hprintable := Canonical.printable_of_resolve htokens hgroup hresolve
  exact Resolution.merges_foldlM (Canonical.printable_settings hprintable) .nil
    (Resolution.foldlM_settings hr)

/-- **Configurations keep the first place and the last value.** In the configuration of a source
text that resolves, no name is repeated, and the names stand in the order in which they first come
up in the configuration lines, whatever declarations stand between them. The value of a name, and
what is found under it, is the literal that its last line spells; nothing is found under any other
name. All texts with the same configuration lines have the same configuration. If a text has
configuration blocks only, its schema has nothing but the configuration. -/
theorem config_first_place_last_value {source : String} {s : Schema}
    (h : resolveSource source = .ok s) :
    ∃ tokens ds, tokenize source = .ok tokens ∧ parse source = .ok ds ∧
      Grouping.Declares (tokens.filter (!·.kind.isLayout)) ds ∧
      s.config.keys.Nodup ∧
      FirstOccurrences ((configLines ds).map (·.1)) s.config.keys ∧
      (∀ front key text back, configLines ds = front ++ (key, text) :: back →
        key ∉ back.map (·.1) → ∃ value, Literal.spelled? text = some value ∧
          (key, value) ∈ s.config.entries ∧ s.config.get? key = some value) ∧
      (∀ key value, (key, value) ∈ s.config.entries ↔ s.config.get? key = some value) ∧
      (∀ key, key ∉ (configLines ds).map (·.1) → s.config.get? key = none) ∧
      (∀ source' s' ds', resolveSource source' = .ok s' → parse source' = .ok ds' →
        configLines ds' = configLines ds → s'.config = s.config) ∧
      ((∀ d ∈ ds, Canonical.isConfig d = true) →
        s.aliases = [] ∧ s.definitions = [] ∧ s.models = [] ∧ s.preamble = "" ∧
          s.dependencies = []) := by
  obtain ⟨tokens, ds, htokens, hgroup, hresolve⟩ := resolveSource_eq_ok.mp h
  have hparse : parse source = .ok ds := bind_eq_ok.mpr ⟨tokens, htokens, hgroup⟩
  have hdeclares := Grouping.declares_of_eq_ok (Grouping.group_eq_ok.mp hgroup).2
  have hmerges := merges_of_source h hparse
  refine ⟨tokens, ds, htokens, hparse, hdeclares, hmerges.nodup, hmerges.firstOccurrences, ?_,
    fun _ _ => Configuration.mem_entries hmerges.nodup, fun _ => hmerges.absent, ?_, ?_⟩
  · intro front key text back hsplit hlast
    obtain ⟨value, hspelled, hget⟩ := hmerges.last hsplit hlast
    exact ⟨value, hspelled, (Configuration.mem_entries hmerges.nodup).mpr hget, hget⟩
  · intro source' s' ds' h' hparse' hlines
    have hmerges' := merges_of_source h' hparse'
    rw [hlines] at hmerges'
    exact hmerges'.unique hmerges
  · intro hconfigs
    obtain ⟨r, hr, rfl⟩ := exists_of_resolve hresolve
    rw [Resolution.eq_of_configs hconfigs hr]
    exact ⟨rfl, rfl, rfl, rfl, rfl⟩

/-- Two configuration blocks, with other declarations around them. -/
def scatteredSource : String :=
  "config \x7b\n  strict true\n  mode 'a'\n\x7d\nalias Id string\n"
    ++ "config \x7b\n  strict false\n\x7d\nmodel User \x7b\n  id Id\n\x7d\n"

/-- The same lines in one block. -/
def gatheredSource : String := "config \x7b\n  strict true\n  mode 'a'\n  strict false\n\x7d\n"

theorem config_first_place_last_value_scattered :
    ∃ s s', resolveSource scatteredSource = .ok s ∧ resolveSource gatheredSource = .ok s' ∧
      s.config.keys = ["strict", "mode"] ∧ s.models ≠ [] ∧
      s.config.get? "strict" = some (.boolean false) ∧ s.config.get? "Id" = none ∧
      s'.config = s.config ∧ s'.models = [] := by
  let lines := [("strict", "true"), ("mode", "'a'"), ("strict", "false")]
  have hrun : (resolveSource scatteredSource).toOption.any (fun s =>
      s.config.keys = ["strict", "mode"] ∧ s.models.isEmpty = false) = true := by
    decide +kernel
  have hrun' : (resolveSource gatheredSource).toOption.isSome = true := by decide +kernel
  have hlines : (parse scatteredSource).toOption.map configLines = some lines := by
    decide +kernel
  have hlines' : (parse gatheredSource).toOption.any (fun ds =>
      configLines ds = lines ∧ ds.all Canonical.isConfig = true) = true := by decide +kernel
  obtain ⟨s, hs, hshape⟩ := (Option.any_eq_true _ _).mp hrun
  obtain ⟨s', hs'⟩ := Option.isSome_iff_exists.mp hrun'
  obtain ⟨hkeys, hmodels⟩ := of_decide_eq_true hshape
  obtain ⟨-, ds, -, hparse, -, -, -, hlast, -, habsent, hsame, -⟩ :=
    config_first_place_last_value (toOption_eq_some.mp hs)
  obtain ⟨-, ds', -, hparse', -, -, -, -, -, -, -, hconfigs⟩ :=
    config_first_place_last_value (toOption_eq_some.mp hs')
  rw [hparse] at hlines
  rw [hparse'] at hlines'
  have hds : configLines ds = lines := Option.some.inj hlines
  obtain ⟨hds', hall⟩ := of_decide_eq_true hlines'
  refine ⟨s, s', toOption_eq_some.mp hs, toOption_eq_some.mp hs', hkeys, by simpa using hmodels,
    ?_, ?_, hsame _ s' ds' (toOption_eq_some.mp hs') hparse' (hds'.trans hds.symm), ?_⟩
  · obtain ⟨value, hvalue, -, hget⟩ :=
      hlast [("strict", "true"), ("mode", "'a'")] "strict" "false" [] hds (by simp)
    rw [hget, ← hvalue]
    rfl
  · refine habsent "Id" ?_
    rw [hds]
    decide
  · exact (hconfigs (List.all_eq_true.mp hall)).2.2.1

end TypeGuard
