import Mathlib.Data.List.Infix
import TypeGuard.Proofs.Acceptance
import TypeGuard.Proofs.Filling
import TypeGuard.Proofs.Order
import TypeGuard.Proofs.Pipeline
import TypeGuard.Proofs.Printable

/-!
The comment that holds the configuration ends where a comment ends.

A comment is closed by a star and a slash. The texts around the configuration, the names of
settings, numbers and truth values have no such pair, and quoting a text neither adds nor removes
one. So the comment is closed once at its end, and once more for every pair in a string of the
configuration.
-/

namespace TypeGuard

open Outcome

namespace Text

def occurrences (piece text : List Char) : Nat := text.tails.countP (piece.isPrefixOf ·)

/-- The number of places at which a comment would be closed. -/
def closings (text : List Char) : Nat := occurrences ['*', '/'] text

@[simp] lemma closings_nil : closings [] = 0 := rfl

lemma closings_cons (c : Char) (cs : List Char) :
    closings (c :: cs) = closings cs + if c = '*' ∧ cs.head? = some '/' then 1 else 0 := by
  unfold closings occurrences
  rw [List.tails_cons, List.countP_cons]
  cases cs with
  | nil => simp
  | cons d cs =>
    have hstart : ['*', '/'].isPrefixOf (c :: d :: cs) = true ↔ c = '*' ∧ d = '/' := by
      simp [List.isPrefixOf, eq_comm (a := c), eq_comm (a := d)]
    simp only [hstart, List.head?_cons, Option.some.injEq]

/-- Texts side by side are closed where each of them is, unless a star meets a slash. -/
lemma closings_append {front back : List Char}
    (h : front.getLast? ≠ some '*' ∨ back.head? ≠ some '/') :
    closings (front ++ back) = closings front + closings back := by
  induction front with
  | nil => simp
  | cons c front ih =>
    rw [List.cons_append, closings_cons, closings_cons]
    cases front with
    | nil =>
      have hsplit : ¬ (c = '*' ∧ back.head? = some '/') := by
        rintro ⟨rfl, hslash⟩
        rcases h with h | h
        · exact h rfl
        · exact h hslash
      simp [hsplit]
    | cons d front =>
      have hih := ih (by simpa using h)
      rw [hih]
      exact Nat.add_right_comm _ _ _

lemma closings_eq_zero {text : List Char} (h : '*' ∉ text) : closings text = 0 := by
  induction text with
  | nil => rfl
  | cons c rest ih =>
    obtain ⟨hc, hrest⟩ : '*' ≠ c ∧ '*' ∉ rest := by simpa using h
    rw [closings_cons, ih hrest]
    simp [Ne.symm hc]

lemma closings_eq_zero_iff {text : List Char} : closings text = 0 ↔ ¬ ['*', '/'] <:+: text := by
  unfold closings occurrences
  rw [List.countP_eq_zero, List.infix_iff_prefix_suffix]
  simp only [List.mem_tails, List.isPrefixOf_iff_prefix, not_exists, not_and]
  exact forall_congr' fun _ => imp_not_comm

/-! ### Quoted texts -/

lemma head?_quoted (cs : List Char) :
    (cs.flatMap quotedChar).head? = some '/' ↔ cs.head? = some '/' := by
  cases cs with
  | nil => simp
  | cons c rest =>
    rcases verbatim_or_escaped c with hc | ⟨more, hc, -⟩
    · rw [List.flatMap_cons, hc]
      simp
    · have hslash : c ≠ '/' := by
        rintro rfl
        have hself : quotedChar '/' = ['/'] := by decide
        simp [hself] at hc
      rw [List.flatMap_cons, hc]
      simp [hslash]

/-- **Quoting keeps the places where a comment would be closed.** -/
lemma closings_flatMap (cs : List Char) : closings (cs.flatMap quotedChar) = closings cs := by
  induction cs with
  | nil => rfl
  | cons c rest ih =>
    rw [List.flatMap_cons, closings_cons]
    rcases verbatim_or_escaped c with hc | ⟨more, hc, hescape⟩
    · rw [hc, List.singleton_append, closings_cons, ih]
      simp only [head?_quoted]
    · have hstar : '*' ∉ quotedChar c := fun h => absurd (hescape h) (by decide)
      have hlast : (quotedChar c).getLast? ≠ some '*' := fun h => hstar (List.mem_of_getLast? h)
      have hne : c ≠ '*' := by
        rintro rfl
        have hself : quotedChar '*' = ['*'] := by decide
        simp [hself] at hc
      rw [closings_append (.inl hlast), closings_eq_zero hstar, ih]
      simp [hne]

lemma closings_quoted (text : String) : closings (quoted text).toList = closings text.toList := by
  have hquoted : (quoted text).toList = '"' :: (text.toList.flatMap quotedChar ++ ['"']) := by
    simp [quoted]
  rw [hquoted, closings_cons, closings_append (.inr (by simp)), closings_flatMap]
  simp [closings_cons]

end Text

/-! ### The comment -/

/-- The places at which a string of the configuration would close a comment. -/
def Literal.closings : Literal → Nat
  | .string value => Text.closings value.toList
  | _ => 0

lemma Literal.closings_json (value : Literal) :
    Text.closings value.json.toList = value.closings := by
  cases value with
  | number x =>
    exact Text.closings_eq_zero fun h => absurd (Text.numeric_numberJson x '*' h) (by decide)
  | string s => exact Text.closings_quoted s
  | boolean b => cases b <;> rfl

namespace Configuration

lemma closings_entry (key : String) (value : Literal) :
    Text.closings ("    " ++ Text.quoted key ++ ": " ++ value.json).toList =
      Text.closings key.toList + value.closings := by
  have hlast : (Text.quoted key).toList.getLast? ≠ some '*' := by
    rw [Text.quoted, String.toList_ofList, List.getLast?_concat]
    decide
  simp only [String.toList_append, List.append_assoc]
  rw [Text.closings_append (.inl (by decide)), Text.closings_append (.inl hlast),
    Text.closings_append (.inl (by decide)), Text.closings_quoted, Literal.closings_json]
  have hindent : Text.closings "    ".toList = 0 := by decide
  have hcolon : Text.closings ": ".toList = 0 := by decide
  omega

lemma closings_entryLines (entries : List (String × Literal)) :
    ((entryLines entries).map fun line => Text.closings line.toList).sum =
      (entries.map fun e => Text.closings e.1.toList + e.2.closings).sum := by
  fun_induction entryLines entries with
  | case1 => rfl
  | case2 key value => simp only [List.map_singleton, List.sum_singleton, closings_entry]
  | case3 key value next rest ih =>
    have hcomma : Text.closings ("    " ++ Text.quoted key ++ ": " ++ value.json ++ ",").toList =
        Text.closings key.toList + value.closings := by
      rw [String.toList_append, Text.closings_append (.inr (by decide)), closings_entry]
      rfl
    rw [List.map_cons, List.sum_cons, hcomma, ih]
    rfl

lemma closings_jsonLines (c : Configuration) :
    (c.jsonLines.map fun line => Text.closings line.toList).sum =
      (c.entries.map fun e => Text.closings e.1.toList + e.2.closings).sum := by
  have hopen : Text.closings "\x7b".toList = 0 := by decide
  have hclose : Text.closings "\x7d".toList = 0 := by decide
  unfold jsonLines
  split
  · next hnil =>
    rw [hnil]
    decide
  · simp only [List.map_cons, List.map_append, List.map_nil, List.cons_append, List.sum_cons,
      List.sum_append, List.sum_nil, closings_entryLines, hopen, hclose]
    omega

lemma closings_eq_zero_iff {c : Configuration} :
    (c.entries.map fun e => e.2.closings).sum = 0 ↔
      ∀ key value, (key, Literal.string value) ∈ c.entries → ¬ "*/".toList <:+: value.toList := by
  rw [List.sum_eq_zero_iff_forall_eq_nat, List.forall_mem_map]
  constructor
  · intro h key value hmem
    exact Text.closings_eq_zero_iff.mp (h _ hmem)
  · rintro h ⟨key, value⟩ hmem
    cases value with
    | string value => exact Text.closings_eq_zero_iff.mpr (h key value hmem)
    | number x => rfl
    | boolean b => rfl

end Configuration

namespace Output

lemma closings_starred (lines : List String) (back : List Char) :
    Text.closings ((String.join (lines.map fun line => " * " ++ line ++ "\n")).toList ++ back) =
      (lines.map fun line => Text.closings line.toList).sum + Text.closings back := by
  induction lines with
  | nil => simp
  | cons line lines ih =>
    have hjoin :
        (String.join ((line :: lines).map fun line => " * " ++ line ++ "\n")).toList ++ back =
        " * ".toList ++ (line.toList ++ ('\n' ::
          ((String.join (lines.map fun line => " * " ++ line ++ "\n")).toList ++ back))) := by
      simp [String.toList_join]
    have hstar : Text.closings " * ".toList = 0 := by decide
    have hblank : " * ".toList.getLast? ≠ some '*' := by decide
    rw [hjoin, Text.closings_append (.inl hblank), Text.closings_append (.inr (by simp)),
      Text.closings_cons, ih, hstar, List.map_cons, List.sum_cons]
    simp
    omega

lemma closings_configComment (c : Configuration) :
    Text.closings (configComment c).toList =
      1 + (c.entries.map fun e => Text.closings e.1.toList + e.2.closings).sum := by
  have hhead : Text.closings "/**\n * config\n".toList = 0 := by decide
  have hend : Text.closings " */".toList = 1 := by decide
  have hline : "/**\n * config\n".toList.getLast? ≠ some '*' := by decide
  delta configComment
  rw [String.toList_append, String.toList_append, List.append_assoc,
    Text.closings_append (.inl hline), closings_starred, hhead, hend,
    Configuration.closings_jsonLines]
  omega

lemma opening_prefix (c : Configuration) : "/**".toList <+: (configComment c).toList := by
  have hhead : "/**\n * config\n".toList <+: (configComment c).toList := by
    delta configComment
    rw [String.toList_append, String.toList_append, List.append_assoc]
    exact List.prefix_append _ _
  have hopening : "/**".toList <+: "/**\n * config\n".toList := by decide
  exact hopening.trans hhead

lemma closing_suffix (c : Configuration) : "*/".toList <:+ (configComment c).toList := by
  have hend : " */".toList <:+ (configComment c).toList := by
    delta configComment
    rw [String.toList_append]
    exact List.suffix_append _ _
  have hclosing : "*/".toList <:+ " */".toList := by decide
  exact hclosing.trans hend

lemma header_prefix (c : Configuration) (part : String) (parts : List String) :
    (banner ++ "\n\n" ++ configComment c ++ "\n\n").toList <+:
      (file (banner :: configComment c :: part :: parts)).toList := by
  refine ⟨(String.intercalate "\n\n" (part :: parts) ++ "\n").toList, ?_⟩
  rw [file, String.intercalate_cons_cons, String.intercalate_cons_cons]
  simp only [String.toList_append, List.append_assoc]

end Output

/-! ### The names of settings -/

namespace Configuration

lemma mem_setEntry {key : String} {value : Literal} {entries : List (String × Literal)}
    {e : String × Literal} (h : e ∈ setEntry key value entries) :
    e.1 = key ∨ e ∈ entries := by
  induction entries with
  | nil =>
    obtain rfl := List.mem_singleton.mp h
    exact .inl rfl
  | cons first rest ih =>
    rw [setEntry] at h
    split at h
    · next hkey =>
      rcases List.mem_cons.mp h with rfl | h
      · exact .inl hkey
      · exact .inr (List.mem_cons_of_mem _ h)
    · rcases List.mem_cons.mp h with rfl | h
      · exact .inr (List.mem_cons_self ..)
      · exact (ih h).imp_right (List.mem_cons_of_mem _)

def Named (c : Configuration) : Prop := ∀ e ∈ c.entries, Text.IsName e.1

lemma Named.closings {c : Configuration} (h : c.Named) :
    (c.entries.map fun e => Text.closings e.1.toList + e.2.closings) =
      c.entries.map fun e => e.2.closings := by
  refine List.map_congr_left fun e he => ?_
  have hstar : '*' ∉ e.1.toList := (h e he).isSymbol.not_mem (by decide)
  rw [Text.closings_eq_zero hstar, Nat.zero_add]

end Configuration

lemma named_of_setting {c c' : Configuration} {s : Setting} (hs : Canonical.PrintableSetting s)
    (hc : c.Named) (h : Resolution.setting c s = .ok c') : c'.Named := by
  obtain ⟨-, -, value, -, rfl⟩ := Resolution.setting_eq_ok.mp h
  intro e he
  rcases Configuration.mem_setEntry he with hkey | he
  · have hspelling := hs.key.proper.spelling
    rw [hs.key.kind] at hspelling
    rw [hkey]
    exact hspelling
  · exact hc e he

lemma named_of_resolveSource {source : String} {s : Schema} (h : resolveSource source = .ok s) :
    s.config.Named := by
  obtain ⟨ts, ds, hts, hds, hs⟩ := resolveSource_eq_ok.mp h
  have hprintable := Canonical.printable_of_resolve hts hds hs
  obtain ⟨r, hr, hschema⟩ := bind_eq_ok.mp hs
  obtain rfl := pure_eq_ok.mp hschema
  have hempty : Resolution.initial.config.Named := by
    intro e he
    simp [Resolution.initial, Configuration.empty] at he
  exact foldlM_induct Configuration.Named
    (fun s hs c c' hnamed hstep =>
      named_of_setting (Canonical.printable_settings hprintable s hs) hnamed hstep)
    hempty (Resolution.foldlM_settings hr)

/-- **The comment of the configuration** stands behind the banner of both files. It starts and ends
as a comment does, and is closed at its end and once more for every place in a string of the
configuration that would close a comment; so it is closed at its end only exactly if no string has
such a place. -/
theorem config_comment_closings {source : String} {files : Files}
    (h : compile source = .ok files) :
    ∃ s, resolveSource source = .ok s ∧
      (Output.banner ++ "\n\n" ++ Output.configComment s.config ++ "\n\n").toList <+:
        files.declarations.toList ∧
      (Output.banner ++ "\n\n" ++ Output.configComment s.config ++ "\n\n").toList <+:
        files.validation.toList ∧
      "/**".toList <+: (Output.configComment s.config).toList ∧
      "*/".toList <:+ (Output.configComment s.config).toList ∧
      Text.occurrences "*/".toList (Output.configComment s.config).toList =
        1 + (s.config.entries.map fun e => e.2.closings).sum ∧
      (Text.occurrences "*/".toList (Output.configComment s.config).toList = 1 ↔
        ∀ key value, (key, Literal.string value) ∈ s.config.entries →
          ¬ "*/".toList <:+: value.toList) := by
  obtain ⟨s, hs, rfl⟩ := compile_eq_ok.mp h
  have hcount : Text.occurrences "*/".toList (Output.configComment s.config).toList =
      1 + (s.config.entries.map fun e => e.2.closings).sum := by
    rw [← (named_of_resolveSource hs).closings]
    exact Output.closings_configComment s.config
  refine ⟨s, hs, Output.header_prefix _ _ _, Output.header_prefix _ _ _,
    Output.opening_prefix s.config, Output.closing_suffix s.config, hcount, ?_⟩
  have honce : 1 + (s.config.entries.map fun e => e.2.closings).sum = 1 ↔
      (s.config.entries.map fun e => e.2.closings).sum = 0 := by omega
  rw [hcount, honce, Configuration.closings_eq_zero_iff]

/-- A configuration with three strings, two of which would close a comment. -/
def notedSource : String :=
  "config \x7b\n  note \"a */ b */\"\n  strict true\n  path '*/'\n  mode \"* /\"\n\x7d\n"

theorem config_comment_closings_noted :
    ∃ files s, compile notedSource = .ok files ∧ resolveSource notedSource = .ok s ∧
      Text.occurrences "*/".toList (Output.configComment s.config).toList =
        1 + (s.config.entries.map fun e => e.2.closings).sum ∧
      (s.config.entries.map fun e => e.2.closings).sum = 3 := by
  have hok : (compile notedSource).toOption.isSome = true := by decide +kernel
  have hsum : (resolveSource notedSource).toOption.map
      (fun s => (s.config.entries.map fun e => e.2.closings).sum) = some 3 := by decide +kernel
  obtain ⟨files, hfiles⟩ := Option.isSome_iff_exists.mp hok
  have hcompile : compile notedSource = .ok files := toOption_eq_some.mp hfiles
  obtain ⟨s, hs, -, -, -, -, hcount, -⟩ := config_comment_closings hcompile
  rw [hs] at hsum
  exact ⟨files, s, hcompile, hs, hcount, Option.some.inj hsum⟩

/-- A string of the configuration closes the comment before its end. -/
theorem config_comment_closed_early :
    (resolveSource "config \x7b\n a \"*/\"\n\x7d\n").toOption.map (fun s =>
      Text.occurrences "*/".toList (Output.configComment s.config).toList) = some 2 := by
  decide +kernel

end TypeGuard
