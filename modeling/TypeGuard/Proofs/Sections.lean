import TypeGuard.Output.Validation
import TypeGuard.Proofs.OneLine

/-!
The sections of a generated file, read back from its text.

A file is printed on rows, with a blank row between its parts. No row has a line end in it, so the
lines of the text are the rows again. A section is found by its title and ends at the next blank
line, and nothing that stands before the globals looks like their title.
-/

namespace TypeGuard

open Text

namespace Text

lemma lines_rows_append {rows : List String} (h : ∀ row ∈ rows, OneLine row) (rest : String) :
    lines (String.join (rows.map (· ++ "\n")) ++ rest) = rows ++ lines rest := by
  induction rows with
  | nil => simp
  | cons row rows ih =>
    obtain ⟨hrow, hrows⟩ := List.forall_mem_cons.mp h
    have hsplit : (String.join ((row :: rows).map (· ++ "\n")) ++ rest).toList =
        row.toList ++ '\n' :: (String.join (rows.map (· ++ "\n")) ++ rest).toList := by
      simp [String.toList_join]
    rw [lines, hsplit, splitLines_newline_append hrow, List.map_cons, String.ofList_toList,
      ← lines, ih hrows, List.cons_append]

/-- Rows with line ends between them are the lines of their text if the last one is not blank. -/
lemma lines_intercalate {rows : List String} {last : String}
    (h : ∀ row ∈ rows ++ [last], OneLine row) (hlast : last ≠ "") :
    lines (String.intercalate "\n" (rows ++ [last])) = rows ++ [last] := by
  have htext : String.intercalate "\n" (rows ++ [last]) =
      String.join (rows.map (· ++ "\n")) ++ last := by
    induction rows with
    | nil => simp
    | cons row rows ih =>
      have hne : rows ++ [last] ≠ [] := by simp
      obtain ⟨first, rest, hrest⟩ := List.exists_cons_of_ne_nil hne
      rw [List.cons_append, hrest, String.intercalate_cons_cons, ← hrest,
        ih fun r hr => h r (List.mem_cons_of_mem _ hr)]
      simp [String.append_assoc]
  have hline : lines last = [last] := by
    have hchars : last.toList ≠ [] := by simpa using hlast
    rw [lines, splitLines_eq_singleton (h last (by simp)) hchars]
    simp
  rw [htext, lines_rows_append fun row hrow => h row (List.mem_append_left _ hrow), hline]

end Text

/-! ### The lines of a configuration -/

lemma Literal.oneLine_json (value : Literal) : OneLine value.json := by
  cases value with
  | number x => exact oneLine_of_numeric (numeric_numberJson x)
  | string s => exact oneLine_quoted s
  | boolean b => cases b <;> decide

namespace Configuration

lemma oneLine_entryLines (entries : List (String × Literal)) :
    ∀ line ∈ entryLines entries, OneLine line := by
  have hindent : OneLine "    " := by decide
  have hcolon : OneLine ": " := by decide
  have hcomma : OneLine "," := by decide
  fun_induction entryLines entries with
  | case1 => simp
  | case2 key value => simp [hindent, hcolon, oneLine_quoted, value.oneLine_json]
  | case3 key value next rest ih =>
    refine List.forall_mem_cons.mpr ⟨?_, ih⟩
    simp [hindent, hcolon, hcomma, oneLine_quoted, value.oneLine_json]

lemma oneLine_jsonLines (c : Configuration) : ∀ line ∈ c.jsonLines, OneLine line := by
  have hbraces : OneLine "\x7b" ∧ OneLine "\x7d" ∧ OneLine "\x7b\x7d" :=
    ⟨by decide, by decide, by decide⟩
  unfold jsonLines
  split
  · simpa using hbraces.2.2
  · simp only [List.cons_append, List.forall_mem_cons, List.forall_mem_append]
    exact ⟨hbraces.1, oneLine_entryLines _, hbraces.2.1, by simp⟩

/-- **The lines of the indented JSON text** are what it was put together from: no name and no value
has a line end in it. -/
lemma lines_json (c : Configuration) :
    lines (String.intercalate "\n" c.jsonLines) = c.jsonLines := by
  have honeLine := c.oneLine_jsonLines
  unfold jsonLines at honeLine ⊢
  split at honeLine
  · exact @lines_intercalate [] _ honeLine (by decide)
  · exact lines_intercalate honeLine (by decide)

/-- Every line starts with a brace or with a blank. -/
lemma head?_jsonLines (c : Configuration) :
    ∀ line ∈ c.jsonLines, line.toList.head? ∈ [some '\x7b', some '\x7d', some ' '] := by
  have hentries (entries : List (String × Literal)) :
      ∀ line ∈ entryLines entries, line.toList.head? = some ' ' := by
    fun_induction entryLines entries with
    | case1 => simp
    | case2 key value => simp
    | case3 key value next rest ih => exact List.forall_mem_cons.mpr ⟨by simp, ih⟩
  unfold jsonLines
  split
  · simp
  · simp only [List.cons_append, List.forall_mem_cons, List.forall_mem_append]
    refine ⟨by simp, fun line hline => ?_, by simp⟩
    simp [hentries _ line hline]

end Configuration

namespace Output

/-- The lines of a section of a text: what stands under its title, up to the next blank line. -/
def sectionLines? (title text : String) : Option (List String) :=
  match (lines text).dropWhile (· ≠ " * " ++ title) with
  | _ :: _ :: rest => some (rest.takeWhile (· ≠ ""))
  | _ => none

lemma sectionLines?_eq {title text : String} {front rows back : List String}
    (htext : lines text = front ++ (" * " ++ title) :: " */" :: (rows ++ "" :: back))
    (hfront : " * " ++ title ∉ front) (hrows : "" ∉ rows) :
    sectionLines? title text = some rows := by
  have hdrop : (lines text).dropWhile (· ≠ " * " ++ title) =
      (" * " ++ title) :: " */" :: (rows ++ "" :: back) := by
    rw [htext, List.dropWhile_append_of_pos]
    · simp
    · intro row hrow
      have hne : row ≠ " * " ++ title := fun heq => hfront (heq ▸ hrow)
      simpa using hne
  have htake : (rows ++ "" :: back).takeWhile (· ≠ "") = rows := by
    rw [List.takeWhile_append_of_pos]
    · simp
    · intro row hrow
      have hne : row ≠ "" := fun heq => hrows (heq ▸ hrow)
      simpa using hne
  simp only [sectionLines?, hdrop, htake]

/-! ### The rows of a file -/

/-- A part of a file that is printed on rows of its own. -/
structure Printed (part : String) (rows : List String) : Prop where
  text : part ++ "\n" = String.join (rows.map (· ++ "\n"))
  oneLine : ∀ row ∈ rows, OneLine row

/-- **The lines of a part** are its rows, and a blank line ends it. -/
lemma Printed.lines_file {part : String} {rows : List String} (h : Printed part rows)
    (next : String) (parts : List String) :
    lines (file (part :: next :: parts)) = rows ++ "" :: lines (file (next :: parts)) := by
  have hfile : file (part :: next :: parts) =
      String.join (rows.map (· ++ "\n")) ++ ("\n" ++ file (next :: parts)) := by
    have hgap : ("\n\n" : String) = "\n" ++ "\n" := rfl
    rw [← h.text, file, String.intercalate_cons_cons, file, hgap]
    simp only [String.append_assoc]
  have hblank : lines ("\n" ++ file (next :: parts)) = "" :: lines (file (next :: parts)) := by
    simp [lines]
  rw [hfile, lines_rows_append h.oneLine, hblank]

def bannerRows : List String :=
  ["/**", " * guardc - Type Guard Compiler", " *", " * version 0.1.0", " *",
   " * AUTO-GENERATED FILE DO NOT EDIT DIRECTLY", " */"]

lemma printed_banner : Printed banner bannerRows where
  text := by decide +kernel
  oneLine := by decide +kernel

def configRows (c : Configuration) : List String :=
  "/**" :: " * config" :: (c.jsonLines.map (" * " ++ ·) ++ [" */"])

lemma printed_configComment (c : Configuration) : Printed (configComment c) (configRows c) where
  text := by
    have hhead : ("/**\n * config\n" : String) = "/**" ++ "\n" ++ (" * config" ++ "\n") := by decide
    simp only [configComment, configRows, hhead, List.map_cons, List.map_append, List.map_map,
      List.map_nil, String.join_cons, String.join_append, String.join_nil, String.append_assoc,
      String.append_empty, Function.comp_def]
  oneLine := by
    simp only [configRows, List.forall_mem_cons, List.forall_mem_append, List.forall_mem_map]
    exact ⟨by decide, by decide,
      fun line hline => oneLine_append.mpr ⟨by decide, c.oneLine_jsonLines line hline⟩,
      by decide, by simp⟩

/-- The comment is made of the lines of the indented JSON text. -/
lemma configComment_eq (c : Configuration) :
    configComment c = "/**\n * config\n" ++
      String.join ((lines (String.intercalate "\n" c.jsonLines)).map
        fun line => " * " ++ line ++ "\n") ++ " */" := by
  rw [c.lines_json, configComment]

def helperRows : List String :=
  ["const wrap = (e) => \x7b", "    if (e instanceof Error) throw e;", "", "    return e;", "\x7d;",
   "const field = (v, k) =>",
   "    v !== null && typeof v === \"object\" && !Array.isArray(v) && Object.hasOwn(v, k)"
    ++ " ? v[k] : undefined;"]

lemma printed_helpers : Printed runtimeHelpers helperRows where
  text := by decide +kernel
  oneLine := by decide +kernel

lemma printed_titled {title : String} {rows : List String} (htitle : OneLine title)
    (h : ∀ row ∈ rows, OneLine row) :
    Printed (titled title rows) ("/**" :: (" * " ++ title) :: " */" :: rows) where
  text := by
    have hrows : String.join (rows.map ("\n" ++ ·)) ++ "\n" =
        "\n" ++ String.join (rows.map (· ++ "\n")) := by
      induction rows with
      | nil => rfl
      | cons row rows ih =>
        simp only [List.map_cons, String.join_cons, String.append_assoc,
          ih fun r hr => h r (List.mem_cons_of_mem _ hr)]
    have hhead : ("/**\n * " : String) = "/**" ++ "\n" ++ " * " := by decide
    have hfoot : ("\n */" : String) = "\n" ++ " */" := by decide
    simp only [titled, hhead, hfoot, List.map_cons, String.join_cons, String.append_assoc, hrows]
  oneLine := by
    simp only [List.forall_mem_cons]
    exact ⟨by decide, oneLine_append.mpr ⟨by decide, htitle⟩, by decide, h⟩

/-! ### The section of the globals -/

lemma globals_title_notMem (c : Configuration) :
    " * globals" ∉ bannerRows ++ "" :: (configRows c ++ "" :: (helperRows ++ ["", "/**"])) := by
  have hbanner : " * globals" ∉ bannerRows := by decide
  have hhelpers : " * globals" ∉ helperRows := by decide
  have hjson : ∀ line ∈ c.jsonLines, " * " ++ line ≠ " * globals" := by
    intro line hline heq
    have hglobals : line = "globals" := (String.append_right_inj " * ").mp heq
    have hhead := c.head?_jsonLines line hline
    rw [hglobals] at hhead
    exact absurd hhead (by decide)
  simp only [configRows, List.mem_append, List.mem_cons, List.mem_map, List.not_mem_nil, hbanner,
    hhelpers, false_or, or_false, not_or, not_exists, not_and]
  exact ⟨by decide, ⟨by decide, by decide, hjson, by decide⟩, by decide, by decide, by decide⟩

/-- **The section of the globals** in the text of the file of checks is the list of the globals. -/
lemma sectionLines?_validation {s : Schema} (h : ∀ line ∈ globals s, OneLine line)
    (hne : "" ∉ globals s) : sectionLines? "globals" (validation s) = some (globals s) := by
  have htitle : OneLine "globals" := by decide
  have htitled := printed_titled htitle h
  have htext : lines (validation s) =
      (bannerRows ++ "" :: (configRows s.config ++ "" :: (helperRows ++ ["", "/**"]))) ++
        (" * " ++ "globals") :: " */" :: (globals s ++ "" :: lines (file
          [titled "aliases" (s.aliases.map aliasLine),
           titled "definitions" (s.definitions.map (recordLine "var" .definition)),
           titled "models" (s.models.map (recordLine "export var" .model))])) := by
    rw [validation, printed_banner.lines_file, (printed_configComment s.config).lines_file,
      printed_helpers.lines_file, htitled.lines_file]
    simp only [List.append_assoc, List.cons_append, List.nil_append]
  exact sectionLines?_eq htext (globals_title_notMem s.config) hne

end Output

end TypeGuard
