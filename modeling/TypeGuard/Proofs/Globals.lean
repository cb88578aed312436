import TypeGuard.Proofs.PatternLines

/-!
The globals of the file of checks, as a list of statements.

Statements are put into one text, and the globals are the lines of this text without repeats. No
statement has a line end in it, so the lines are the statements again. Apart from patterns every
statement declares a name that was reserved for it, so it comes up once, and only patterns are left
out where they are repeated.
-/

namespace TypeGuard

open Outcome Text Output

/-! ### First occurrences -/

/-- The members of a list, each of them once, in the order in which they first come up. -/
structure FirstOccurrences (texts firsts : List String) : Prop where
  mem : ∀ text, text ∈ firsts ↔ text ∈ texts
  order : firsts.Pairwise fun text text' => texts.idxOf text < texts.idxOf text'

lemma eraseDups_concat (texts : List String) (last : String) :
    (texts ++ [last]).eraseDups =
      if last ∈ texts.eraseDups then texts.eraseDups else texts.eraseDups ++ [last] := by
  rw [List.eraseDups_append]
  by_cases hlast : last ∈ texts
  · rw [if_pos (List.mem_eraseDups.mpr hlast)]
    simp [List.removeAll, hlast]
  · rw [if_neg (mt List.mem_eraseDups.mp hlast)]
    simp [List.removeAll, hlast, List.eraseDups_cons]

lemma firstOccurrences_eraseDups (texts : List String) :
    FirstOccurrences texts texts.eraseDups := by
  refine ⟨fun text => List.mem_eraseDups, ?_⟩
  -- what comes last is listed last, if it is new, and changes no earlier place
  induction texts using List.reverseRecOn with
  | nil => exact .nil
  | append_singleton texts last ih =>
    rw [List.eraseDups_append, List.pairwise_append]
    refine ⟨?_, ?_, ?_⟩
    · refine ih.imp_of_mem fun ha hb hlt => ?_
      rw [List.mem_eraseDups] at ha hb
      rwa [List.idxOf_append_of_mem ha, List.idxOf_append_of_mem hb]
    · by_cases hlast : last ∈ texts <;> simp [List.removeAll, hlast, List.eraseDups_cons]
    · intro a ha b hb
      rw [List.mem_eraseDups] at ha hb
      have hnew : b ∉ texts := by simpa [List.removeAll] using (List.mem_filter.mp hb).2
      rw [List.idxOf_append_of_mem ha, List.idxOf_append_of_notMem hnew]
      exact Nat.lt_add_right _ (List.idxOf_lt_length_of_mem ha)

namespace Resolution

variable {ds : List Declaration} {r r' : Resolution}

/-! ### How often a statement comes up -/

/-- Apart from patterns, a name is declared by one global statement at most. -/
lemma Lined.count_globals_le (hr : r.Lined ds) (hdistinct : (generatedNames ds).Nodup)
    {name : String} (hname : ∀ k, name ≠ patternName k) :
    (r.globalStatements.map declaredName).count name ≤ 1 := by
  have hpatterns := count_patterns hr.aliasStatement hname
  have hcounts := hr.counts name hname
  have hone := List.nodup_iff_count_le_one.mp hdistinct name
  simp only [emittedNames, globalStatements, List.map_append, List.count_append] at hcounts ⊢
  omega

/-- A statement that comes up twice declares a pattern. -/
lemma Lined.pattern_of_repeated (hr : r.Lined ds) (hdistinct : (generatedNames ds).Nodup)
    {s : String} (hs : 1 < r.globalStatements.count s) : ∃ k, declaredName s = patternName k := by
  by_contra hnone
  have hname : ∀ k, declaredName s ≠ patternName k := fun k hk => hnone ⟨k, hk⟩
  have hle := hr.count_globals_le hdistinct hname
  have hmap : r.globalStatements.count s ≤
      (r.globalStatements.map declaredName).count (declaredName s) := List.count_le_count_map
  omega

/-! ### The statements of records -/

end Resolution

/-- The names that a declaration has global statements for: the checks of a record, and the
constraints of each of its properties. -/
def Declaration.listed : Declaration → List String
  | .record _ name lines =>
    Resolution.membersSymbol name.text :: lines.map (Resolution.symbolOf name.text)
  | _ => []

lemma Declaration.listed_subset (d : Declaration) : d.listed ⊆ d.generatedNames := by
  cases d with
  | config | typeAlias => simp [listed]
  | record sort name lines => exact List.subset_cons_self _ _

namespace Resolution

variable {ds : List Declaration} {r r' : Resolution}

lemma declaration_listed (hr : r.Lined ds) {d : Declaration} (hd : d.Named)
    (h : r.declaration .standard d = .ok r') :
    r.statements ⊆ r'.statements ∧ d.listed ⊆ r'.statements.map declaredName := by
  cases d with
  | config keyword settings =>
    obtain ⟨c, -, hr'⟩ := bind_eq_ok.mp h
    obtain rfl := pure_eq_ok.mp hr'
    exact ⟨List.Subset.refl _, List.nil_subset _⟩
  | typeAlias name body =>
    obtain ⟨-, -, outcome, -, rfl⟩ := typeAlias_eq_ok.mp h
    exact ⟨List.Subset.refl _, List.nil_subset _⟩
  | record sort name lines =>
    obtain ⟨-, -, -, p, hp, rfl⟩ := record_eq_ok.mp h
    obtain ⟨hname, hlines⟩ := hd
    have hstart : Progress.Lined name.text ⟨[], [], [], (membersSymbol name.text, name.text) ::
        ((Role.record sort).symbol name.text, name.text) :: r.symbols, r.calls⟩ [] :=
      ⟨by simp, by simp, by simp⟩
    have hlined := properties_lined hr.keeps hname hstart hlines hp
    rw [List.nil_append] at hlined
    have hproperties : lines.map (symbolOf name.text) ⊆ p.statements.map declaredName := by
      intro symbol hsymbol
      obtain ⟨line, hline, rfl⟩ := List.mem_map.mp hsymbol
      have hcount := hlined.counts (symbolOf name.text line) fun k heq =>
        patternName_ne_property (hlines line hline) k heq.symm
      rw [← List.count_pos_iff, hcount]
      exact List.count_pos_iff.mpr hsymbol
    refine ⟨by simp [List.append_assoc], List.cons_subset.mpr ⟨?_, ?_⟩⟩
    · simp [declaredName_members hname]
    · simp only [List.map_append]
      intro symbol hsymbol
      exact List.mem_append_left _ (List.mem_append_right _ (hproperties hsymbol))

lemma listed_of_foldlM (hds : ∀ d ∈ ds, d.Named)
    (h : ds.foldlM (declaration .standard) initial = .ok r) :
    ∀ d ∈ ds, d.listed ⊆ r.statements.map declaredName := by
  induction ds using List.reverseRecOn generalizing r with
  | nil => simp
  | append_singleton ds d ih =>
    obtain ⟨r₁, h₁, h₂⟩ := (foldlM_concat d).mp h
    have hds₁ : ∀ e ∈ ds, e.Named := fun e he => hds e (by simp [he])
    obtain ⟨hkept, hlisted⟩ :=
      declaration_listed (lined_of_foldlM hds₁ h₁) (hds d (by simp)) h₂
    intro e he
    rcases List.mem_append.mp he with he | he
    · exact List.Subset.trans (ih hds₁ h₁ e he) (List.map_subset _ hkept)
    · exact List.mem_singleton.mp he ▸ hlisted

end Resolution

/-- **The globals are the statements that were emitted, without repeats.** No statement is empty or
has a line end in it, so the lines of their text are the statements. The section of the globals in
the text of the file of checks lists each of them once, in the order in which they first come up. A
statement that comes up twice declares a pattern, so the checks of every record and the constraints
of each of its properties are declared by one line. -/
theorem globals_listed {source : String} {files : Files} (h : compile source = .ok files) :
    ∃ tokens ds r, tokenize source = .ok tokens ∧ group tokens = .ok ds ∧
      ds.foldlM (Resolution.declaration .standard) .initial = .ok r ∧
      files.validation = file
        [banner, configComment r.schema.config, String.intercalate "\n" helpers,
         titled "globals" (globals r.schema), titled "aliases" (r.schema.aliases.map aliasLine),
         titled "definitions" (r.schema.definitions.map (recordLine "var" .definition)),
         titled "models" (r.schema.models.map (recordLine "export var" .model))] ∧
      sectionLines? "globals" files.validation = some (globals r.schema) ∧
      (∀ s ∈ r.globalStatements, s ≠ "" ∧ OneLine s) ∧
      globalsText r.schema = String.join (r.globalStatements.map ("\n" ++ ·)) ∧
      (lines (globalsText r.schema)).filter (!·.isEmpty) = r.globalStatements ∧
      FirstOccurrences r.globalStatements (globals r.schema) ∧
      (∀ s, 1 < r.globalStatements.count s → ∃ k, declaredName s = patternName k) ∧
      ∀ d ∈ ds, ∀ name ∈ d.listed, ((globals r.schema).map declaredName).count name = 1 := by
  obtain ⟨tokens, ds, r, htokens, hds, hnamed, hr, -, hlined, rfl⟩ := exists_lined_of_compile h
  have hdistinct : (generatedNames ds).Nodup := ((foldlM_eq_ok_iff ds).mp ⟨r, hr⟩).generated
  have hglobals : globals r.schema = r.globalStatements.eraseDups := hlined.globals_eq
  refine ⟨tokens, ds, r, htokens, hds, hr, validation_eq r.schema, hlined.sectionLines?_globals, ?_,
    r.globalsText_eq, hlined.lines_eq, ?_, ?_, ?_⟩
  · intro statement hstatement
    have hline := hlined.isLine statement hstatement
    refine ⟨?_, hline.oneLine⟩
    rintro rfl
    exact absurd hline.isEmpty (by decide)
  · rw [hglobals]
    exact firstOccurrences_eraseDups _
  · exact fun statement hrepeated => hlined.pattern_of_repeated hdistinct hrepeated
  · intro d hd name hname
    have hpattern : ∀ k, name ≠ patternName k := by
      rintro k rfl
      exact patternName_not_mem hnamed k (List.mem_flatMap.mpr ⟨d, hd, d.listed_subset hname⟩)
    have hmem : name ∈ (globals r.schema).map declaredName := by
      obtain ⟨statement, hstatement, rfl⟩ :=
        List.mem_map.mp (Resolution.listed_of_foldlM hnamed hr d hd hname)
      refine List.mem_map_of_mem ?_
      rw [hglobals, List.mem_eraseDups]
      exact List.mem_append_left _ hstatement
    have hle : ((globals r.schema).map declaredName).count name ≤ 1 := by
      rw [hglobals]
      exact (((eraseDups_sublist _).map declaredName).count_le name).trans
        (hlined.count_globals_le hdistinct hpattern)
    have hpos := List.count_pos_iff.mpr hmem
    omega

/-- A pattern that is taken up twice by another alias, and a model. -/
def repeatedPatternSource : String :=
  "alias A match(\"a\")\nalias B A A\nmodel M \x7b\n x B\n\x7d\n"

theorem globals_listed_repeated :
    ∃ (files : Files) (r : Resolution) (rows : List String),
      compile repeatedPatternSource = .ok files ∧
      sectionLines? "globals" files.validation = some rows ∧
      r.globalStatements.count "const pattern$1 = new RegExp(\"a\", \"\");" = 3 ∧
      FirstOccurrences r.globalStatements rows := by
  have hshown : ((tokenize repeatedPatternSource >>= group) >>= fun ds =>
      ds.foldlM (Resolution.declaration .standard) .initial).toOption.map (fun r =>
        r.globalStatements.count "const pattern$1 = new RegExp(\"a\", \"\");") = some 3 := by
    decide +kernel
  have hok : (compile repeatedPatternSource).toOption.isSome = true := by decide +kernel
  obtain ⟨files, hfiles⟩ := Option.isSome_iff_exists.mp hok
  have hcompile := toOption_eq_some.mp hfiles
  obtain ⟨tokens, ds, r, htokens, hds, hr, -, hsection, -, -, -, hfirst, -⟩ :=
    globals_listed hcompile
  have hgroup : (tokenize repeatedPatternSource >>= group) = .ok ds :=
    bind_eq_ok.mpr ⟨tokens, htokens, hds⟩
  rw [hgroup] at hshown
  obtain ⟨r', hr', hcount⟩ := Option.map_eq_some_iff.mp hshown
  obtain rfl : r = r' := Except.ok.inj (hr.symm.trans (toOption_eq_some.mp hr'))
  exact ⟨files, r, globals r.schema, hcompile, hsection, hcount, hfirst⟩

end TypeGuard
