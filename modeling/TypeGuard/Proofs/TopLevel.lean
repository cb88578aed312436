import Mathlib.Data.List.Nodup
import TypeGuard.Proofs.Acceptance
import TypeGuard.Proofs.Formatting
import TypeGuard.Proofs.DeclaredName
import TypeGuard.Proofs.Sections

/-!
No name is declared twice in the file of checks.

What is carried along the declarations is that all statements stand on lines of their own, and that
apart from patterns they declare the generated names, each as often as it was generated. So the
lines of the globals are these statements, and no name comes up twice since reserved names are
distinct.
-/

namespace TypeGuard

open Outcome Text Output

/-! ### What a resolution has emitted -/

namespace Resolution

variable {ds : List Declaration} {r r' : Resolution}

/-- The names that the statements of a resolution declare, those of declarations included. -/
def emittedNames (r : Resolution) : List String :=
  r.statements.map declaredName ++ r.aliases.map (fun a => Role.typeAlias.symbol a.name)
    ++ r.definitions.map (fun e => (Role.record .definition).symbol e.name)
    ++ r.models.map (fun e => (Role.record .model).symbol e.name)

/-- What is known of the statements of a resolution: they stand on lines of their own, and apart
from patterns they declare the generated names, each as often as it was generated. -/
structure Lined (r : Resolution) (ds : List Declaration) : Prop where
  keeps : Scope.Keeps ⟨.standard, r.bindings⟩ Constraint.Neat
  statements : ∀ statement ∈ r.statements, IsLine statement
  aliases : ∀ a ∈ r.aliases, IsName a.name ∧ ∀ c ∈ a.constraints, c.Neat
  records : ∀ e ∈ r.definitions ++ r.models, IsName e.name
  counts : ∀ name, (∀ k, name ≠ patternName k) →
    r.emittedNames.count name = (generatedNames ds).count name

lemma count_patterns {statements : List String} (h : ∀ s ∈ statements, IsPatternLine s)
    {name : String} (hname : ∀ k, name ≠ patternName k) :
    (statements.map declaredName).count name = 0 := by
  rw [List.count_eq_zero]
  intro hmem
  obtain ⟨statement, hs, heq⟩ := List.mem_map.mp hmem
  obtain ⟨k, hk⟩ := (h statement hs).pattern
  exact hname k (heq.symm.trans hk)

structure Progress.Lined (owner : String) (p : Progress) (lines : List PropertyLine) : Prop where
  statements : ∀ statement ∈ p.statements, IsLine statement
  properties : ∀ q ∈ p.properties, IsName q.name
  counts : ∀ name, (∀ k, name ≠ patternName k) →
    (p.statements.map declaredName).count name = (lines.map (symbolOf owner)).count name

lemma property_lined {scope : Scope} (hscope : scope.Keeps Constraint.Neat) {owner : String}
    (ho : IsName owner) {p p' : Progress} {lines : List PropertyLine} (hp : p.Lined owner lines)
    {line : PropertyLine} (hline : IsName line.name.text)
    (h : property scope owner p line = .ok p') : p'.Lined owner (lines ++ [line]) := by
  obtain ⟨-, -, outcome, houtcome, rfl⟩ := property_eq_ok.mp h
  have hsymbol := isSymbol_property ho hline
  have hneat : ∀ c ∈ outcome.terms.map Bound.toConstraint, c.Neat := by
    intro c hc
    obtain ⟨b, hb, rfl⟩ := List.mem_map.mp hc
    exact (Expression.resolve_has hscope houtcome b hb).1
  have hpatterns : ∀ s ∈ (outcome.terms.map Bound.toConstraint).flatMap
      (·.statements (propertySymbol owner line.name.text)), IsPatternLine s := by
    intro s hs
    obtain ⟨c, hc, hmem⟩ := List.mem_flatMap.mp hs
    exact (hneat c hc).statement hsymbol.oneLine hmem
  have hstatement := propertyStatement_isLine ho hline hneat
  refine ⟨?_, ?_, ?_⟩
  · intro statement hmem
    rcases List.mem_append.mp hmem with hmem | hmem
    · rcases List.mem_append.mp hmem with hmem | hmem
      · exact hp.statements statement hmem
      · exact (hpatterns statement hmem).line
    · exact List.mem_singleton.mp hmem ▸ hstatement
  · intro q hq
    rcases List.mem_append.mp hq with hq | hq
    · exact hp.properties q hq
    · exact List.mem_singleton.mp hq ▸ hline
  · intro name hname
    have hold := hp.counts name hname
    have hzero := count_patterns hpatterns hname
    simp only [List.map_append, List.count_append, hold, hzero, List.map_cons, List.map_nil,
      declaredName_property hsymbol, symbolOf, Nat.add_zero]

lemma properties_lined {scope : Scope} (hscope : scope.Keeps Constraint.Neat) {owner : String}
    (ho : IsName owner) {p p' : Progress} {done lines : List PropertyLine}
    (hp : p.Lined owner done) (hlines : ∀ line ∈ lines, IsName line.name.text)
    (h : lines.foldlM (property scope owner) p = .ok p') : p'.Lined owner (done ++ lines) := by
  induction lines generalizing p done with
  | nil =>
    rw [List.foldlM_nil, pure_eq_ok] at h
    simpa [← h] using hp
  | cons line rest ih =>
    obtain ⟨hline, hrest⟩ := List.forall_mem_cons.mp hlines
    rw [List.foldlM_cons, bind_eq_ok] at h
    obtain ⟨p₁, h₁, h₂⟩ := h
    have hp₁ := property_lined hscope ho hp hline h₁
    simpa using ih hp₁ hrest h₂

lemma keeps_concat {bindings : List (String × Binding)} {P : Constraint → Prop}
    (h : Scope.Keeps ⟨.standard, bindings⟩ P) {name : String} {b : Binding}
    (htypeAlias : ∀ cs, b = .typeAlias cs →
      P (Bound.typeAlias name cs).toConstraint ∧ ∀ c ∈ cs, P c)
    (hrecord : ∀ sort r, b = .record sort r →
      P (Bound.record r ((Role.record sort).symbol name)).toConstraint) :
    Scope.Keeps ⟨.standard, bindings ++ [(name, b)]⟩ P := by
  refine ⟨h.primitive, h.call, ?_, ?_⟩
  · intro other cs hl
    rcases lookup_concat hl with hl | ⟨rfl, hb⟩
    · exact h.typeAlias hl
    · exact htypeAlias cs hb.symm
  · intro other sort r hl
    rcases lookup_concat hl with hl | ⟨rfl, hb⟩
    · exact h.record hl
    · exact hrecord sort r hb.symm

lemma lined_initial : initial.Lined [] where
  keeps := by
    refine ⟨fun hc => ?_, fun hfactory hargs hbuild => Factory.build_neat hfactory hargs hbuild,
      by simp [initial], by simp [initial]⟩
    obtain ⟨type, -, rfl⟩ := Registry.standard_primitive hc
    exact type.constraint_neat
  statements := by simp [initial]
  aliases := by simp [initial]
  records := by simp [initial]
  counts := by simp [initial, emittedNames, generatedNames]

lemma declaration_lined (hr : r.Lined ds) {d : Declaration} (hd : d.Named)
    (h : r.declaration .standard d = .ok r') : r'.Lined (ds ++ [d]) := by
  cases d with
  | config keyword settings =>
    obtain ⟨c, -, hr'⟩ := bind_eq_ok.mp h
    obtain rfl := pure_eq_ok.mp hr'
    refine ⟨hr.keeps, hr.statements, hr.aliases, hr.records, fun name hname => ?_⟩
    rw [generatedNames_concat, Declaration.generatedNames, List.append_nil]
    exact hr.counts name hname
  | typeAlias name body =>
    obtain ⟨-, -, outcome, ho, rfl⟩ := typeAlias_eq_ok.mp h
    have hname : IsName name.text := hd
    have hneat : ∀ c ∈ outcome.terms.flatMap aliasConstraints, c.Neat := by
      intro c hc
      obtain ⟨b, hb, hmem⟩ := List.mem_flatMap.mp hc
      exact (Expression.resolve_has hr.keeps ho b hb).2 c hmem
    refine ⟨?_, hr.statements, ?_, hr.records, ?_⟩
    · refine keeps_concat hr.keeps ?_ (by simp)
      rintro cs hcs
      obtain rfl := Binding.typeAlias.inj hcs
      exact ⟨typeAlias_neat hname.isSymbol.oneLine hneat, hneat⟩
    · intro a ha
      rcases List.mem_append.mp ha with ha | ha
      · exact hr.aliases a ha
      · exact List.mem_singleton.mp ha ▸ ⟨hname, hneat⟩
    · intro other hother
      have hold := hr.counts other hother
      simp only [emittedNames, List.map_append, List.count_append, List.map_cons, List.map_nil,
        generatedNames_concat, Declaration.generatedNames] at hold ⊢
      omega
  | record sort name lines =>
    obtain ⟨-, -, -, p, hp, rfl⟩ := record_eq_ok.mp h
    obtain ⟨hname, hlines⟩ := hd
    have hstart : Progress.Lined name.text ⟨[], [], [], (membersSymbol name.text, name.text) ::
        ((Role.record sort).symbol name.text, name.text) :: r.symbols, r.calls⟩ [] :=
      ⟨by simp, by simp, by simp⟩
    have hlined := properties_lined hr.keeps hname hstart hlines hp
    rw [List.nil_append] at hlined
    refine ⟨?_, ?_, hr.aliases, ?_, ?_⟩
    · refine keeps_concat hr.keeps (by simp) ?_
      rintro sort' record hrecord
      obtain ⟨rfl, rfl⟩ := Binding.record.inj hrecord
      exact record_neat hname.isSymbol.oneLine (isSymbol_role _ hname).oneLine
    · intro statement hmem
      rcases List.mem_append.mp hmem with hmem | hmem
      · rcases List.mem_append.mp hmem with hmem | hmem
        · exact hr.statements statement hmem
        · exact hlined.statements statement hmem
      · exact List.mem_singleton.mp hmem ▸ membersStatement_isLine hname hlined.properties
    · intro e he
      have hcases : e ∈ r.definitions ++ r.models ∨ e = entry ⟨name.text, p.properties⟩ := by
        cases sort <;> simp at he ⊢ <;> tauto
      rcases hcases with he | rfl
      · exact hr.records e he
      · exact hname
    · intro other hother
      have hold := hr.counts other hother
      have hnew := hlined.counts other hother
      have hsymbols : (Declaration.record sort name lines).generatedNames =
          (Role.record sort).symbol name.text :: membersSymbol name.text ::
            lines.map (symbolOf name.text) := rfl
      cases sort <;>
      · simp only [emittedNames, List.map_append, List.count_append, List.map_cons, List.map_nil,
          generatedNames_concat, hsymbols, declaredName_members hname, entry, List.count_cons,
          List.count_nil] at hold hnew ⊢
        simp only [reduceCtorEq, if_true, if_false, List.map_cons, List.map_nil, List.count_cons,
          List.count_nil]
        omega

lemma lined_of_foldlM (hds : ∀ d ∈ ds, d.Named)
    (h : ds.foldlM (declaration .standard) initial = .ok r) : r.Lined ds := by
  induction ds using List.reverseRecOn generalizing r with
  | nil =>
    rw [List.foldlM_nil, pure_eq_ok] at h
    exact h ▸ lined_initial
  | append_singleton ds d ih =>
    obtain ⟨r₁, h₁, h₂⟩ := (foldlM_concat d).mp h
    have hr₁ := ih (fun e he => hds e (by simp [he])) h₁
    exact declaration_lined hr₁ (hds d (by simp)) h₂

end Resolution

/-! ### The statements of the file -/

lemma eraseDups_sublist (texts : List String) : texts.eraseDups.Sublist texts := by
  match texts with
  | [] => exact List.Sublist.refl _
  | text :: rest =>
    rw [List.eraseDups_cons]
    have hrest := eraseDups_sublist (rest.filter fun other => !other == text)
    exact (hrest.trans List.filter_sublist).cons_cons text
termination_by texts.length
decreasing_by
  have hlength := List.length_filter_le (fun other => !other == text) rest
  simp only [List.length_cons]
  omega

lemma Resolution.Lined.aliasStatement {r : Resolution} {ds : List Declaration} (hr : r.Lined ds) :
    ∀ s ∈ r.aliases.flatMap aliasStatements, IsPatternLine s := by
  intro s hs
  obtain ⟨a, ha, hmem⟩ := List.mem_flatMap.mp hs
  obtain ⟨c, hc, hmem⟩ := List.mem_flatMap.mp hmem
  obtain ⟨hname, hneat⟩ := hr.aliases a ha
  exact (hneat c hc).statement (isSymbol_role _ hname).oneLine hmem

lemma Resolution.Lined.isLine {r : Resolution} {ds : List Declaration} (hr : r.Lined ds) :
    ∀ s ∈ r.statements ++ r.aliases.flatMap aliasStatements, IsLine s := by
  intro s hs
  rcases List.mem_append.mp hs with hs | hs
  · exact hr.statements s hs
  · exact (hr.aliasStatement s hs).line

lemma Resolution.globalsText_eq (r : Resolution) :
    globalsText r.schema =
      String.join ((r.statements ++ r.aliases.flatMap aliasStatements).map ("\n" ++ ·)) := by
  rw [globalsText, List.map_append, String.join_append]
  rfl

lemma Resolution.Lined.lines_eq {r : Resolution} {ds : List Declaration} (hr : r.Lined ds) :
    (lines (globalsText r.schema)).filter (!·.isEmpty) =
      r.statements ++ r.aliases.flatMap aliasStatements := by
  rw [r.globalsText_eq, lines_joined (fun s hs => (hr.isLine s hs).oneLine)
    fun s hs => (hr.isLine s hs).isEmpty]

/-- **The globals are the statements of the schema and of its aliases**, each of them once. -/
lemma Resolution.Lined.globals_eq {r : Resolution} {ds : List Declaration} (hr : r.Lined ds) :
    globals r.schema = (r.statements ++ r.aliases.flatMap aliasStatements).eraseDups := by
  rw [globals, hr.lines_eq]

/-- The text of the file has the globals in a section of their own. -/
lemma Resolution.Lined.sectionLines?_globals {r : Resolution} {ds : List Declaration}
    (hr : r.Lined ds) :
    sectionLines? "globals" (validation r.schema) = some (globals r.schema) := by
  have hline : ∀ line ∈ globals r.schema, IsLine line := by
    intro line hmem
    rw [hr.globals_eq, List.mem_eraseDups] at hmem
    exact hr.isLine line hmem
  refine sectionLines?_validation (fun line hmem => (hline line hmem).oneLine) fun hmem => ?_
  exact absurd (hline "" hmem).isEmpty (by decide)

lemma helpers_declare : helpers.map declaredName = ["wrap", "field"] := by decide +kernel

lemma Resolution.Lined.names_eq {r : Resolution} {ds : List Declaration} (hr : r.Lined ds) :
    (topLevel r.schema).map declaredName = ["wrap", "field"] ++ (globals r.schema).map declaredName
      ++ r.aliases.map (fun a => Role.typeAlias.symbol a.name)
      ++ r.definitions.map (fun e => (Role.record .definition).symbol e.name)
      ++ r.models.map (fun e => (Role.record .model).symbol e.name) := by
  have haliases := map_declaredName_aliases fun a ha => (hr.aliases a ha).1
  obtain ⟨hdefinitions, hmodels⟩ := List.forall_mem_append.mp hr.records
  simp only [topLevel, List.map_append, helpers_declare, Resolution.schema, haliases,
    map_declaredName_records (by decide : "var" ++ " " ∈ openings) .definition hdefinitions,
    map_declaredName_records (by decide : "export var" ++ " " ∈ openings) .model hmodels]

/-- A name that is not a pattern's is declared as often as it was generated, or by a helper. -/
lemma Resolution.Lined.count_le {r : Resolution} {ds : List Declaration} (hr : r.Lined ds)
    {name : String} (hname : ∀ k, name ≠ patternName k) :
    ((topLevel r.schema).map declaredName).count name ≤
      (["wrap", "field"] ++ generatedNames ds).count name := by
  have hglobals : ((globals r.schema).map declaredName).count name ≤
      (r.statements.map declaredName).count name := by
    rw [hr.globals_eq]
    calc (((r.statements ++ r.aliases.flatMap aliasStatements).eraseDups).map declaredName).count
          name
        ≤ ((r.statements ++ r.aliases.flatMap aliasStatements).map declaredName).count name :=
          ((eraseDups_sublist _).map declaredName).count_le name
      _ = (r.statements.map declaredName).count name := by
          rw [List.map_append, List.count_append, count_patterns hr.aliasStatement hname,
            Nat.add_zero]
  have hcounts := hr.counts name hname
  rw [hr.names_eq]
  simp only [emittedNames, List.count_append] at hcounts ⊢
  omega

/-- What a compiled source resolves to, and what is known of its names and statements. -/
lemma exists_lined_of_compile {source : String} {files : Files} (h : compile source = .ok files) :
    ∃ tokens ds r, tokenize source = .ok tokens ∧ group tokens = .ok ds ∧ (∀ d ∈ ds, d.Named) ∧
      ds.foldlM (Resolution.declaration .standard) .initial = .ok r ∧ resolve ds = .ok r.schema ∧
      r.Lined ds ∧ r.schema.files = files := by
  obtain ⟨s, hsource, hfiles⟩ := compile_eq_ok.mp h
  obtain ⟨tokens, ds, htokens, hds, hs⟩ := resolveSource_eq_ok.mp hsource
  have hnamed : ∀ d ∈ ds, d.Named := fun d hd =>
    named_of_printable (Canonical.printable_of_resolve htokens hds hs d hd)
  obtain ⟨r, hr, hschema⟩ := bind_eq_ok.mp hs
  obtain rfl := pure_eq_ok.mp hschema
  exact ⟨tokens, ds, r, htokens, hds, hnamed, hr, hs, Resolution.lined_of_foldlM hnamed hr, hfiles⟩

/-- **No name is declared twice.** At the top level of the file of checks no name other than a
pattern's is declared by two statements, and no pattern is named like a helper or like anything
that a declaration generates. -/
theorem topLevel_names_distinct {source : String} {files : Files}
    (h : compile source = .ok files) :
    ∃ tokens ds s, tokenize source = .ok tokens ∧ group tokens = .ok ds ∧ resolve ds = .ok s ∧
      files.validation = file
        [banner, configComment s.config, String.intercalate "\n" helpers,
         titled "globals" (globals s), titled "aliases" (s.aliases.map aliasLine),
         titled "definitions" (s.definitions.map (recordLine "var" .definition)),
         titled "models" (s.models.map (recordLine "export var" .model))] ∧
      (∀ name, (∀ k, name ≠ patternName k) →
        ((topLevel s).map declaredName).count name ≤ 1) ∧
      ∀ k, patternName k ∉ "wrap" :: "field" :: generatedNames ds := by
  obtain ⟨tokens, ds, r, htokens, hds, hnamed, hr, hs, hlined, rfl⟩ := exists_lined_of_compile h
  have hwell : WellFormed ds := (foldlM_eq_ok_iff ds).mp ⟨r, hr⟩
  have hdistinct : (["wrap", "field"] ++ generatedNames ds).Nodup := by
    rw [List.nodup_append]
    refine ⟨by decide, hwell.generated, fun helper hhelper name hname heq => ?_⟩
    simp only [List.mem_cons, List.not_mem_nil, or_false] at hhelper
    rcases hhelper with rfl | rfl
    · exact not_mem_generatedNames (by decide) (by decide) ds (heq ▸ hname)
    · exact not_mem_generatedNames (by decide) (by decide) ds (heq ▸ hname)
  refine ⟨tokens, ds, r.schema, htokens, hds, hs, validation_eq r.schema, fun name hname => ?_,
    fun k hmem => ?_⟩
  · have hcount := hlined.count_le hname
    exact hcount.trans (List.nodup_iff_count_le_one.mp hdistinct name)
  · simp only [List.mem_cons] at hmem
    rcases hmem with heq | heq | hmem
    · exact patternName_ne_of_head (c := 'w') (by decide) (by decide) k heq
    · exact patternName_ne_of_head (c := 'f') (by decide) (by decide) k heq
    · exact patternName_not_mem hnamed k hmem

/-- A schema whose names look like generated ones. -/
def lookalikeSource : String :=
  "alias A match(\"a\")\ndefine def \x7b\n pattern A\n\x7d\n"
    ++ "model pattern \x7b\n x1 optional(def)\n\x7d\n"

theorem topLevel_names_distinct_lookalike :
    ∃ files ds s, compile lookalikeSource = .ok files ∧ resolve ds = .ok s ∧
      (∀ name, (∀ k, name ≠ patternName k) →
        ((topLevel s).map declaredName).count name ≤ 1) ∧
      ∀ k, patternName k ∉ "wrap" :: "field" :: generatedNames ds := by
  have hok : (compile lookalikeSource).toOption.isSome = true := by decide +kernel
  obtain ⟨files, hfiles⟩ := Option.isSome_iff_exists.mp hok
  have hcompile := toOption_eq_some.mp hfiles
  obtain ⟨tokens, ds, s, -, -, hs, -, hnames, hpatterns⟩ := topLevel_names_distinct hcompile
  exact ⟨files, ds, s, hcompile, hs, hnames, hpatterns⟩

end TypeGuard
