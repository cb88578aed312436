import TypeGuard.Proofs.Filling
import TypeGuard.Proofs.PatternCalls
import TypeGuard.Proofs.TopLevel

/-!
The lines of the globals that declare patterns.

Every call of the pattern factory gets one number and one template, but its template is filled in
under the name of every property and alias that it ends up in. So what is carried along the
declarations is that the statements so far which declare patterns are the templates of the calls
found so far, each under some name. They are all the same line exactly if the source of the pattern
does not spell the placeholder.
-/

namespace TypeGuard

open Outcome Text Output

def expressionTokens (ds : List Declaration) : List Token :=
  ds.flatMap fun d => d.expressions.flatten

lemma expressionTokens_concat (ds : List Declaration) (d : Declaration) :
    expressionTokens (ds ++ [d]) = expressionTokens ds ++ d.expressions.flatten := by
  simp [expressionTokens]

/-! ### The statement of a call -/

/-- The line that declares the pattern of a call. -/
def patternLine (k : Nat) (source flags : String) : String :=
  "const " ++ patternName k ++ " = new RegExp(" ++ quoted source ++ ", "
    ++ quoted (String.ofList (flags.toList.filter fun c => c ≠ 'g' && c ≠ 'y')) ++ ");"

lemma patternName_injective {k k' : Nat} (h : patternName k = patternName k') : k = k' := by
  have hdigits : Nat.toDigits 10 k = Nat.toDigits 10 k' := by
    simpa [patternName, Nat.repr_eq_ofList_toDigits] using congrArg String.toList h
  calc k = Nat.ofDigitChars 10 (Nat.toDigits 10 k) 0 :=
        (Nat.ofDigitChars_toDigits (by decide) (by decide)).symm
    _ = Nat.ofDigitChars 10 (Nat.toDigits 10 k') 0 := by rw [hdigits]
    _ = k' := Nat.ofDigitChars_toDigits (by decide) (by decide)

lemma PatternCall.declaredName_fill (c : PatternCall) (name : String) :
    declaredName (fill name c.statement) = patternName c.call.id :=
  declaredName_pattern name c.call c.source c.flags

/-- Under a name the template of a call has the name in its source, and in no other place. -/
lemma PatternCall.fill_statement {c : PatternCall} (h : c.flags.toList ⊆ Factory.flagLetters)
    {name : String} (hname : IsSymbol name) :
    fill name c.statement = patternLine c.call.id (fill name c.source) c.flags := by
  have hflags : '\x7b' ∉ (quoted (Factory.emittedFlags c.flags)).toList := by
    have hletters : Factory.flagLetters.all (fun d => '\x7b' ∉ quotedChar d) = true := by decide
    intro hmem
    have hmem : ∃ d ∈ (Factory.emittedFlags c.flags).toList, '\x7b' ∈ quotedChar d := by
      simpa [quoted] using hmem
    obtain ⟨d, hd, hbrace⟩ := hmem
    have hflag : d ∈ c.flags.toList := by
      rw [Factory.emittedFlags, String.toList_ofList] at hd
      exact (List.mem_filter.mp hd).1
    exact of_decide_eq_true (List.all_eq_true.mp hletters d (h hflag)) hbrace
  have hback : '\x7b' ∉ (", " ++ quoted (Factory.emittedFlags c.flags) ++ ");").toList := by
    simpa using hflags
  have hquoted := substitute_quoted hname c.source hback
  have hsplit : (quoted c.source ++ ", " ++ quoted (Factory.emittedFlags c.flags) ++ ");").toList =
      (quoted c.source).toList ++
        (", " ++ quoted (Factory.emittedFlags c.flags) ++ ");").toList := by
    simp
  have hline : (patternLine c.call.id (fill name c.source) c.flags).toList =
      ("const " ++ patternName c.call.id ++ " = new RegExp(").toList ++
        ((quoted (fill name c.source)).toList ++
          (", " ++ quoted (Factory.emittedFlags c.flags) ++ ");").toList) := by
    simp [patternLine, Factory.emittedFlags]
  apply String.toList_injective
  rw [PatternCall.statement, fill_pattern, hline, ← hquoted, fill, substitute, hsplit,
    String.toList_ofList]

lemma placeholder_infix_patternLine {source : String} (h : placeholder.toList <:+: source.toList)
    (k : Nat) (flags : String) : placeholder.toList <:+: (patternLine k source flags).toList := by
  refine (placeholder_infix_quoted h).trans ?_
  refine ⟨("const " ++ patternName k ++ " = new RegExp(").toList,
    (", " ++ quoted (String.ofList (flags.toList.filter fun c => c ≠ 'g' && c ≠ 'y'))
      ++ ");").toList, ?_⟩
  simp [patternLine]

/-- A statement is that of a call, under some name. -/
def PatternCall.Instance (c : PatternCall) (statement : String) : Prop :=
  ∃ name, IsSymbol name ∧ statement = fill name c.statement

/-- The statements that declare patterns are those of some calls, and every call has one. -/
structure Covers (statements : List String) (found : List PatternCall) : Prop where
  sound : ∀ s ∈ statements, ∀ k, declaredName s = patternName k → ∃ c ∈ found, c.Instance s
  complete : ∀ c ∈ found, ∃ s ∈ statements, c.Instance s

lemma Covers.nil : Covers [] [] := ⟨by simp, by simp⟩

/-- New statements may be those of earlier calls. -/
lemma Covers.add {old statements : List String} {found found' : List PatternCall}
    (h : Covers old found) (new : List String) (hmem : ∀ s, s ∈ statements ↔ s ∈ old ∨ s ∈ new)
    (hsound : ∀ s ∈ new, ∀ k, declaredName s = patternName k → ∃ c ∈ found ++ found', c.Instance s)
    (hcomplete : ∀ c ∈ found', ∃ s ∈ new, c.Instance s) : Covers statements (found ++ found') := by
  constructor
  · intro s hs k hk
    rcases (hmem s).mp hs with hs | hs
    · obtain ⟨c, hc, hinstance⟩ := h.sound s hs k hk
      exact ⟨c, List.mem_append_left _ hc, hinstance⟩
    · exact hsound s hs k hk
  · intro c hc
    rcases List.mem_append.mp hc with hc | hc
    · obtain ⟨s, hs, hinstance⟩ := h.complete c hc
      exact ⟨s, (hmem s).mpr (.inl hs), hinstance⟩
    · obtain ⟨s, hs, hinstance⟩ := hcomplete c hc
      exact ⟨s, (hmem s).mpr (.inr hs), hinstance⟩

lemma Covers.append {old new : List String} {found found' : List PatternCall}
    (h : Covers old found) (h' : Covers new found') : Covers (old ++ new) (found ++ found') := by
  refine h.add new (fun s => List.mem_append) (fun s hs k hk => ?_) h'.complete
  obtain ⟨c, hc, hinstance⟩ := h'.sound s hs k hk
  exact ⟨c, List.mem_append_right _ hc, hinstance⟩

lemma Covers.other {statement : String} (h : ∀ k, declaredName statement ≠ patternName k) :
    Covers [statement] [] :=
  ⟨by simpa using h, by simp⟩

lemma covers_statements {cs : List Constraint} {found : List PatternCall}
    (h : cs.flatMap Constraint.templates = found.map PatternCall.statement) {name : String}
    (hname : IsSymbol name) : Covers (cs.flatMap (·.statements name)) found := by
  have hstatements : cs.flatMap (·.statements name) =
      found.map (fun c => fill name c.statement) := by
    simp only [Constraint.statements_eq, ← List.map_flatMap, h, List.map_map, Function.comp_def]
  rw [hstatements]
  constructor
  · intro s hs k _
    obtain ⟨c, hc, rfl⟩ := List.mem_map.mp hs
    exact ⟨c, hc, name, hname, rfl⟩
  · intro c hc
    exact ⟨_, List.mem_map_of_mem hc, name, hname, rfl⟩

/-! ### What a resolution has emitted -/

namespace Resolution

variable {ds : List Declaration} {r r' : Resolution} {found : List PatternCall}

def globalStatements (r : Resolution) : List String :=
  r.statements ++ r.aliases.flatMap aliasStatements

/-- The calls found so far have been emitted, and aliases stand for constraints that ask for the
statements of these calls. -/
structure Emits (r : Resolution) (ds : List Declaration) (found : List PatternCall) : Prop where
  finds : Expression.Finds 0 (expressionTokens ds) found r.calls
  covers : Covers r.globalStatements found
  bindings : ∀ name cs, r.bindings.lookup name = some (.typeAlias cs) →
    ∀ c ∈ cs, c.templates ⊆ found.map PatternCall.statement

/-- What is known of the properties read so far. -/
structure Progress.Emits (p : Progress) (calls : Nat) (lines : List PropertyLine)
    (found : List PatternCall) : Prop where
  finds : Expression.Finds calls (lines.map (·.expression)).flatten found p.calls
  covers : Covers p.statements found

lemma property_emits {scope : Scope} (hscope : scope.registry = .standard) {owner : String}
    (ho : IsName owner) {calls : Nat} {p p' : Progress} {lines : List PropertyLine}
    (hp : p.Emits calls lines found) {line : PropertyLine} (hline : IsName line.name.text)
    (h : property scope owner p line = .ok p') :
    ∃ found', p'.Emits calls (lines ++ [line]) (found ++ found') := by
  obtain ⟨-, -, outcome, houtcome, rfl⟩ := property_eq_ok.mp h
  have hsymbol := isSymbol_property ho hline
  obtain ⟨found', hfinds, htemplates⟩ := Expression.resolve_finds hscope houtcome
  refine ⟨found', ?_, ?_⟩
  · simpa using hp.finds.append hfinds
  · have hasked : (outcome.terms.map Bound.toConstraint).flatMap Constraint.templates =
        found'.map PatternCall.statement := by
      simpa [List.flatMap_map] using htemplates
    have hcalls := covers_statements hasked hsymbol
    have hproperty : Covers [propertyStatement (propertySymbol owner line.name.text)
        (outcome.terms.map Bound.toConstraint)] [] := by
      refine Covers.other fun k heq => ?_
      rw [declaredName_property hsymbol] at heq
      exact patternName_ne_property hline k heq.symm
    simpa using hp.covers.append (hcalls.append hproperty)

lemma properties_emit {scope : Scope} (hscope : scope.registry = .standard) {owner : String}
    (ho : IsName owner) {calls : Nat} {p p' : Progress} {done lines : List PropertyLine}
    (hp : p.Emits calls done found) (hlines : ∀ line ∈ lines, IsName line.name.text)
    (h : lines.foldlM (property scope owner) p = .ok p') :
    ∃ found', p'.Emits calls (done ++ lines) (found ++ found') := by
  induction lines generalizing p done found with
  | nil =>
    rw [List.foldlM_nil, pure_eq_ok] at h
    exact ⟨[], by simpa [← h] using hp⟩
  | cons line rest ih =>
    obtain ⟨hline, hrest⟩ := List.forall_mem_cons.mp hlines
    rw [List.foldlM_cons, bind_eq_ok] at h
    obtain ⟨p₁, h₁, h₂⟩ := h
    obtain ⟨found₁, hp₁⟩ := property_emits hscope ho hp hline h₁
    obtain ⟨found₂, hp₂⟩ := ih hp₁ hrest h₂
    exact ⟨found₁ ++ found₂, by simpa using hp₂⟩

/-- The constraints of an alias ask for the statements of the calls in its body, and for those that
earlier aliases ask for. -/
lemma alias_templates (hr : r.Emits ds found) {calls : Nat} {body : List Token}
    {outcome : Expression.Outcome} {found' : List PatternCall}
    (ho : Expression.resolve ⟨.standard, r.bindings⟩ calls body = .ok outcome)
    (htemplates : outcome.terms.flatMap (·.toConstraint.templates) =
      found'.map PatternCall.statement) :
    (∀ c ∈ outcome.terms.flatMap aliasConstraints,
      c.templates ⊆ (found ++ found').map PatternCall.statement) ∧
    found'.map PatternCall.statement ⊆
      (outcome.terms.flatMap aliasConstraints).flatMap Constraint.templates := by
  constructor
  · intro c hc template ht
    obtain ⟨b, hb, hc⟩ := List.mem_flatMap.mp hc
    rw [List.map_append]
    cases b with
    | typeAlias name cs =>
      exact List.mem_append_left _ (hr.bindings name cs (Expression.resolve_alias ho hb) c hc ht)
    | constraint | record =>
      obtain rfl := List.mem_singleton.mp hc
      exact List.mem_append_right _ (htemplates ▸ List.mem_flatMap.mpr ⟨_, hb, ht⟩)
  · rw [← htemplates]
    intro template ht
    obtain ⟨b, hb, ht⟩ := List.mem_flatMap.mp ht
    have hterm : b.toConstraint ∈ aliasConstraints b := by
      cases b with
      | typeAlias name cs =>
        simp [Bound.toConstraint, Constraint.templates, dependencyTemplates,
          Dependency.templates] at ht
      | constraint | record => exact List.mem_singleton_self _
    exact List.mem_flatMap.mpr ⟨_, List.mem_flatMap.mpr ⟨b, hb, hterm⟩, ht⟩

lemma emits_initial : initial.Emits [] [] :=
  ⟨Expression.Finds.nil 0, Covers.nil, by simp [initial]⟩

/-- **Every declaration emits the calls in its expressions.** -/
lemma declaration_emits (hr : r.Emits ds found) {d : Declaration} (hd : d.Named)
    (h : r.declaration .standard d = .ok r') :
    ∃ found', r'.Emits (ds ++ [d]) (found ++ found') := by
  cases d with
  | config keyword settings =>
    obtain ⟨c, -, hr'⟩ := bind_eq_ok.mp h
    obtain rfl := pure_eq_ok.mp hr'
    refine ⟨[], ?_, ?_, ?_⟩
    · simpa [expressionTokens_concat] using hr.finds
    · simpa [globalStatements] using hr.covers
    · simpa using hr.bindings
  | typeAlias name body =>
    obtain ⟨-, -, outcome, ho, rfl⟩ := typeAlias_eq_ok.mp h
    have hname : IsName name.text := hd
    obtain ⟨found', hfinds, htemplates⟩ := Expression.resolve_finds rfl ho
    obtain ⟨hsound, hcomplete⟩ := alias_templates hr ho htemplates
    refine ⟨found', ?_, ?_, ?_⟩
    · simpa [expressionTokens_concat] using hr.finds.append hfinds
    · let a : AliasEntry := ⟨name.text, outcome.terms.flatMap aliasConstraints⟩
      have hstatements : aliasStatements a =
          ((outcome.terms.flatMap aliasConstraints).flatMap Constraint.templates).map
            (fill (Role.typeAlias.symbol name.text)) := by
        simp only [aliasStatements, a, Constraint.statements_eq, List.map_flatMap]
      have hsymbol := isSymbol_role .typeAlias hname
      refine hr.covers.add (aliasStatements a) (fun s => ?_) ?_ ?_
      · simp [globalStatements, a, or_assoc]
      · intro s hs k _
        rw [hstatements] at hs
        obtain ⟨template, ht, rfl⟩ := List.mem_map.mp hs
        obtain ⟨c, hc, ht⟩ := List.mem_flatMap.mp ht
        obtain ⟨call, hcall, rfl⟩ := List.mem_map.mp (hsound c hc ht)
        exact ⟨call, hcall, _, hsymbol, rfl⟩
      · intro c hc
        rw [hstatements]
        have hc' := hcomplete (List.mem_map_of_mem hc)
        exact ⟨_, List.mem_map_of_mem hc', _, hsymbol, rfl⟩
    · intro other cs hl
      rcases lookup_concat hl with hl | ⟨rfl, hcs⟩
      · intro c hc
        exact List.Subset.trans (hr.bindings other cs hl c hc) (by simp)
      · obtain rfl := Binding.typeAlias.inj hcs
        exact hsound
  | record sort name lines =>
    obtain ⟨-, -, -, p, hp, rfl⟩ := record_eq_ok.mp h
    obtain ⟨hname, hlines⟩ := hd
    have hstart : Progress.Emits ⟨[], [], [], (membersSymbol name.text, name.text) ::
        ((Role.record sort).symbol name.text, name.text) :: r.symbols, r.calls⟩ r.calls [] [] :=
      ⟨Expression.Finds.nil _, Covers.nil⟩
    obtain ⟨found', hemits⟩ := properties_emit rfl hname hstart hlines hp
    rw [List.nil_append, List.nil_append] at hemits
    refine ⟨found', ?_, ?_, ?_⟩
    · simpa [expressionTokens_concat] using hr.finds.append hemits.finds
    · have hmembers : Covers [membersStatement name.text p.properties] [] := by
        refine Covers.other fun k heq => ?_
        rw [declaredName_members hname] at heq
        exact patternName_ne_members name.text k heq.symm
      have hnew := hemits.covers.append hmembers
      rw [List.append_nil] at hnew
      refine hr.covers.add (p.statements ++ [membersStatement name.text p.properties])
        (fun s => ?_) ?_ hnew.complete
      · simp only [globalStatements, List.mem_append]
        tauto
      · intro s hs k hk
        obtain ⟨c, hc, hinstance⟩ := hnew.sound s hs k hk
        exact ⟨c, List.mem_append_right _ hc, hinstance⟩
    · intro other cs hl
      rcases lookup_concat hl with hl | ⟨rfl, hcs⟩
      · intro c hc
        exact List.Subset.trans (hr.bindings other cs hl c hc) (by simp)
      · simp at hcs

lemma emits_of_foldlM (hds : ∀ d ∈ ds, d.Named)
    (h : ds.foldlM (declaration .standard) initial = .ok r) : ∃ found, r.Emits ds found := by
  induction ds using List.reverseRecOn generalizing r with
  | nil =>
    rw [List.foldlM_nil, pure_eq_ok] at h
    exact ⟨[], h ▸ emits_initial⟩
  | append_singleton ds d ih =>
    obtain ⟨r₁, h₁, h₂⟩ := (foldlM_concat d).mp h
    obtain ⟨found, hr₁⟩ := ih (fun e he => hds e (by simp [he])) h₁
    obtain ⟨found', hr⟩ := declaration_emits hr₁ (hds d (by simp)) h₂
    exact ⟨found ++ found', hr⟩

/-- What has been found is what the pass over all expressions finds. -/
lemma Emits.patternCalls_eq (hr : r.Emits ds found) :
    patternCalls 0 (expressionTokens ds) = found := by
  simpa [patternCalls] using hr.finds.scan [] rfl

lemma Emits.instance_of_declares (hr : r.Emits ds found) {c : PatternCall} (hc : c ∈ found)
    {s : String} (hs : s ∈ r.globalStatements) (hk : declaredName s = patternName c.call.id) :
    c.Instance s := by
  obtain ⟨c', hc', hinstance⟩ := hr.covers.sound s hs _ hk
  have hid : c'.call.id = c.call.id := by
    obtain ⟨name, -, rfl⟩ := hinstance
    rw [c'.declaredName_fill] at hk
    exact patternName_injective hk
  rw [← hr.patternCalls_eq] at hc hc'
  exact eq_of_mem_patternCalls hc' hc hid ▸ hinstance

end Resolution

/-! ### The lines of the globals -/

lemma nodup_eraseDups (texts : List String) : texts.eraseDups.Nodup := by
  match texts with
  | [] => exact List.nodup_nil
  | text :: rest =>
    rw [List.eraseDups_cons, List.nodup_cons]
    refine ⟨fun hmem => ?_, nodup_eraseDups (rest.filter fun other => !other == text)⟩
    rw [List.mem_eraseDups, List.mem_filter] at hmem
    simp at hmem
termination_by texts.length
decreasing_by
  have hlength := List.length_filter_le (fun other => !other == text) rest
  simp only [List.length_cons]
  omega

lemma filter_eq_singleton {texts : List String} {text : String} {p : String → Bool}
    (hnodup : texts.Nodup) (hsome : ∃ s ∈ texts, p s = true)
    (hall : ∀ s ∈ texts, p s = true → s = text) : texts.filter p = [text] := by
  have hnodup := hnodup.filter p
  have hmem : ∀ s ∈ texts.filter p, s = text := fun s hs =>
    hall s (List.mem_filter.mp hs).1 (List.mem_filter.mp hs).2
  obtain ⟨s, hs, hp⟩ := hsome
  have hne : texts.filter p ≠ [] := List.ne_nil_of_mem (List.mem_filter.mpr ⟨hs, hp⟩)
  match hfilter : texts.filter p with
  | [] => exact absurd hfilter hne
  | [first] =>
    rw [hfilter] at hmem
    rw [hmem first (by simp)]
  | first :: second :: rest =>
    rw [hfilter] at hmem hnodup
    have hfirst := hmem first (by simp)
    have hsecond := hmem second (by simp)
    simp [hfirst, hsecond] at hnodup

/-- **The line of a pattern.** The text of the file of checks has the globals in a section of their
own. For every call of the pattern factory this section has a line that declares its pattern, and
every such line is that of the call with some name filled in in the source of the pattern. There is
one such line, with the source as it stands, exactly if the source does not spell the
placeholder. -/
theorem pattern_lines {source : String} {files : Files} (h : compile source = .ok files) :
    ∃ tokens ds s, tokenize source = .ok tokens ∧ group tokens = .ok ds ∧ resolve ds = .ok s ∧
      sectionLines? "globals" files.validation = some (globals s) ∧
      ∀ front call back callee p f, expressionTokens ds = front ++ (call ++ back) →
        MatchCall callee p f call →
        (∃ line ∈ globals s, declaredName line = patternName (closings front + 1)) ∧
        (∀ line ∈ globals s, declaredName line = patternName (closings front + 1) →
          ∃ name, IsSymbol name ∧ line = patternLine (closings front + 1) (fill name p) f) ∧
        ((globals s).filter (declaredName · = patternName (closings front + 1)) =
            [patternLine (closings front + 1) p f] ↔ ¬ placeholder.toList <:+: p.toList) := by
  obtain ⟨tokens, ds, r, htokens, hds, hnamed, hr, hs, hlined, rfl⟩ := exists_lined_of_compile h
  obtain ⟨found, hemits⟩ := Resolution.emits_of_foldlM hnamed hr
  have hglobals : globals r.schema = r.globalStatements.eraseDups := hlined.globals_eq
  refine ⟨tokens, ds, r.schema, htokens, hds, hs, hlined.sectionLines?_globals, ?_⟩
  intro front call back callee p f hsplit hcall
  let c : PatternCall := ⟨⟨callee, closings front + 1⟩, p, f⟩
  have hc : c ∈ found := by
    have hmem := hcall.mem_patternCalls 0 front back
    rwa [← hsplit, hemits.patternCalls_eq, Nat.zero_add] at hmem
  have hlines : ∀ line ∈ globals r.schema, declaredName line = patternName (closings front + 1) →
      c.Instance line := by
    intro line hline hk
    rw [hglobals, List.mem_eraseDups] at hline
    exact hemits.instance_of_declares hc hline hk
  have hsome : ∃ line ∈ globals r.schema,
      declaredName line = patternName (closings front + 1) := by
    obtain ⟨line, hline, name, -, rfl⟩ := hemits.covers.complete c hc
    refine ⟨fill name c.statement, ?_, c.declaredName_fill name⟩
    rwa [hglobals, List.mem_eraseDups]
  have hfill : ∀ name, IsSymbol name → fill name c.statement =
      patternLine (closings front + 1) (fill name p) f := fun name hname =>
    PatternCall.fill_statement (hemits.finds.flags c hc) hname
  refine ⟨hsome, ?_, ?_, ?_⟩
  · intro line hline hk
    obtain ⟨name, hname, rfl⟩ := hlines line hline hk
    exact ⟨name, hname, hfill name hname⟩
  · intro hone hspelled
    have hmem : patternLine (closings front + 1) p f ∈ (globals r.schema).filter
        (declaredName · = patternName (closings front + 1)) := by
      rw [hone]
      exact List.mem_singleton_self _
    obtain ⟨hline, hk⟩ := List.mem_filter.mp hmem
    obtain ⟨name, hname, heq⟩ := hlines _ hline (of_decide_eq_true hk)
    exact fill_ne_self hname (placeholder_infix_patternLine hspelled _ f) heq.symm
  · intro hplain
    refine filter_eq_singleton (hglobals ▸ nodup_eraseDups _) (by simpa using hsome) ?_
    intro line hline hk
    obtain ⟨name, hname, rfl⟩ := hlines line hline (of_decide_eq_true hk)
    rw [hfill name hname, fill_eq_self hplain]

/-- A pattern under an alias that another alias takes up, and one deep inside a property. -/
def sharedPatternSource : String :=
  "alias A match(\"a+\", \"gi\")\nalias B A\n"
    ++ "model M \x7b\n x optional(optional(match(\"b\"))) B\n\x7d\n"

theorem pattern_lines_shared :
    ∃ files rows, compile sharedPatternSource = .ok files ∧
      sectionLines? "globals" files.validation = some rows ∧
      rows.filter (declaredName · = patternName 1) =
        ["const pattern$1 = new RegExp(\"a+\", \"i\");"] := by
  have hok : (compile sharedPatternSource).toOption.isSome = true := by decide +kernel
  obtain ⟨files, hfiles⟩ := Option.isSome_iff_exists.mp hok
  have hcompile := toOption_eq_some.mp hfiles
  obtain ⟨tokens, ds, s, htokens, hds, -, hsection, hlines⟩ := pattern_lines hcompile
  have hfirst : ((tokenize sharedPatternSource >>= group).toOption.bind fun ds =>
      patternCall? 0 (expressionTokens ds)).map (fun c => (c.source, c.flags)) =
        some ("a+", "gi") := by decide +kernel
  have hgroup : (tokenize sharedPatternSource >>= group) = .ok ds :=
    bind_eq_ok.mpr ⟨tokens, htokens, hds⟩
  rw [hgroup] at hfirst
  obtain ⟨c, hc, htexts⟩ := Option.map_eq_some_iff.mp hfirst
  obtain ⟨hsource, hflags⟩ := Prod.mk.inj htexts
  obtain ⟨callee, call, back, hsplit, hcall, -⟩ := patternCall?_eq_some hc
  rw [hsource, hflags] at hcall
  obtain ⟨-, -, hone⟩ := hlines [] call back callee _ _ hsplit hcall
  exact ⟨files, globals s, hcompile, hsection, hone.mpr (by decide)⟩

/-- A pattern of one of the characters that the placeholder has. -/
def spelledPlaceholderSource : String := "alias A match(\"[\x7b\x7b name \x7d\x7d]\")\n"

/-- The name of the alias ends up in the pattern. -/
theorem pattern_line_altered :
    ∃ files ds callee call back, compile spelledPlaceholderSource = .ok files ∧
      (tokenize spelledPlaceholderSource >>= group) = .ok ds ∧ expressionTokens ds = call ++ back ∧
      MatchCall callee "[\x7b\x7b name \x7d\x7d]" "" call ∧
      sectionLines? "globals" files.validation =
        some ["const pattern$1 = new RegExp(\"[alias$A]\", \"\");"] ∧
      patternLine 1 "[\x7b\x7b name \x7d\x7d]" "" ∉
        ["const pattern$1 = new RegExp(\"[alias$A]\", \"\");"] := by
  have hok : (compile spelledPlaceholderSource).toOption.isSome = true := by decide +kernel
  have hglobals : ((tokenize spelledPlaceholderSource >>= group) >>= resolve).toOption.map globals =
      some ["const pattern$1 = new RegExp(\"[alias$A]\", \"\");"] := by decide +kernel
  have hfirst : ((tokenize spelledPlaceholderSource >>= group).toOption.bind fun ds =>
      patternCall? 0 (expressionTokens ds)).map (fun c => (c.source, c.flags)) =
        some ("[\x7b\x7b name \x7d\x7d]", "") := by decide +kernel
  obtain ⟨files, hfiles⟩ := Option.isSome_iff_exists.mp hok
  have hcompile := toOption_eq_some.mp hfiles
  obtain ⟨tokens, ds, r, htokens, hds, -, -, hs, hlined, rfl⟩ := exists_lined_of_compile hcompile
  have hgroup : (tokenize spelledPlaceholderSource >>= group) = .ok ds :=
    bind_eq_ok.mpr ⟨tokens, htokens, hds⟩
  have hresolve : (tokenize spelledPlaceholderSource >>= group) >>= resolve = .ok r.schema :=
    bind_eq_ok.mpr ⟨ds, hgroup, hs⟩
  -- the section is read by the general lemma; only its lines are evaluated
  rw [hresolve] at hglobals
  rw [hgroup] at hfirst
  obtain ⟨c, hc, htexts⟩ := Option.map_eq_some_iff.mp hfirst
  obtain ⟨hsource, hflags⟩ := Prod.mk.inj htexts
  obtain ⟨callee, call, back, hsplit, hcall, -⟩ := patternCall?_eq_some hc
  rw [hsource, hflags] at hcall
  exact ⟨r.schema.files, ds, callee, call, back, hcompile, hgroup, hsplit, hcall,
    hlined.sectionLines?_globals.trans hglobals, by decide⟩

end TypeGuard
