import Mathlib.Data.List.Induction
import TypeGuard.Proofs.Resolution
import TypeGuard.Proofs.WellFormed

/-!
Resolving succeeds exactly for well-formed schemas.

What is carried along is what a resolution knows of the declarations it has taken: their names, the
number of constraints that each name stands for, and the generated names. With that, a declaration
resolves exactly if it fits behind the ones before it.
-/

namespace TypeGuard

open Outcome Expression

namespace Resolution

variable {ds : List Declaration} {r r' : Resolution}

/-- What a resolution knows of the declarations it has taken. -/
structure Tracks (r : Resolution) (ds : List Declaration) : Prop where
  scope : Scope.Knows ⟨.standard, r.bindings⟩ ds
  symbols : r.symbols.map (·.1) = (generatedNames ds).reverse

/-- What a declaration needs behind others. -/
structure Fits (ds : List Declaration) (d : Declaration) : Prop where
  settings : ∀ s ∈ d.settings, s.Valid
  fresh : ∀ name ∈ d.names, name ∉ declaredNames ds
  undeclared : ∀ name ∈ d.names, Registry.standard.contains name = false
  distinct : d.generatedNames.Nodup
  generated : ∀ name ∈ d.generatedNames, name ∉ generatedNames ds
  expressions : ∀ tokens ∈ d.expressions, Expression.Allowed ds tokens

lemma setting_eq_ok {c c' : Configuration} {s : Setting} :
    setting c s = .ok c' ↔ s.key.kind = .identifier ∧ s.value.kind.isLiteral = true ∧
      ∃ value, Literal.ofToken s.value = .ok value ∧ c' = c.insert s.key.text value := by
  unfold setting
  by_cases hkey : s.key.kind = .identifier
  · by_cases hliteral : s.value.kind.isLiteral = true
    · cases Literal.ofToken s.value <;> simp [hkey, hliteral, Except.map, eq_comm]
    · simp [hkey, hliteral]
  · simp [hkey]

lemma settings_valid {settings : List Setting} {c : Configuration} :
    (∃ c', settings.foldlM setting c = .ok c') ↔ ∀ s ∈ settings, s.Valid := by
  induction settings generalizing c with
  | nil => simp [pure_eq_ok]
  | cons s rest ih =>
    simp only [List.foldlM_cons, bind_eq_ok, List.forall_mem_cons]
    constructor
    · rintro ⟨c', c₁, h₁, h₂⟩
      obtain ⟨hkey, hliteral, value, hvalue, -⟩ := setting_eq_ok.mp h₁
      exact ⟨⟨hkey, hliteral, value, hvalue⟩, ih.mp ⟨c', h₂⟩⟩
    · rintro ⟨⟨hkey, hliteral, value, hvalue⟩, hrest⟩
      obtain ⟨c', h₂⟩ := ih.mpr hrest
      exact ⟨c', _, setting_eq_ok.mpr ⟨hkey, hliteral, value, hvalue, rfl⟩, h₂⟩

/-! ### The properties of a record -/

def symbolOf (owner : String) (line : PropertyLine) : String := propertySymbol owner line.name.text

/-- The properties read so far have reserved their names. -/
def Progress.Reserved (owner : String) (p : Progress) : Prop :=
  ∀ q ∈ p.properties, propertySymbol owner q.name ∈ p.symbols.map (·.1)

/-- A property resolves if its name is free and its expression is allowed. That no earlier property
has its name need not be asked: such a property would have reserved the name. -/
lemma property_fits {scope : Scope} (hscope : scope.Knows ds) {owner : String} {p : Progress}
    (hp : p.Reserved owner) {line : PropertyLine} :
    (∃ p', property scope owner p line = .ok p') ↔
      symbolOf owner line ∉ p.symbols.map (·.1) ∧ Expression.Allowed ds line.expression := by
  simp only [property_eq_ok, lookup_eq_none]
  constructor
  · rintro ⟨p', -, hfree, outcome, ho, -⟩
    exact ⟨hfree, (Expression.resolve_eq_ok_iff hscope).mp ⟨outcome, ho⟩⟩
  · rintro ⟨hfree, hallowed⟩
    obtain ⟨outcome, ho⟩ := (Expression.resolve_eq_ok_iff hscope).mpr hallowed
    refine ⟨_, ?_, hfree, outcome, ho, rfl⟩
    simp only [List.any_eq_false, beq_iff_eq]
    intro q hq hname
    exact hfree (by simpa [symbolOf, hname] using hp q hq)

lemma property_reserved {scope : Scope} {owner : String} {p p' : Progress} {line : PropertyLine}
    (hp : p.Reserved owner) (h : property scope owner p line = .ok p') :
    p'.Reserved owner ∧ p'.symbols.map (·.1) = symbolOf owner line :: p.symbols.map (·.1) := by
  obtain ⟨-, -, outcome, -, rfl⟩ := property_eq_ok.mp h
  refine ⟨?_, rfl⟩
  intro q hq
  rcases List.mem_append.mp hq with hq | hq
  · exact List.mem_cons_of_mem _ (hp q hq)
  · obtain rfl := List.mem_singleton.mp hq
    simp

lemma properties_fit {scope : Scope} (hscope : scope.Knows ds) {owner : String} {p : Progress}
    (hp : p.Reserved owner) {lines : List PropertyLine} :
    (∃ p', lines.foldlM (property scope owner) p = .ok p') ↔
      (lines.map (symbolOf owner)).Nodup ∧
      (∀ line ∈ lines, symbolOf owner line ∉ p.symbols.map (·.1)) ∧
      ∀ line ∈ lines, Expression.Allowed ds line.expression := by
  induction lines generalizing p with
  | nil => simp [pure_eq_ok]
  | cons line rest ih =>
    simp only [List.foldlM_cons, bind_eq_ok, List.forall_mem_cons, List.map_cons, List.nodup_cons]
    constructor
    · rintro ⟨p', p₁, h₁, h₂⟩
      obtain ⟨hfree, hallowed⟩ := (property_fits hscope hp).mp ⟨p₁, h₁⟩
      obtain ⟨hp₁, hsymbols⟩ := property_reserved hp h₁
      obtain ⟨hnodup, hrest, hexprs⟩ := (ih hp₁).mp ⟨p', h₂⟩
      simp only [hsymbols, List.mem_cons, not_or] at hrest
      refine ⟨⟨?_, hnodup⟩, ⟨hfree, fun l hl => (hrest l hl).2⟩, hallowed, hexprs⟩
      intro hmem
      obtain ⟨l, hl, heq⟩ := List.mem_map.mp hmem
      exact (hrest l hl).1 heq
    · rintro ⟨⟨hnot, hnodup⟩, ⟨hfree, hrest⟩, hallowed, hexprs⟩
      obtain ⟨p₁, h₁⟩ := (property_fits hscope hp).mpr ⟨hfree, hallowed⟩
      obtain ⟨hp₁, hsymbols⟩ := property_reserved hp h₁
      have hfresh : ∀ l ∈ rest, symbolOf owner l ∉ p₁.symbols.map (·.1) := by
        intro l hl hmem
        rw [hsymbols] at hmem
        rcases List.mem_cons.mp hmem with heq | hmem
        · exact hnot (heq ▸ List.mem_map_of_mem hl)
        · exact hrest l hl hmem
      obtain ⟨p', h₂⟩ := (ih hp₁).mpr ⟨hnodup, hfresh, hexprs⟩
      exact ⟨p', p₁, h₁, h₂⟩

lemma symbols_of_properties {scope : Scope} {owner : String} {p p' : Progress}
    {lines : List PropertyLine} (h : lines.foldlM (property scope owner) p = .ok p') :
    p'.symbols.map (·.1) = (lines.map (symbolOf owner)).reverse ++ p.symbols.map (·.1) := by
  induction lines generalizing p with
  | nil =>
    rw [List.foldlM_nil, pure_eq_ok] at h
    simp [h]
  | cons line rest ih =>
    rw [List.foldlM_cons, bind_eq_ok] at h
    obtain ⟨p₁, h₁, h₂⟩ := h
    obtain ⟨-, -, outcome, -, rfl⟩ := property_eq_ok.mp h₁
    simp [ih h₂, symbolOf]

/-! ### One declaration -/

lemma contains_eq_false (hr : r.Tracks ds) {name : String} :
    Scope.contains ⟨.standard, r.bindings⟩ name = false ↔
      name ∉ declaredNames ds ∧ Registry.standard.contains name = false := by
  have hnames : r.bindings.map (·.1) = declaredNames ds := hr.scope.names
  rw [Scope.contains, Bool.or_eq_false_iff, ← hnames, ← lookup_eq_none]
  simp

lemma lookup_symbol (hr : r.Tracks ds) {name : String} :
    r.symbols.lookup name = none ↔ name ∉ generatedNames ds := by
  rw [lookup_eq_none, hr.symbols, List.mem_reverse]

/-- Names are distinct and free exactly if each of them is when its turn comes. -/
lemma nodup_and_free {first second : String} {others taken : List String} :
    ((first :: second :: others).Nodup ∧ ∀ name ∈ first :: second :: others, name ∉ taken) ↔
      first ∉ taken ∧ (second ≠ first ∧ second ∉ taken) ∧ others.Nodup ∧
        ∀ name ∈ others, name ≠ second ∧ name ≠ first ∧ name ∉ taken := by
  grind

/-- **A declaration resolves** exactly if it fits behind the ones before it. -/
lemma declaration_fits (hr : r.Tracks ds) {d : Declaration} :
    (∃ r', r.declaration .standard d = .ok r') ↔ Fits ds d := by
  cases d with
  | config keyword settings =>
    simp only [declaration, bind_eq_ok, pure_eq_ok]
    constructor
    · rintro ⟨r', c, hc, -⟩
      exact ⟨settings_valid.mp ⟨c, hc⟩, by simp, by simp, by simp, by simp, by simp⟩
    · intro h
      obtain ⟨c, hc⟩ := settings_valid.mpr h.settings
      exact ⟨_, c, hc, rfl⟩
  | typeAlias name body =>
    simp only [declaration, typeAlias_eq_ok, contains_eq_false hr, lookup_symbol hr]
    constructor
    · rintro ⟨r', ⟨hfresh, hundeclared⟩, hsymbol, outcome, ho, -⟩
      have hallowed := (Expression.resolve_eq_ok_iff hr.scope).mp ⟨outcome, ho⟩
      exact ⟨by simp, by simpa using hfresh, by simpa using hundeclared, by simp,
        by simpa using hsymbol, by simpa using hallowed⟩
    · intro h
      obtain ⟨outcome, ho⟩ :=
        (Expression.resolve_eq_ok_iff hr.scope).mpr (h.expressions body (by simp))
      exact ⟨_, ⟨h.fresh _ (by simp), h.undeclared _ (by simp)⟩, h.generated _ (by simp), outcome,
        ho, rfl⟩
  | record sort name lines =>
    -- the two names of the record itself come first, then those of its properties
    have hstart (symbols : List (String × String)) (calls : Nat) :
        Progress.Reserved name.text ⟨[], [], [], symbols, calls⟩ := by
      intro q hq
      simp at hq
    simp only [declaration, record_eq_ok, contains_eq_false hr, lookup_symbol hr]
    constructor
    · rintro ⟨r', ⟨hfresh, hundeclared⟩, hsymbol, hmembers, p, hp, -⟩
      obtain ⟨hnodup, hfree, hexprs⟩ := (properties_fit hr.scope (hstart _ _)).mp ⟨p, hp⟩
      simp only [lookup_eq_none, List.map_cons, hr.symbols, List.mem_cons, List.mem_reverse,
        not_or] at hmembers hfree
      have hgenerated := nodup_and_free.mpr
        ⟨hsymbol, hmembers, hnodup, List.forall_mem_map.mpr hfree⟩
      exact ⟨by simp, by simpa using hfresh, by simpa using hundeclared, hgenerated.1,
        hgenerated.2, by simpa using hexprs⟩
    · intro h
      obtain ⟨hsymbol, hmembers, hnodup, hfree⟩ := nodup_and_free.mp ⟨h.distinct, h.generated⟩
      have hexprs : ∀ line ∈ lines, Expression.Allowed ds line.expression := fun line hline =>
        h.expressions _ (List.mem_map_of_mem hline)
      obtain ⟨p, hp⟩ := (properties_fit hr.scope (hstart
        ((membersSymbol name.text, name.text) ::
          ((Role.record sort).symbol name.text, name.text) :: r.symbols) r.calls)).mpr
        ⟨hnodup, by simpa [symbolOf, hr.symbols] using List.forall_mem_map.mp hfree, hexprs⟩
      refine ⟨_, ⟨h.fresh _ (by simp), h.undeclared _ (by simp)⟩, hsymbol, ?_, p, hp, rfl⟩
      rw [lookup_eq_none, List.map_cons, hr.symbols]
      simpa using hmembers

lemma tracks_initial : initial.Tracks [] where
  scope := ⟨rfl, rfl, by simp [declaredNames], by simp [initial]⟩
  symbols := rfl

lemma declaredNames_concat (ds : List Declaration) (d : Declaration) :
    declaredNames (ds ++ [d]) = declaredNames ds ++ d.names := by
  simp [declaredNames]

lemma generatedNames_concat (ds : List Declaration) (d : Declaration) :
    generatedNames (ds ++ [d]) = generatedNames ds ++ d.generatedNames := by
  simp [generatedNames]

lemma knows_concat {bindings : List (String × Binding)} {d : Declaration} {name : String}
    {b : Binding} (h : Scope.Knows ⟨.standard, bindings⟩ ds) (hd : d.names = [name])
    (hfresh : name ∉ declaredNames ds) (hundeclared : Registry.standard.contains name = false)
    (hsame : ∀ other, other ≠ name → flattenedSize (ds ++ [d]) other = flattenedSize ds other)
    (hsize : b.size = flattenedSize (ds ++ [d]) name) :
    Scope.Knows ⟨.standard, bindings ++ [(name, b)]⟩ (ds ++ [d]) where
  registry := rfl
  names := by
    have hnames : bindings.map (·.1) = declaredNames ds := h.names
    rw [declaredNames_concat, hd, ← hnames, List.map_append]
    rfl
  undeclared := by
    intro other hother
    rw [declaredNames_concat, hd, List.mem_append, List.mem_singleton] at hother
    rcases hother with hother | rfl
    · exact h.undeclared other hother
    · exact hundeclared
  sizes := by
    intro other b' hlookup
    rcases lookup_concat hlookup with hold | ⟨rfl, rfl⟩
    · have hmem : other ∈ declaredNames ds := by
        rw [← h.names, ← lookup_isSome, hold]
        rfl
      rw [hsame other fun heq => hfresh (heq ▸ hmem)]
      exact h.sizes other b' hold
    · exact hsize

/-- **Resolving a declaration adds what it declares** to what is known. -/
lemma tracks_declaration (hr : r.Tracks ds) {d : Declaration}
    (h : r.declaration .standard d = .ok r') : r'.Tracks (ds ++ [d]) := by
  have hfits := (declaration_fits hr).mp ⟨r', h⟩
  cases d with
  | config keyword settings =>
    obtain ⟨c, -, hr'⟩ := bind_eq_ok.mp h
    obtain rfl := pure_eq_ok.mp hr'
    have hsizes : flattenedSize (ds ++ [.config keyword settings]) = flattenedSize ds := by
      funext name
      simp [flattenedSize, sizeSince]
    refine ⟨⟨rfl, ?_, ?_, ?_⟩, ?_⟩
    · simpa [declaredNames_concat] using hr.scope.names
    · simpa [declaredNames_concat] using hr.scope.undeclared
    · rw [hsizes]
      exact hr.scope.sizes
    · simpa [generatedNames_concat] using hr.symbols
  | typeAlias name body =>
    obtain ⟨-, -, outcome, ho, rfl⟩ := typeAlias_eq_ok.mp h
    refine ⟨knows_concat hr.scope rfl (hfits.fresh _ (by simp)) (hfits.undeclared _ (by simp))
      ?_ ?_, ?_⟩
    · intro other hne
      simp [flattenedSize, sizeSince, hne]
    · rw [Binding.size, Expression.length_constraints hr.scope ho]
      simp only [flattenedSize, List.reverse_append, List.reverse_singleton, List.singleton_append,
        sizeSince, if_pos]
      rfl
    · simp [generatedNames_concat, hr.symbols]
  | record sort name lines =>
    obtain ⟨-, -, -, p, hp, rfl⟩ := record_eq_ok.mp h
    have hsizes : flattenedSize (ds ++ [.record sort name lines]) = flattenedSize ds := by
      funext other
      simp [flattenedSize, sizeSince]
    have hfresh := hfits.fresh name.text (by simp)
    refine ⟨knows_concat hr.scope rfl hfresh (hfits.undeclared _ (by simp)) ?_ ?_, ?_⟩
    · intro other _
      rw [hsizes]
    · rw [hsizes, flattenedSize_of_not_mem hfresh]
      rfl
    · have hsymbols := symbols_of_properties hp
      simp [generatedNames_concat, hsymbols, hr.symbols, symbolOf]

/-! ### All declarations -/

lemma foldlM_concat (d : Declaration) :
    (ds ++ [d]).foldlM (declaration .standard) initial = .ok r' ↔
      ∃ r, ds.foldlM (declaration .standard) initial = .ok r ∧
        r.declaration .standard d = .ok r' := by
  simp [List.foldlM_append, bind_eq_ok]

lemma tracks_of_foldlM (h : ds.foldlM (declaration .standard) initial = .ok r) : r.Tracks ds := by
  induction ds using List.reverseRecOn generalizing r with
  | nil =>
    rw [List.foldlM_nil, pure_eq_ok] at h
    exact h ▸ tracks_initial
  | append_singleton ds d ih =>
    obtain ⟨r₁, h₁, h₂⟩ := (foldlM_concat d).mp h
    exact tracks_declaration (ih h₁) h₂

end Resolution

lemma concat_eq_split {ds before after : List Declaration} {d e : Declaration}
    (h : ds ++ [d] = before ++ e :: after) :
    (before = ds ∧ e = d) ∨ ∃ more, ds = before ++ e :: more := by
  rcases List.eq_nil_or_concat after with rfl | ⟨more, last, rfl⟩
  · obtain ⟨hds, hd⟩ := List.append_inj' h rfl
    exact .inl ⟨hds.symm, (List.cons.inj hd).1.symm⟩
  · rw [List.concat_eq_append, ← List.cons_append, ← List.append_assoc] at h
    exact .inr ⟨more, (List.append_inj' h rfl).1⟩

lemma wellFormed_nil : WellFormed [] where
  settings := by simp
  distinct := by simp [declaredNames]
  undeclared := by simp [declaredNames]
  generated := by simp [generatedNames]
  expressions := by simp

lemma WellFormed.fits {ds : List Declaration} {d : Declaration} (h : WellFormed (ds ++ [d])) :
    WellFormed ds ∧ Resolution.Fits ds d := by
  have hdistinct := h.distinct
  have hgenerated := h.generated
  rw [Resolution.declaredNames_concat, List.nodup_append] at hdistinct
  rw [Resolution.generatedNames_concat, List.nodup_append] at hgenerated
  constructor
  · refine ⟨fun e he => h.settings e (by simp [he]), hdistinct.1, fun name hname => ?_,
      hgenerated.1, ?_⟩
    · exact h.undeclared name (by simp [Resolution.declaredNames_concat, hname])
    · rintro before e after rfl
      exact h.expressions before e (after ++ [d]) (by simp)
  · refine ⟨h.settings d (by simp), fun name hname hmem => ?_, fun name hname => ?_,
      hgenerated.2.1, fun name hname hmem => ?_, h.expressions ds d [] rfl⟩
    · exact hdistinct.2.2 name hmem name hname rfl
    · refine h.undeclared name ?_
      rw [Resolution.declaredNames_concat, List.mem_append]
      exact .inr hname
    · exact hgenerated.2.2 name hmem name hname rfl

lemma Resolution.Fits.wellFormed {ds : List Declaration} {d : Declaration} (hd : Fits ds d)
    (h : WellFormed ds) : WellFormed (ds ++ [d]) where
  settings := by
    intro e he
    rcases List.mem_append.mp he with he | he
    · exact h.settings e he
    · exact List.mem_singleton.mp he ▸ hd.settings
  distinct := by
    have hnames : d.names.Nodup := by cases d <;> simp
    rw [declaredNames_concat, List.nodup_append]
    exact ⟨h.distinct, hnames, fun a ha b hb heq => hd.fresh b hb (heq ▸ ha)⟩
  undeclared := by
    intro name hname
    rw [declaredNames_concat, List.mem_append] at hname
    exact hname.elim (h.undeclared name) (hd.undeclared name)
  generated := by
    rw [generatedNames_concat, List.nodup_append]
    exact ⟨h.generated, hd.distinct, fun a ha b hb heq => hd.generated b hb (heq ▸ ha)⟩
  expressions := by
    intro before e after heq
    rcases concat_eq_split heq with ⟨rfl, rfl⟩ | ⟨more, rfl⟩
    · exact hd.expressions
    · exact h.expressions before e more rfl

lemma foldlM_eq_ok_iff (ds : List Declaration) :
    (∃ r, ds.foldlM (Resolution.declaration .standard) .initial = .ok r) ↔ WellFormed ds := by
  induction ds using List.reverseRecOn with
  | nil => simp [pure_eq_ok, wellFormed_nil]
  | append_singleton ds d ih =>
    simp only [Resolution.foldlM_concat]
    constructor
    · rintro ⟨r', r, hr, hr'⟩
      have hfits := (Resolution.declaration_fits (Resolution.tracks_of_foldlM hr)).mp ⟨r', hr'⟩
      exact hfits.wellFormed (ih.mp ⟨r, hr⟩)
    · intro h
      obtain ⟨hwell, hfits⟩ := h.fits
      obtain ⟨r, hr⟩ := ih.mpr hwell
      obtain ⟨r', hr'⟩ :=
        (Resolution.declaration_fits (Resolution.tracks_of_foldlM hr)).mpr hfits
      exact ⟨r', r, hr, hr'⟩

/-! ### References point backwards -/

/-- A name that needs no declaration, or is declared before. -/
def Known (before : List Declaration) (name : String) : Prop :=
  name ∈ declaredNames before ∨ Registry.standard.contains name = true

namespace Expression

variable {before : List Declaration}

lemma known_operands {operands : List Operand} {inner : List Token}
    (h : Operand.Listed operands inner)
    (ih : ∀ a, Operand.term a ∈ operands → ∀ ts, a.Spelled ts →
      ∀ t ∈ ts, t.kind = .identifier → Known before t.text) :
    ∀ t ∈ inner, t.kind = .identifier → Known before t.text := by
  refine h.induct (motive := fun ts => ∀ t ∈ ts, t.kind = .identifier → Known before t.text)
    (by simp) (fun ts us hts hus => List.forall_mem_append.mpr ⟨hts, hus⟩) ?_ ih
  rintro t hother t' hmem hkind
  obtain rfl := List.mem_singleton.mp hmem
  simp [hkind, Kind.isLiteral] at hother

lemma Term.Allowed.known {a : Term} (h : a.Allowed before) {ts : List Token}
    (hts : a.Spelled ts) : ∀ t ∈ ts, t.kind = .identifier → Known before t.text := by
  induction a generalizing ts with
  | name t =>
    intro t' hmem _
    cases hts with
    | name ht =>
      obtain rfl := List.mem_singleton.mp hmem
      cases h with
      | primitive hprimitive => exact .inr (by simp [Registry.contains, hprimitive])
      | declared hdeclared => exact .inl hdeclared
  | call callee operands ih =>
    intro t hmem hkind
    cases hts with
    | @call _ opener closer _ inner hcallee hopener hcloser hlisted =>
      cases h with
      | call hoperands haccepts =>
        have hinner : ∀ t ∈ inner, t.kind = .identifier → Known before t.text := by
          refine known_operands hlisted fun a ha ts hts => ih a ha ?_ hts
          cases hoperands _ ha with
          | term hallowed _ => exact hallowed
        have hcases : t = callee ∨ t = opener ∨ t ∈ inner ∨ t = closer := by simpa using hmem
        rcases hcases with rfl | rfl | hmem | rfl
        · exact .inr (by simp [Registry.contains, haccepts.isSome])
        · simp [hopener] at hkind
        · exact hinner t hmem hkind
        · simp [hcloser] at hkind

lemma Allowed.known {tokens : List Token} (h : Allowed before tokens) :
    ∀ t ∈ tokens, t.kind = .identifier → Known before t.text := by
  obtain ⟨terms, hterms, hall⟩ := h
  induction hterms with
  | nil => simp
  | @cons a rest ts more ha _ ih =>
    intro t hmem hkind
    rcases List.mem_append.mp hmem with hmem | hmem
    · exact (hall a (by simp)).known ha t hmem hkind
    · exact ih (fun b hb => hall b (by simp [hb])) t hmem hkind

end Expression

lemma WellFormed.backward {ds : List Declaration} (h : WellFormed ds)
    {before after : List Declaration} {d : Declaration} (hds : ds = before ++ d :: after)
    {tokens : List Token} (htokens : tokens ∈ d.expressions) {t : Token} (ht : t ∈ tokens)
    (hkind : t.kind = .identifier) : t.text ∉ declaredNames (d :: after) := by
  intro hlater
  have hnames : declaredNames ds = declaredNames before ++ declaredNames (d :: after) := by
    simp [hds, declaredNames]
  rcases (h.expressions before d after hds tokens htokens).known t ht hkind with hearlier | hbuiltin
  · have hdistinct := h.distinct
    rw [hnames, List.nodup_append] at hdistinct
    exact hdistinct.2.2 _ hearlier _ hlater rfl
  · have hundeclared := h.undeclared t.text (by rw [hnames]; simp [hlater])
    simp [hundeclared] at hbuiltin

/-- **Declarations resolve exactly if they are well-formed.** In particular a name in an expression
never stands for the declaration that it occurs in, or for a later one. -/
theorem resolve_eq_ok_iff_wellFormed (ds : List Declaration) :
    ((∃ s, resolve ds = .ok s) ↔ WellFormed ds) ∧
      ((∃ s, resolve ds = .ok s) → ∀ before d after, ds = before ++ d :: after →
        ∀ tokens ∈ d.expressions, ∀ t ∈ tokens, t.kind = .identifier →
          t.text ∉ declaredNames (d :: after)) := by
  have hiff : (∃ s, resolve ds = .ok s) ↔ WellFormed ds := by
    rw [← foldlM_eq_ok_iff]
    simp only [resolve, resolveWith, bind_eq_ok, pure_eq_ok]
    constructor
    · rintro ⟨s, r, hr, -⟩
      exact ⟨r, hr⟩
    · rintro ⟨r, hr⟩
      exact ⟨r.schema, r, hr, rfl⟩
  refine ⟨hiff, fun hok before d after hds tokens htokens t ht hkind => ?_⟩
  exact (hiff.mp hok).backward hds htokens ht hkind

end TypeGuard
