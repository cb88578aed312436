import TypeGuard.Output.Declarations
import TypeGuard.Proofs.Meaning
import TypeGuard.Proofs.Provenance

/-!
Aliases are transparent.

A name that stands for an alias may be replaced by the tokens of the alias, wherever it stands
outside of parentheses. What is declared there then has the same type and accepts the same values,
although it has other constraints: in an alias the constraints of the name are there anyway, and in
a property one constraint gives way to several. From there on nothing can tell the difference,
since later declarations only see what the names mean.
-/

namespace TypeGuard

open Outcome

/-! ### Names outside of parentheses -/

namespace Nesting

lemma run_outer {opened left tokens : List Token} (h : run opened tokens = .ok left)
    (outer : List Token) : run (opened ++ outer) tokens = .ok (left ++ outer) := by
  induction tokens generalizing opened with
  | nil =>
    obtain rfl : opened = left := by simpa using h
    rfl
  | cons t rest ih =>
    rw [run] at h
    split at h
    · simp at h
    · next opened' hstep =>
      obtain ⟨hopens, rfl⟩ | ⟨hother, rfl⟩ | ⟨last, hpair, rfl⟩ := step_cases hstep
      · rw [run_cons_of_step rest (step_opener _ hopens)]
        exact ih h
      · rw [run_cons_of_step rest (step_other _ hother)]
        exact ih h
      · rw [List.cons_append, run_cons_of_step rest (step_closer _ hpair)]
        exact ih h

lemma not_wellNested_opener {opener : Token} {front inner : List Token}
    (hopener : isOpener opener.kind = true) (hinner : WellNested inner) (hfront : front <+: inner) :
    ¬ WellNested (opener :: front) := by
  intro h
  obtain ⟨back, rfl⟩ := hfront
  have hrun := wellNested_iff.mp hinner
  rw [run_append] at hrun
  split at hrun
  · simp at hrun
  · next left hleft =>
    have hwhole := wellNested_iff.mp h
    rw [run_cons_of_step _ (step_opener _ hopener)] at hwhole
    have houter : run [opener] front = .ok (left ++ [opener]) := run_outer hleft [opener]
    rw [houter] at hwhole
    simp at hwhole

lemma WellNested.of_append {front back : List Token} (hfront : WellNested front)
    (h : WellNested (front ++ back)) : WellNested back := by
  rw [wellNested_iff, run_wellNested hfront] at h
  exact wellNested_iff.mpr h

end Nesting

namespace Expression

open Nesting

lemma identifier_not_bracket {t : Token} (h : t.kind = .identifier) : t.kind ∉ brackets := by
  simp [h, brackets]

lemma wellNested_operands {operands : List Operand} {inner : List Token}
    (h : Operand.Listed operands inner)
    (ih : ∀ a, Operand.term a ∈ operands → ∀ ts, a.Spelled ts → WellNested ts) :
    WellNested inner := by
  refine h.induct .nil (fun ts us hts hus => hts.append hus) (fun t ht => .other ?_ .nil) ih
  cases hk : t.kind <;> simp_all [Kind.isLiteral, brackets]

lemma Term.Spelled.wellNested {a : Term} {ts : List Token} (h : a.Spelled ts) : WellNested ts := by
  induction a generalizing ts with
  | name t =>
    cases h with
    | name ht => exact .other (identifier_not_bracket ht) .nil
  | call callee operands ih =>
    cases h with
    | call hcallee hopener hcloser hlisted =>
      refine .other (identifier_not_bracket hcallee) (.pair ?_ ?_ .nil)
      · rw [hopener, hcloser]
        exact .paren
      · exact wellNested_operands hlisted fun a ha ts hts => ih a ha hts

lemma Term.Spelled.first {a : Term} {pre post : List Token} {t : Token}
    (h : a.Spelled (pre ++ t :: post)) (hpre : WellNested pre) (ht : t.kind = .identifier) :
    pre = [] := by
  generalize htokens : pre ++ t :: post = tokens at h
  cases h with
  | name _ =>
    rcases pre with _ | ⟨first, pre⟩
    · rfl
    · simp at htokens
  | @call callee opener closer operands inner hcallee hopener hcloser hlisted =>
    rcases pre with _ | ⟨first, _ | ⟨second, pre⟩⟩
    · rfl
    · obtain ⟨-, rfl, -⟩ : first = callee ∧ t = opener ∧ _ := by simpa using htokens
      simp [hopener] at ht
    · obtain ⟨rfl, rfl, hrest⟩ : first = callee ∧ second = opener ∧
          pre ++ t :: post = inner ++ [closer] := by simpa using htokens
      have hinner := wellNested_operands hlisted fun a _ ts hts => hts.wellNested
      have hprefix : pre <+: inner := by
        rcases List.prefix_concat_iff.mp ⟨t :: post, hrest⟩ with heq | hprefix
        · rw [heq] at hrest
          simp at hrest
        · exact hprefix
      have hopened : WellNested (second :: pre) :=
        WellNested.of_append (.other (identifier_not_bracket hcallee) .nil) hpre
      exact absurd hopened (not_wellNested_opener (by rw [hopener]; rfl) hinner hprefix)

/-- **A name outside of parentheses starts a term.** -/
lemma Sequence.split {terms : List Term} {pre post : List Token} {t : Token}
    (h : Sequence terms (pre ++ t :: post)) (hpre : WellNested pre) (ht : t.kind = .identifier) :
    ∃ front a back ts more, terms = front ++ a :: back ∧ post = ts ++ more ∧ Sequence front pre ∧
      a.Spelled (t :: ts) ∧ Sequence back more := by
  generalize htokens : pre ++ t :: post = tokens at h
  induction h generalizing pre with
  | nil => simp at htokens
  | @cons a rest ts more ha hrest ih =>
    rcases List.append_eq_append_iff.mp htokens with ⟨middle, rfl, hmiddle⟩ | ⟨middle, rfl, hmore⟩
    · rcases middle with _ | ⟨first, middle⟩
      · -- the name is the first token behind this term
        obtain ⟨front, b, back, us, more', rfl, rfl, hfront, hb, hback⟩ := ih .nil hmiddle
        rw [List.append_nil] at ha
        have hsequence : Sequence (a :: front) (pre ++ []) := .cons ha hfront
        rw [List.append_nil] at hsequence
        exact ⟨a :: front, b, back, us, more', rfl, rfl, hsequence, hb, hback⟩
      · obtain ⟨rfl, rfl⟩ := List.cons.inj hmiddle
        obtain rfl := ha.first hpre ht
        exact ⟨[], a, rest, middle, more, rfl, rfl, .nil, ha, hrest⟩
    · obtain ⟨front, b, back, us, more', rfl, rfl, hfront, hb, hback⟩ :=
        ih (ha.wellNested.of_append hpre) hmore.symm
      exact ⟨a :: front, b, back, us, more', rfl, rfl, .cons ha hfront, hb, hback⟩

lemma Sequence.append {first second : List Term} {ts us : List Token} (h : Sequence first ts)
    (h' : Sequence second us) : Sequence (first ++ second) (ts ++ us) := by
  induction h with
  | nil => exact h'
  | cons ha _ ih =>
    rw [List.append_assoc]
    exact .cons ha ih

lemma evaluateTerms_append {scope : Scope} {tally : Tally} {first second : List Term}
    {r : List Bound × Tally} :
    evaluateTerms scope tally (first ++ second) = .ok r ↔
      ∃ p q, evaluateTerms scope tally first = .ok p ∧ evaluateTerms scope p.2 second = .ok q ∧
        r = (p.1 ++ q.1, q.2) := by
  induction first generalizing tally r with
  | nil =>
    simp only [List.nil_append, evaluateTerms, Except.ok.injEq]
    simp
  | cons a rest ih =>
    simp only [List.cons_append, evaluateTerms, bind_eq_ok, pure_eq_ok, ih]
    constructor
    · rintro ⟨b, hb, s, ⟨p, q, hp, hq, rfl⟩, rfl⟩
      exact ⟨_, q, ⟨b, hb, p, hp, rfl⟩, hq, rfl⟩
    · rintro ⟨p, q, ⟨b, hb, p', hp', rfl⟩, hq, rfl⟩
      exact ⟨b, hb, _, ⟨p', q, hp', hq, rfl⟩, rfl⟩

/-! ### Expressions -/

/-- Tokens mean in one scope what other tokens mean in another scope, as the body of an alias and as
the expression of a property. -/
def Matches (scope scope' : Scope) (tokens tokens' : List Token) : Prop :=
  ∀ calls outcome, resolve scope calls tokens = .ok outcome → ∀ calls',
    ∃ outcome', resolve scope' calls' tokens' = .ok outcome' ∧
      Means (outcome.terms.flatMap Resolution.aliasConstraints)
        (outcome'.terms.flatMap Resolution.aliasConstraints) ∧
      (outcome.terms.flatMap Resolution.aliasConstraints).length =
        (outcome'.terms.flatMap Resolution.aliasConstraints).length ∧
      Means (outcome.terms.map Bound.toConstraint) (outcome'.terms.map Bound.toConstraint)

lemma resolve_of_terms {scope : Scope} {terms : List Term} {tokens : List Token}
    (hterms : Sequence terms tokens) {calls : Nat} {r : List Bound × Tally}
    (h : evaluateTerms scope ⟨calls, []⟩ terms = .ok r) :
    resolve scope calls tokens = .ok ⟨r.1, r.2.calls, r.2.references⟩ := by
  rw [resolve_eq hterms, bind_eq_ok]
  exact ⟨r, h, rfl⟩

lemma matches_of_refines {scope scope' : Scope} (hscope : scope.Refines scope')
    (tokens : List Token) : Matches scope scope' tokens tokens := by
  intro calls outcome h calls'
  obtain ⟨terms, r, hterms, hr, rfl⟩ := terms_of_resolve h
  obtain ⟨r', hr', hsame⟩ := evaluateTerms_same hscope hr ⟨calls', []⟩
  obtain ⟨hmeans, hlength⟩ := Bound.Same.means_flatMap hsame
  exact ⟨_, resolve_of_terms hterms hr', hmeans, hlength, Bound.Same.means_map hsame⟩

/-- One name outside of parentheses is replaced by other tokens. It is outside of them if all that
are opened before it are closed before it. -/
inductive Expands (name : String) (body : List Token) : List Token → List Token → Prop where
  | intro {pre post : List Token} {t : Token} : WellNested pre → t.kind = .identifier →
      t.text = name → Expands name body (pre ++ t :: post) (pre ++ (body ++ post))

lemma Term.eq_name {scope : Scope} {ds : List Declaration} (hscope : scope.Knows ds) {a : Term}
    {t : Token} {ts : List Token} (ha : a.Spelled (t :: ts)) {tally : Tally} {r : Bound × Tally}
    (hr : a.evaluate scope tally = .ok r)
    (hbound : (scope.bindings.lookup t.text).isSome = true) : a = .name t ∧ ts = [] := by
  cases ha with
  | name _ => exact ⟨rfl, rfl⟩
  | call _ _ _ _ =>
    simp only [Term.evaluate, bind_eq_ok, factoryOf_eq_ok] at hr
    obtain ⟨factory, hfactory, -⟩ := hr
    have hfree := Resolution.lookup_factory hscope t.text (by simp [hfactory])
    simp [hfree] at hbound

/-- **An alias may be replaced by its body**, where the body means the same as at its own place. -/
lemma matches_of_expands {scope origin : Scope} {ds : List Declaration} (hknows : scope.Knows ds)
    (hrefl : scope.Refines scope) (horigin : origin.Refines scope) {name : String}
    {body : List Token} {calls₀ : Nat} {outcome₀ : Outcome}
    (hbody : resolve origin calls₀ body = .ok outcome₀)
    (hname : scope.bindings.lookup name =
      some (.typeAlias (outcome₀.terms.flatMap Resolution.aliasConstraints)))
    {tokens tokens' : List Token} (hexpands : Expands name body tokens tokens') :
    Matches scope scope tokens tokens' := by
  intro calls outcome h calls'
  obtain ⟨terms, r, hterms, hr, rfl⟩ := terms_of_resolve h
  obtain ⟨bodyTerms, r₀, hbodyTerms, hr₀, rfl⟩ := terms_of_resolve hbody
  cases hexpands with
  | @intro pre post t hpre ht htext =>
    subst htext
    obtain ⟨front, a, back, ts, more, rfl, rfl, hfront, ha, hback⟩ := hterms.split hpre ht
    obtain ⟨p, q, hp, hq, rfl⟩ := evaluateTerms_append.mp hr
    simp only [evaluateTerms, bind_eq_ok, pure_eq_ok] at hq
    obtain ⟨b, hb, q, hq, rfl⟩ := hq
    obtain ⟨rfl, rfl⟩ := Term.eq_name hknows ha hb (by rw [hname]; rfl)
    have hbound : b.1 = .typeAlias t.text (r₀.1.flatMap Resolution.aliasConstraints) := by
      rw [Term.evaluate, boundOf, hname] at hb
      rw [← Except.ok.inj hb]
    -- the three parts are evaluated one after the other, each with the counts of the one before
    obtain ⟨p', hp', hpsame⟩ := evaluateTerms_same hrefl hp ⟨calls', []⟩
    obtain ⟨r', hr', hrsame⟩ := evaluateTerms_same horigin hr₀ p'.2
    obtain ⟨q', hq', hqsame⟩ := evaluateTerms_same hrefl hq r'.2
    have hsequence : Sequence (front ++ (bodyTerms ++ back)) (pre ++ (body ++ ([] ++ more))) :=
      hfront.append (hbodyTerms.append hback)
    have hwhole := evaluateTerms_append.mpr ⟨p', _, hp',
      evaluateTerms_append.mpr ⟨r', q', hr', hq', rfl⟩, rfl⟩
    refine ⟨_, resolve_of_terms hsequence hwhole, ?_⟩
    obtain ⟨hpmeans, hplength⟩ := Bound.Same.means_flatMap hpsame
    obtain ⟨hrmeans, hrlength⟩ := Bound.Same.means_flatMap hrsame
    obtain ⟨hqmeans, hqlength⟩ := Bound.Same.means_flatMap hqsame
    have hproperty : Means [b.1.toConstraint] (r'.1.map Bound.toConstraint) := by
      rw [hbound]
      exact (Means.toConstraint _ _).trans (hrmeans.trans (means_flatMap_map r'.1))
    rw [hbound] at hproperty
    simp only [List.flatMap_append, List.flatMap_cons, List.map_append, List.map_cons, hbound,
      Resolution.aliasConstraints, List.length_append]
    exact ⟨hpmeans.append (hrmeans.append hqmeans), by rw [hplength, hrlength, hqlength],
      (Bound.Same.means_map hpsame).append (hproperty.append (Bound.Same.means_map hqsame))⟩

end Expression

/-! ### Declarations -/

structure AliasEntry.Same (a a' : AliasEntry) : Prop where
  name : a.name = a'.name
  constraints : Means a.constraints a'.constraints

structure RecordEntry.Same (e e' : RecordEntry) : Prop where
  name : e.name = e'.name
  record : e.record.Same e'.record

namespace Resolution

/-- What has been resolved means the same and has taken the same names. -/
structure Same (r r' : Resolution) : Prop where
  config : r.config = r'.config
  aliases : List.Forall₂ AliasEntry.Same r.aliases r'.aliases
  definitions : List.Forall₂ RecordEntry.Same r.definitions r'.definitions
  models : List.Forall₂ RecordEntry.Same r.models r'.models
  bindings : List.Forall₂ (fun b b' => b.1 = b'.1 ∧ b.2.Same b'.2) r.bindings r'.bindings
  symbols : r.symbols = r'.symbols

/-- Declarations of the same names whose expressions mean the same. -/
inductive Matches (scope scope' : Scope) : Declaration → Declaration → Prop where
  | config (keyword : Token) (settings : List Setting) :
      Matches scope scope' (.config keyword settings) (.config keyword settings)
  | typeAlias (name : Token) {body body' : List Token} :
      Expression.Matches scope scope' body body' →
      Matches scope scope' (.typeAlias name body) (.typeAlias name body')
  | record (sort : RecordSort) (name : Token) {lines lines' : List PropertyLine} :
      List.Forall₂ (fun l l' => l.name = l'.name ∧
        Expression.Matches scope scope' l.expression l'.expression) lines lines' →
      Matches scope scope' (.record sort name lines) (.record sort name lines')

lemma Same.refl (r : Resolution) : r.Same r where
  config := rfl
  aliases := List.forall₂_same.mpr fun _ _ => ⟨rfl, .refl _⟩
  definitions := List.forall₂_same.mpr fun _ _ => ⟨rfl, .refl _⟩
  models := List.forall₂_same.mpr fun _ _ => ⟨rfl, .refl _⟩
  bindings := List.forall₂_same.mpr fun _ _ => ⟨rfl, .refl _⟩
  symbols := rfl

section Bindings

variable {bindings bindings' : List (String × Binding)}

lemma lookup_same
    (h : List.Forall₂ (fun b b' => b.1 = b'.1 ∧ b.2.Same b'.2) bindings bindings')
    {name : String} {b : Binding} (hl : bindings.lookup name = some b) :
    ∃ b', bindings'.lookup name = some b' ∧ b.Same b' := by
  induction h with
  | nil => simp at hl
  | @cons first first' rest rest' hfirst _ ih =>
    obtain ⟨key, value⟩ := first
    obtain ⟨key', value'⟩ := first'
    obtain ⟨rfl, hsame⟩ : key = key' ∧ value.Same value' := hfirst
    rw [List.lookup_cons] at hl ⊢
    split at hl
    · obtain rfl := Option.some.inj hl
      exact ⟨value', rfl, hsame⟩
    · exact ih hl

lemma keys_same
    (h : List.Forall₂ (fun b b' => b.1 = b'.1 ∧ b.2.Same b'.2) bindings bindings') :
    bindings.map (·.1) = bindings'.map (·.1) := by
  induction h with
  | nil => rfl
  | cons hfirst _ ih => simp [hfirst.1, ih]

lemma contains_same {registry : Registry}
    (h : List.Forall₂ (fun b b' => b.1 = b'.1 ∧ b.2.Same b'.2) bindings bindings')
    (name : String) :
    Scope.contains ⟨registry, bindings⟩ name = Scope.contains ⟨registry, bindings'⟩ name := by
  have hbound : (bindings.lookup name).isSome = (bindings'.lookup name).isSome := by
    rw [Bool.eq_iff_iff, lookup_isSome, lookup_isSome, keys_same h]
  rw [Scope.contains, Scope.contains, hbound]

end Bindings

variable {r r' r₁ : Resolution} {ds : List Declaration}

lemma Same.refines (h : r.Same r') (ht : r.Tracks ds) :
    Scope.Refines ⟨.standard, r.bindings⟩ ⟨.standard, r'.bindings⟩ where
  registry := rfl
  registry' := rfl
  bound _ _ hl := lookup_same h.bindings hl
  free name hname := by
    have hfree := lookup_registered ht.scope hname
    rwa [lookup_eq_none, keys_same h.bindings, ← lookup_eq_none] at hfree

structure Progress.Same (p p' : Progress) : Prop where
  properties : List.Forall₂ Property.Same p.properties p'.properties
  symbols : p.symbols = p'.symbols

lemma any_same {properties properties' : List Property}
    (h : List.Forall₂ Property.Same properties properties') (name : String) :
    properties.any (·.name == name) = properties'.any (·.name == name) := by
  induction h with
  | nil => rfl
  | cons hp _ ih => simp [hp.name, ih]

lemma property_same {scope scope' : Scope} {owner : String} {p p' p₁ : Progress}
    {line line' : PropertyLine} (hp : p.Same p') (hname : line.name = line'.name)
    (hmatches : Expression.Matches scope scope' line.expression line'.expression)
    (h : property scope owner p line = .ok p₁) :
    ∃ p₁', property scope' owner p' line' = .ok p₁' ∧ p₁.Same p₁' := by
  obtain ⟨hfresh, hsymbol, outcome, ho, rfl⟩ := property_eq_ok.mp h
  obtain ⟨outcome', ho', -, -, hmeans⟩ := hmatches p.calls outcome ho p'.calls
  rw [any_same hp.properties, hname] at hfresh
  rw [hp.symbols, hname] at hsymbol
  refine ⟨_, property_eq_ok.mpr ⟨hfresh, hsymbol, outcome', ho', rfl⟩, ?_, ?_⟩
  · rw [hname]
    exact List.rel_append hp.properties (.cons (hmeans.property _) .nil)
  · rw [hname, hp.symbols]

lemma properties_same {scope scope' : Scope} {owner : String} {lines lines' : List PropertyLine}
    (hlines : List.Forall₂ (fun l l' => l.name = l'.name ∧
      Expression.Matches scope scope' l.expression l'.expression) lines lines')
    {p p' p₁ : Progress} (hp : p.Same p')
    (h : lines.foldlM (property scope owner) p = .ok p₁) :
    ∃ p₁', lines'.foldlM (property scope' owner) p' = .ok p₁' ∧ p₁.Same p₁' := by
  induction hlines generalizing p p' with
  | nil =>
    rw [List.foldlM_nil, pure_eq_ok] at h
    exact ⟨p', rfl, h ▸ hp⟩
  | cons hline _ ih =>
    rw [List.foldlM_cons, bind_eq_ok] at h
    obtain ⟨q, hq, hrest⟩ := h
    obtain ⟨q', hq', hsame⟩ := property_same hp hline.1 hline.2 hq
    obtain ⟨p₁', hp₁', hsame'⟩ := ih hsame hrest
    exact ⟨p₁', by rw [List.foldlM_cons, bind_eq_ok]; exact ⟨q', hq', hp₁'⟩, hsame'⟩

/-- **One declaration** that means the same is resolved to what means the same. -/
lemma declaration_same {d d' : Declaration} (hr : r.Same r')
    (hd : Matches ⟨.standard, r.bindings⟩ ⟨.standard, r'.bindings⟩ d d')
    (h : r.declaration .standard d = .ok r₁) :
    ∃ r₁', r'.declaration .standard d' = .ok r₁' ∧ r₁.Same r₁' := by
  cases hd with
  | config keyword settings =>
    obtain ⟨config, hconfig, rfl⟩ := settings_eq_ok.mp h
    rw [hr.config] at hconfig
    exact ⟨_, settings_eq_ok.mpr ⟨config, hconfig, rfl⟩,
      ⟨rfl, hr.aliases, hr.definitions, hr.models, hr.bindings, hr.symbols⟩⟩
  | typeAlias name hbody =>
    obtain ⟨hfree, hsymbol, outcome, ho, rfl⟩ := typeAlias_eq_ok.mp h
    obtain ⟨outcome', ho', hmeans, hlength, -⟩ := hbody r.calls outcome ho r'.calls
    rw [contains_same hr.bindings] at hfree
    rw [hr.symbols] at hsymbol
    refine ⟨_, typeAlias_eq_ok.mpr ⟨hfree, hsymbol, outcome', ho', rfl⟩, hr.config, ?_,
      hr.definitions, hr.models, ?_, ?_⟩
    · exact List.rel_append hr.aliases (.cons ⟨rfl, hmeans⟩ .nil)
    · exact List.rel_append hr.bindings (.cons ⟨rfl, .typeAlias hmeans hlength⟩ .nil)
    · exact congrArg (List.cons _) hr.symbols
  | record sort name hlines =>
    obtain ⟨hfree, hsymbol, hmembers, p, hp, rfl⟩ := record_eq_ok.mp h
    rw [contains_same hr.bindings] at hfree
    rw [hr.symbols] at hsymbol hmembers
    have hstart : Progress.Same
        ⟨[], [], [], (membersSymbol name.text, name.text) ::
          ((Role.record sort).symbol name.text, name.text) :: r.symbols, r.calls⟩
        ⟨[], [], [], (membersSymbol name.text, name.text) ::
          ((Role.record sort).symbol name.text, name.text) :: r'.symbols, r'.calls⟩ :=
      ⟨.nil, by rw [hr.symbols]⟩
    obtain ⟨p', hp', hsame⟩ := properties_same hlines hstart hp
    have hrecord : (Record.mk name.text p.properties).Same ⟨name.text, p'.properties⟩ :=
      ⟨rfl, hsame.properties⟩
    have hentry (added : RecordSort) :
        List.Forall₂ RecordEntry.Same
          (if sort = added then [entry ⟨name.text, p.properties⟩] else [])
          (if sort = added then [entry ⟨name.text, p'.properties⟩] else []) := by
      split
      · exact .cons ⟨rfl, hrecord⟩ .nil
      · exact .nil
    refine ⟨_, record_eq_ok.mpr ⟨hfree, hsymbol, hmembers, p', hp', rfl⟩, hr.config, hr.aliases,
      ?_, ?_, ?_, hsame.symbols⟩
    · exact List.rel_append hr.definitions (hentry .definition)
    · exact List.rel_append hr.models (hentry .model)
    · exact List.rel_append hr.bindings (.cons ⟨rfl, .record hrecord⟩ .nil)

lemma matches_refl {scope scope' : Scope} (h : scope.Refines scope') (d : Declaration) :
    Matches scope scope' d d := by
  cases d with
  | config keyword settings => exact .config keyword settings
  | typeAlias name body => exact .typeAlias name (Expression.matches_of_refines h body)
  | record sort name lines =>
    exact .record sort name (List.forall₂_same.mpr fun line _ =>
      ⟨rfl, Expression.matches_of_refines h line.expression⟩)

/-! ### Bodies in place of names -/

lemma bindings_grow {d : Declaration} (h : r.declaration .standard d = .ok r') :
    r.bindings <+: r'.bindings := by
  cases d with
  | config keyword settings =>
    obtain ⟨config, -, rfl⟩ := settings_eq_ok.mp h
    exact List.prefix_rfl
  | typeAlias name body =>
    obtain ⟨-, -, outcome, -, rfl⟩ := typeAlias_eq_ok.mp h
    exact List.prefix_append _ _
  | record sort name lines =>
    obtain ⟨-, -, -, p, -, rfl⟩ := record_eq_ok.mp h
    exact List.prefix_append _ _

lemma lookup_grown {bindings more : List (String × Binding)} (h : bindings <+: more)
    {name : String} {b : Binding} (hl : bindings.lookup name = some b) :
    more.lookup name = some b := by
  obtain ⟨rest, rfl⟩ := h
  simp [List.lookup_append, hl]

lemma step_of_foldlM {before after : List Declaration} {d : Declaration}
    (h : (before ++ d :: after).foldlM (declaration .standard) initial = .ok r) :
    ∃ r₀ r₁, before.foldlM (declaration .standard) initial = .ok r₀ ∧
      r₀.declaration .standard d = .ok r₁ ∧ r₁.bindings <+: r.bindings := by
  rw [List.foldlM_append, bind_eq_ok] at h
  obtain ⟨r₀, h₀, h⟩ := h
  rw [List.foldlM_cons, bind_eq_ok] at h
  obtain ⟨r₁, h₁, h⟩ := h
  exact ⟨r₀, r₁, h₀, h₁, foldlM_induct (fun r' => r₁.bindings <+: r'.bindings)
    (fun _ _ _ _ hprefix hstep => hprefix.trans (bindings_grow hstep)) List.prefix_rfl h⟩

/-- An alias is bound to the constraints of its body, which means the same further on. -/
lemma exists_origin {owner : Token} {body : List Token} (h : .typeAlias owner body ∈ ds)
    (hr : ds.foldlM (declaration .standard) initial = .ok r) :
    ∃ (origin : Scope) (calls : Nat) (outcome : Expression.Outcome),
      origin.Refines ⟨.standard, r.bindings⟩ ∧
      Expression.resolve origin calls body = .ok outcome ∧
      r.bindings.lookup owner.text =
        some (.typeAlias (outcome.terms.flatMap aliasConstraints)) := by
  have hknows := (tracks_of_foldlM hr).scope
  obtain ⟨before, after, rfl⟩ := List.append_of_mem h
  obtain ⟨rA, rB, -, hB, hafter⟩ := step_of_foldlM hr
  have hbefore : rA.bindings <+: r.bindings := (bindings_grow hB).trans hafter
  obtain ⟨hfree, -, outcome, ho, rfl⟩ := typeAlias_eq_ok.mp hB
  refine ⟨_, rA.calls, outcome, ⟨rfl, rfl, ?_, ?_⟩, ho, ?_⟩
  · exact fun name b hl => ⟨b, lookup_grown hbefore hl, .refl b⟩
  · exact fun name hname => lookup_registered hknows hname
  · exact lookup_grown hafter
      ((lookup_concat_iff (lookup_of_free hfree)).mpr (.inr ⟨rfl, rfl⟩))

end Resolution

/-- In one expression of a declaration, one name outside of parentheses is replaced by other
tokens. -/
inductive Declaration.Expands (name : String) (body : List Token) :
    Declaration → Declaration → Prop where
  | typeAlias (owner : Token) {tokens tokens' : List Token} :
      Expression.Expands name body tokens tokens' →
      Expands name body (.typeAlias owner tokens) (.typeAlias owner tokens')
  | property (sort : RecordSort) (owner label : Token) (front back : List PropertyLine)
      {tokens tokens' : List Token} : Expression.Expands name body tokens tokens' →
      Expands name body (.record sort owner (front ++ ⟨label, tokens⟩ :: back))
        (.record sort owner (front ++ ⟨label, tokens'⟩ :: back))

namespace Resolution

variable {r r' : Resolution} {before after : List Declaration} {d d' : Declaration} {owner : Token}
  {body : List Token}

lemma matches_of_expands (halias : .typeAlias owner body ∈ before)
    (hd : d.Expands owner.text body d')
    (hr : before.foldlM (declaration .standard) initial = .ok r) :
    Matches ⟨.standard, r.bindings⟩ ⟨.standard, r.bindings⟩ d d' := by
  have ht := tracks_of_foldlM hr
  have hrefl := (Same.refl r).refines ht
  obtain ⟨origin, calls, outcome, horigin, hbody, hname⟩ := exists_origin halias hr
  have hmatches {tokens tokens' : List Token}
      (h : Expression.Expands owner.text body tokens tokens') :
      Expression.Matches ⟨.standard, r.bindings⟩ ⟨.standard, r.bindings⟩ tokens tokens' :=
    Expression.matches_of_expands ht.scope hrefl horigin hbody hname h
  have hsame (lines : List PropertyLine) : List.Forall₂ (fun l l' : PropertyLine =>
      l.name = l'.name ∧ Expression.Matches ⟨.standard, r.bindings⟩ ⟨.standard, r.bindings⟩
        l.expression l'.expression) lines lines :=
    List.forall₂_same.mpr fun line _ => ⟨rfl, Expression.matches_of_refines hrefl line.expression⟩
  cases hd with
  | typeAlias name htokens => exact .typeAlias name (hmatches htokens)
  | property sort name label front back htokens =>
    exact .record sort name (List.rel_append (hsame front)
      (.cons ⟨rfl, hmatches htokens⟩ (hsame back)))

/-- **All declarations** are resolved to what means the same. -/
lemma same_of_expands (halias : .typeAlias owner body ∈ before) (hd : d.Expands owner.text body d')
    (h : (before ++ d :: after).foldlM (declaration .standard) initial = .ok r) :
    ∃ r', (before ++ d' :: after).foldlM (declaration .standard) initial = .ok r' ∧
      r.Same r' := by
  induction after using List.reverseRecOn generalizing r with
  | nil =>
    obtain ⟨r₀, h₀, h₁⟩ := (foldlM_concat d).mp h
    obtain ⟨r', hr', hsame⟩ := declaration_same (.refl r₀) (matches_of_expands halias hd h₀) h₁
    exact ⟨r', (foldlM_concat d').mpr ⟨r₀, h₀, hr'⟩, hsame⟩
  | append_singleton after last ih =>
    rw [← List.cons_append, ← List.append_assoc, foldlM_concat] at h
    obtain ⟨r₀, h₀, h₁⟩ := h
    obtain ⟨r₀', h₀', hsame₀⟩ := ih h₀
    obtain ⟨r', hr', hsame⟩ := declaration_same hsame₀
      (matches_refl (hsame₀.refines (tracks_of_foldlM h₀)) last) h₁
    refine ⟨r', ?_, hsame⟩
    rw [← List.cons_append, ← List.append_assoc, foldlM_concat]
    exact ⟨r₀', h₀', hr'⟩

end Resolution

/-! ### Schemas -/

lemma map_same {α : Type} {R : α → α → Prop} {f : α → String} (hf : ∀ a a', R a a' → f a = f a')
    {as as' : List α} (h : List.Forall₂ R as as') : as.map f = as'.map f := by
  induction h with
  | nil => rfl
  | cons ha _ ih => rw [List.map_cons, List.map_cons, hf _ _ ha, ih]

lemma AliasEntry.Same.aliasType {a a' : AliasEntry} (h : a.Same a') :
    Output.aliasType a = Output.aliasType a' := by
  rw [Output.aliasType, Output.aliasType, h.name, AliasEntry.type, AliasEntry.type,
    h.constraints.type]

lemma RecordEntry.Same.interface {e e' : RecordEntry} (h : e.Same e') (declare : String) :
    Output.interface declare e = Output.interface declare e' := by
  have hproperty (p p' : Property) (hp : p.Same p') :
      Output.propertyType p = Output.propertyType p' := by
    rw [Output.propertyType, Output.propertyType, hp.name, hp.type]
  rw [Output.interface, Output.interface, h.name, map_same hproperty h.record.properties]

lemma RecordEntry.Same.guardLine {e e' : RecordEntry} (h : e.Same e') :
    Output.guardLine e = Output.guardLine e' := by
  unfold Output.guardLine
  rw [h.name]

lemma Resolution.Same.declarations {r r' : Resolution} (h : r.Same r') :
    Output.declarations r.schema = Output.declarations r'.schema := by
  have haliases := map_same (fun _ _ ha => ha.aliasType) h.aliases
  have hdefinitions := map_same (fun _ _ he => he.interface "interface") h.definitions
  have hmodels := map_same (fun _ _ he => he.interface "export interface") h.models
  have hguards := map_same (fun _ _ he => he.guardLine) h.models
  simp only [Output.declarations, Resolution.schema, h.config, haliases, hdefinitions, hmodels,
    hguards]

/-- **Aliases are transparent.** Declarations still resolve if one name of an earlier alias, outside
of parentheses, is replaced by the tokens of that alias. The file of types stays the same, and all
definitions, models and aliases give the same results, faults included. -/
theorem resolve_expanded {before after : List Declaration} {d d' : Declaration} {owner : Token}
    {body : List Token} {s : Schema} (halias : .typeAlias owner body ∈ before)
    (hd : d.Expands owner.text body d') (h : resolve (before ++ d :: after) = .ok s) :
    ∃ s', resolve (before ++ d' :: after) = .ok s' ∧
      Output.declarations s' = Output.declarations s ∧
      List.Forall₂ (fun e e' => e'.name = e.name ∧ ∀ v, e'.validate v = e.validate v)
        s.definitions s'.definitions ∧
      List.Forall₂ (fun e e' => e'.name = e.name ∧ ∀ v, e'.validate v = e.validate v)
        s.models s'.models ∧
      List.Forall₂ (fun a a' => a'.name = a.name ∧ ∀ v, a'.test v = a.test v)
        s.aliases s'.aliases := by
  obtain ⟨r, hr, rfl⟩ := exists_of_resolve h
  obtain ⟨r', hr', hsame⟩ := Resolution.same_of_expands halias hd hr
  have hentry (e e' : RecordEntry) (he : e.Same e') :
      e'.name = e.name ∧ ∀ v, e'.validate v = e.validate v :=
    ⟨he.name.symm, fun v => (he.record.evaluate (some v)).symm⟩
  refine ⟨r'.schema, bind_eq_ok.mpr ⟨r', hr', rfl⟩, hsame.declarations.symm,
    hsame.definitions.imp hentry, hsame.models.imp hentry, hsame.aliases.imp fun a a' ha => ?_⟩
  exact ⟨ha.name.symm, fun v => (ha.constraints.holdAll "value" (some v)).symm⟩

def plainName (text : String) : Token := ⟨.identifier, text, .start⟩

/-- The tokens of an alias that stands for two constraints. -/
def wideBody : List Token :=
  [plainName "string", plainName "optional", ⟨.openParen, "(", .start⟩, plainName "boolean",
   ⟨.closeParen, ")", .start⟩]

def wideSchema (expression : List Token) : List Declaration :=
  [.typeAlias (plainName "Wide") wideBody,
   .record .model (plainName "M") [⟨plainName "x", expression⟩]]

theorem resolve_expanded_wide :
    ∃ s s', resolve (wideSchema [plainName "number", plainName "Wide"]) = .ok s ∧
      resolve (wideSchema (plainName "number" :: wideBody)) = .ok s' ∧
      Output.declarations s' = Output.declarations s := by
  have hok : (resolve (wideSchema [plainName "number", plainName "Wide"])).toOption.isSome =
      true := by
    decide +kernel
  obtain ⟨s, hs⟩ := Option.isSome_iff_exists.mp hok
  have hresolve : resolve ([.typeAlias (plainName "Wide") wideBody] ++
      .record .model (plainName "M")
        ([] ++ ⟨plainName "x", [plainName "number"] ++ plainName "Wide" :: []⟩ :: []) :: []) =
      .ok s := toOption_eq_some.mp hs
  have hpre : Nesting.WellNested [plainName "number"] := .other (by decide) .nil
  obtain ⟨s', hs', hdeclarations, -⟩ := resolve_expanded (List.mem_singleton.mpr rfl)
    (.property .model _ _ [] [] (.intro hpre rfl rfl)) hresolve
  exact ⟨s, s', hresolve, by simpa [wideSchema] using hs', hdeclarations⟩

end TypeGuard
