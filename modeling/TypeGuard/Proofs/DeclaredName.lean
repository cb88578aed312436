import TypeGuard.Output.Validation
import TypeGuard.Proofs.Emission
import TypeGuard.Proofs.Printable
import TypeGuard.Proofs.WellFormed

/-!
The statements of the file of checks and the names that they declare.

A statement declares the name behind its opening words. Apart from patterns, that is a helper or one
of the names that were reserved for the declarations. A pattern is named by a number, and no other
name looks like that, since names do not start with a digit.
-/

namespace TypeGuard

open Outcome Text

/-! ### The statements at the top level -/

namespace Output

def helpers : List String :=
  ["const wrap = (e) => \x7b\n    if (e instanceof Error) throw e;\n\n    return e;\n\x7d;",
   "const field = (v, k) =>\n    v !== null && typeof v === \"object\" && !Array.isArray(v)"
    ++ " && Object.hasOwn(v, k) ? v[k] : undefined;"]

/-- The statements at the top level of the file of checks. -/
def topLevel (s : Schema) : List String :=
  helpers ++ globals s ++ s.aliases.map aliasLine
    ++ s.definitions.map (recordLine "var" .definition)
    ++ s.models.map (recordLine "export var" .model)

/-- The file is made up of its statements, with comments between them. -/
lemma validation_eq (s : Schema) :
    validation s = file
      [banner, configComment s.config, String.intercalate "\n" helpers,
       titled "globals" (globals s),
       titled "aliases" (s.aliases.map aliasLine),
       titled "definitions" (s.definitions.map (recordLine "var" .definition)),
       titled "models" (s.models.map (recordLine "export var" .model))] := by
  have hhelpers : runtimeHelpers = String.intercalate "\n" helpers := by decide +kernel
  rw [← hhelpers]
  rfl

/-- The words that open a declaration. -/
def openings : List String := ["const ", "var ", "export var "]

def declaredName (statement : String) : String :=
  match openings.find? (·.toList.isPrefixOf statement.toList) with
  | some opening =>
    String.ofList ((statement.toList.drop opening.length).takeWhile (· ≠ ' '))
  | none => ""

/-- A statement declares the name that stands between its opening words and a blank. -/
lemma declaredName_eq {opening name statement : String} (hopening : opening ∈ openings)
    (hname : IsSymbol name) (h : (opening ++ name ++ " ").toList <+: statement.toList) :
    declaredName statement = name := by
  obtain ⟨rest, hrest⟩ := h
  have hsplit : statement.toList = opening.toList ++ (name.toList ++ ' ' :: rest) := by
    simpa using hrest.symm
  have hfind : openings.find? (·.toList.isPrefixOf statement.toList) = some opening := by
    rw [hsplit]
    simp only [openings, List.mem_cons, List.not_mem_nil, or_false] at hopening
    rcases hopening with rfl | rfl | rfl <;> rfl
  have htake : (name.toList ++ ' ' :: rest).takeWhile (· ≠ ' ') = name.toList := by
    rw [List.takeWhile_append_of_pos]
    · simp
    · intro c hc
      have hne : c ≠ ' ' := fun heq => hname.not_mem (by decide) (heq ▸ hc)
      simpa using hne
  rw [declaredName, hfind, hsplit]
  simp only [← String.length_toList, List.drop_left]
  rw [htake, String.ofList_toList]

end Output

/-! ### The names of statements -/

open Output

/-- The name of a pattern, by the number of its call. -/
def patternName (k : Nat) : String := "pattern$" ++ toString k

lemma isSymbol_patternName (k : Nat) : IsSymbol (patternName k) := by
  rw [patternName, isSymbol_append]
  exact ⟨isSymbol_ofList (by decide), isSymbol_nat k⟩

lemma isSymbol_role (role : Role) {name : String} (h : IsName name) :
    IsSymbol (role.symbol name) := by
  have hname := h.isSymbol
  have hword : ∀ word : String, IsSymbol word → IsSymbol (word ++ name) := fun word hw =>
    isSymbol_append.mpr ⟨hw, hname⟩
  cases role with
  | typeAlias => exact hword _ (isSymbol_ofList (by decide))
  | record sort =>
    cases sort with
    | definition => exact hword _ (isSymbol_ofList (by decide))
    | model =>
      rw [Role.symbol]
      split
      · exact hword _ (isSymbol_ofList (by decide))
      · exact hword _ (isSymbol_ofList (by decide))

lemma isSymbol_members {owner : String} (h : IsName owner) :
    IsSymbol (Resolution.membersSymbol owner) :=
  isSymbol_append.mpr ⟨isSymbol_ofList (by decide), h.isSymbol⟩

lemma isSymbol_property {owner property : String} (ho : IsName owner) (hp : IsName property) :
    IsSymbol (Resolution.propertySymbol owner property) := by
  simp only [Resolution.propertySymbol, isSymbol_append, ho.isSymbol, hp.isSymbol, and_true,
    true_and]
  exact isSymbol_ofList (by decide)

lemma declaredName_property {symbol : String} (h : IsSymbol symbol) (cs : List Constraint) :
    declaredName (Resolution.propertyStatement symbol cs) = symbol :=
  declaredName_eq (by decide : "const " ∈ openings) h (by simp [Resolution.propertyStatement])

lemma declaredName_members {owner : String} (h : IsName owner) (ps : List Property) :
    declaredName (Resolution.membersStatement owner ps) = Resolution.membersSymbol owner :=
  declaredName_eq (by decide : "const " ∈ openings) (isSymbol_members h)
    (by simp [Resolution.membersStatement])

lemma declaredName_alias {a : AliasEntry} (h : IsName a.name) :
    declaredName (aliasLine a) = Role.typeAlias.symbol a.name :=
  declaredName_eq (by decide : "var " ∈ openings) (isSymbol_role _ h) (by simp [aliasLine])

lemma declaredName_record {declare : String} (hdeclare : declare ++ " " ∈ openings)
    (sort : RecordSort) {e : RecordEntry} (h : IsName e.name) :
    declaredName (recordLine declare sort e) = (Role.record sort).symbol e.name :=
  declaredName_eq hdeclare (isSymbol_role _ h) (by simp [recordLine])

lemma map_declaredName_aliases {es : List AliasEntry} (h : ∀ a ∈ es, IsName a.name) :
    (es.map aliasLine).map declaredName = es.map fun a => Role.typeAlias.symbol a.name := by
  rw [List.map_map]
  refine List.map_congr_left fun a ha => ?_
  rw [Function.comp_apply, declaredName_alias (h a ha)]

lemma map_declaredName_records {declare : String} (hdeclare : declare ++ " " ∈ openings)
    (sort : RecordSort) {es : List RecordEntry} (h : ∀ e ∈ es, IsName e.name) :
    (es.map (recordLine declare sort)).map declaredName =
      es.map fun e => (Role.record sort).symbol e.name := by
  rw [List.map_map]
  refine List.map_congr_left fun e he => ?_
  rw [Function.comp_apply, declaredName_record hdeclare sort (h e he)]

/-- Filling in a name does not reach the name of a pattern. -/
lemma fill_pattern (name : String) (call : Call) (source flags : String) :
    (fill name (Factory.patternStatement call source flags)).toList =
      ("const " ++ patternName call.id ++ " = new RegExp(").toList ++
        (fill name
          (quoted source ++ ", " ++ quoted (Factory.emittedFlags flags) ++ ");")).toList := by
  have hhead : '\x7b' ∉ ("const " ++ patternName call.id ++ " = new RegExp(").toList := by
    have hname : '\x7b' ∉ (patternName call.id).toList :=
      (isSymbol_patternName call.id).not_mem (by decide)
    simpa using hname
  have htext : (Factory.patternStatement call source flags).toList =
      ("const " ++ patternName call.id ++ " = new RegExp(").toList ++
        (quoted source ++ ", " ++ quoted (Factory.emittedFlags flags) ++ ");").toList := by
    simp [Factory.patternStatement, Factory.patternSymbol, patternName]
  have htarget : placeholder.toList = '\x7b' :: "\x7b name \x7d\x7d".toList := by decide
  rw [fill, fill, substitute, substitute, String.toList_ofList, String.toList_ofList, htext,
    htarget, substituteFrom_append hhead]

lemma declaredName_pattern (name : String) (call : Call) (source flags : String) :
    declaredName (fill name (Factory.patternStatement call source flags)) =
      patternName call.id := by
  refine declaredName_eq (by decide : "const " ∈ openings) (isSymbol_patternName call.id) ?_
  rw [fill_pattern]
  simp

/-! ### Names that patterns cannot have -/

/-- A declaration whose names are spelled as names. -/
def Declaration.Named : Declaration → Prop
  | .config _ _ => True
  | .typeAlias name _ => IsName name.text
  | .record _ name lines => IsName name.text ∧ ∀ p ∈ lines, IsName p.name.text

lemma named_of_printable {d : Declaration} (h : Canonical.Printable d) : d.Named := by
  have hname {inBlock : Bool} {t : Token} (ht : Canonical.IsName inBlock t) : IsName t.text := by
    have hspelling := ht.proper.spelling
    rwa [ht.kind] at hspelling
  cases d with
  | config keyword settings => trivial
  | typeAlias name body => exact hname h.1
  | record sort name lines => exact ⟨hname h.1, fun p hp => hname (h.2 p hp).1⟩

/-- The one mark in a text tells where it is divided. -/
lemma append_cons_inj {mark : Char} {front back front' back' : List Char}
    (h : front ++ mark :: back = front' ++ mark :: back') (hfront : mark ∉ front')
    (hback : mark ∉ back') : front = front' ∧ back = back' := by
  induction front generalizing front' with
  | nil =>
    cases front' with
    | nil => simpa using h
    | cons c rest =>
      obtain ⟨rfl, -⟩ := List.cons.inj h
      simp at hfront
  | cons c rest ih =>
    cases front' with
    | nil =>
      obtain ⟨-, rfl⟩ := List.cons.inj h
      simp at hback
    | cons d rest' =>
      obtain ⟨rfl, htail⟩ := List.cons.inj h
      obtain ⟨rfl, rfl⟩ := ih htail fun hmem => hfront (List.mem_cons_of_mem _ hmem)
      exact ⟨rfl, rfl⟩

/-- **A pattern is not named like a property**: its number would have to be a property. -/
lemma patternName_ne_property {owner property : String} (h : IsName property) (k : Nat) :
    patternName k ≠ Resolution.propertySymbol owner property := by
  intro heq
  have hlist : owner.toList ++ '$' :: property.toList =
      "pattern".toList ++ '$' :: Nat.toDigits 10 k := by
    have htoList := congrArg String.toList heq
    simpa [patternName, Resolution.propertySymbol, Nat.repr_eq_ofList_toDigits] using htoList.symm
  have hdigits : ∀ c ∈ Nat.toDigits 10 k, c.isDigit = true := fun c hc =>
    Nat.isDigit_of_mem_toDigits (by decide) (by decide) hc
  have hdollar : '$' ∉ Nat.toDigits 10 k := fun hmem => absurd (hdigits '$' hmem) (by decide)
  obtain ⟨-, hproperty⟩ := append_cons_inj hlist (by decide) hdollar
  obtain ⟨first, rest, hname, hfirst, -⟩ := h
  rw [hname] at hproperty
  have hdigit : first.isDigit = true := hdigits first (by simp [← hproperty])
  have hstart := Lexeme.isNameStart_digit hdigit
  simp [hfirst] at hstart

lemma patternName_ne_of_head {name : String} {c : Char} (h : name.toList.head? = some c)
    (hc : c ≠ 'p') (k : Nat) : patternName k ≠ name := by
  intro heq
  have hhead : (patternName k).toList.head? = some 'p' := by simp [patternName]
  rw [heq, h] at hhead
  exact hc (Option.some.inj hhead)

lemma patternName_ne_role (role : Role) (name : String) (k : Nat) :
    patternName k ≠ role.symbol name := by
  refine patternName_ne_of_head (role.head?_symbol name) ?_ k
  rcases role with _ | (_ | _) <;> decide

lemma patternName_ne_members (owner : String) (k : Nat) :
    patternName k ≠ Resolution.membersSymbol owner :=
  patternName_ne_of_head (c := 'm') (by simp [Resolution.membersSymbol]) (by decide) k

lemma patternName_not_mem {ds : List Declaration} (h : ∀ d ∈ ds, d.Named) (k : Nat) :
    patternName k ∉ generatedNames ds := by
  intro hmem
  obtain ⟨d, hd, hmem⟩ := List.mem_flatMap.mp hmem
  have hnamed := h d hd
  cases d with
  | config keyword settings => simp at hmem
  | typeAlias name body =>
    obtain heq := List.mem_singleton.mp hmem
    exact patternName_ne_role _ _ k heq
  | record sort name lines =>
    simp only [Declaration.generatedNames, List.mem_cons, List.mem_map] at hmem
    rcases hmem with heq | heq | ⟨p, hp, heq⟩
    · exact patternName_ne_role _ _ k heq
    · exact patternName_ne_members _ k heq
    · exact patternName_ne_property (hnamed.2 p hp) k heq.symm

/-- A generated name has a dollar sign in it, or is the name of a model. -/
lemma not_mem_generatedNames {name : String} (hdollar : '$' ∉ name.toList)
    (hhead : name.toList.head? ≠ some 'i') (ds : List Declaration) : name ∉ generatedNames ds := by
  have hne : ∀ symbol : String, '$' ∈ symbol.toList → name ≠ symbol := by
    rintro symbol hsymbol rfl
    exact hdollar hsymbol
  intro hmem
  obtain ⟨d, -, hmem⟩ := List.mem_flatMap.mp hmem
  cases d with
  | config keyword settings => simp at hmem
  | typeAlias owner body =>
    exact hne _ (by simp [Role.symbol]) (List.mem_singleton.mp hmem)
  | record sort owner lines =>
    simp only [Declaration.generatedNames, List.mem_cons, List.mem_map] at hmem
    rcases hmem with heq | heq | ⟨p, -, heq⟩
    · cases sort with
      | definition => exact hne _ (by simp [Role.symbol]) heq
      | model => exact hhead (heq ▸ Role.head?_symbol _ _)
    · exact hne _ (by simp [Resolution.membersSymbol]) heq
    · exact hne _ (by simp [Resolution.propertySymbol]) heq.symm

/-! ### Statements on lines of their own -/

/-- A statement on one line that declares a name. -/
structure IsLine (statement : String) : Prop where
  oneLine : OneLine statement
  named : declaredName statement ≠ ""

lemma IsLine.isEmpty {statement : String} (h : IsLine statement) : statement.isEmpty = false := by
  rw [Bool.eq_false_iff, ne_eq, String.isEmpty_iff]
  rintro rfl
  exact h.named (by decide)

lemma ne_empty_of_head {name : String} {c : Char} (h : name.toList.head? = some c) : name ≠ "" := by
  rintro rfl
  simp at h

lemma oneLine_pattern (call : Call) (source flags : String) :
    OneLine (Factory.patternStatement call source flags) := by
  have hsymbol : OneLine (Factory.patternSymbol call) := (isSymbol_patternName call.id).oneLine
  unfold Factory.patternStatement
  simp only [oneLine_append, hsymbol, oneLine_quoted, and_true]
  and_intros <;> decide

structure IsPatternLine (statement : String) : Prop where
  line : IsLine statement
  pattern : ∃ k, declaredName statement = patternName k

lemma Constraint.Neat.statement {c : Constraint} (h : c.Neat) {name : String}
    (hname : OneLine name) {statement : String} (hmem : statement ∈ c.statements name) :
    IsPatternLine statement := by
  rw [Constraint.statements_eq] at hmem
  obtain ⟨template, htemplate, rfl⟩ := List.mem_map.mp hmem
  obtain ⟨call, source, flags, rfl⟩ := h.isPattern template htemplate
  have hdeclared := declaredName_pattern name call source flags
  refine ⟨⟨oneLine_fill hname (oneLine_pattern call source flags), ?_⟩, call.id, hdeclared⟩
  rw [hdeclared]
  exact ne_empty_of_head (c := 'p') (by simp [patternName])

lemma propertyStatement_isLine {owner property : String} (ho : IsName owner)
    (hp : IsName property) {cs : List Constraint} (h : ∀ c ∈ cs, c.Neat) :
    IsLine (Resolution.propertyStatement (Resolution.propertySymbol owner property) cs) := by
  have hsymbol := isSymbol_property ho hp
  constructor
  · have hcodes := oneLine_intercalate (by decide : OneLine ", ")
      (List.forall_mem_map.mpr fun c hc => (h c hc).oneLine hsymbol.oneLine)
    unfold Resolution.propertyStatement
    simp only [oneLine_append, hsymbol.oneLine, hcodes, and_true]
    and_intros <;> decide
  · rw [declaredName_property hsymbol]
    intro hempty
    have hlist := congrArg String.toList hempty
    simp [Resolution.propertySymbol] at hlist

lemma membersStatement_isLine {owner : String} (ho : IsName owner) {ps : List Property}
    (h : ∀ p ∈ ps, IsName p.name) : IsLine (Resolution.membersStatement owner ps) := by
  constructor
  · have hcode : ∀ p ∈ ps, OneLine (Resolution.memberCode owner p.name) := by
      intro p hp
      have hsymbol := (isSymbol_property ho (h p hp)).oneLine
      unfold Resolution.memberCode
      simp only [oneLine_append, hsymbol, oneLine_quoted, and_true]
      and_intros <;> decide
    have hcodes := oneLine_intercalate (by decide : OneLine ", ")
      (List.forall_mem_map.mpr hcode)
    unfold Resolution.membersStatement
    simp only [oneLine_append, (isSymbol_members ho).oneLine, hcodes, and_true]
    and_intros <;> decide
  · rw [declaredName_members ho]
    exact ne_empty_of_head (c := 'm') (by simp [Resolution.membersSymbol])

end TypeGuard
