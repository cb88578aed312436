import TypeGuard.Proofs.Layout

/-!
Declarations as they are read from a text.

Grouping asks little of the tokens between names and line ends: they may be any words, literals and
symbols, and brackets may even be closed in a later declaration. Still every declaration starts
outside of blocks, the lines of its block are well nested among themselves, and only the bodies of
aliases leave brackets open.
-/

namespace TypeGuard

namespace Canonical

open Grouping Scan

/-! ### Declarations by lines -/

/-- A line: a name and the tokens behind it. -/
abbrev Entry := Token × List Token

def line (e : Entry) : List Token := e.1 :: e.2

/-- The lines of a declaration. An alias is one line. -/
def entries : Declaration → List Entry
  | .config _ settings => settings.map fun s => (s.key, [valueToken s.value])
  | .typeAlias name body => [(name, body)]
  | .record _ _ lines => lines.map fun p => (p.name, p.expression)

/-- The tokens of an alias behind its name; the other declarations have none. -/
def bodyTokens : Declaration → List Token
  | .typeAlias _ body => body
  | _ => []

structure OnLine (t : Token) : Prop where
  proper : Proper true t
  newline : t.kind ≠ .newline
  brace : t.kind ≠ .openBrace ∧ t.kind ≠ .closeBrace
  layout : t.kind.isLayout = false

structure ReadableBlock (es : List Entry) : Prop where
  name : ∀ e ∈ es, OnLine e.1
  value : ∀ e ∈ es, e.2 ≠ [] ∧ ∀ t ∈ e.2, OnLine t
  nested : Nesting.WellNested (es.flatMap line)

/-- The body of an alias. It may have braces in it, but ends outside of a block. -/
structure ReadableBody (body : List Token) : Prop where
  ne_nil : body ≠ []
  proceeds : Proceeds false body false
  solid : ∀ t ∈ body, t.kind.isLayout = false ∧ t.kind ≠ .newline

def Readable : Declaration → Prop
  | .config keyword settings =>
    ReadableBlock (entries (.config keyword settings)) ∧
      ∀ s ∈ settings, valueKind (valueToken s.value) = s.value.kind
  | .typeAlias name body => IsName false name ∧ ReadableBody body
  | .record sort name lines =>
    IsName false name ∧ ReadableBlock (entries (.record sort name lines)) ∧
      ∀ p ∈ lines, p.name.kind = .identifier

/-! ### Inside and outside of blocks -/

lemma wordKind_inBlock (word : List Char) :
    wordKind true word = .boolean ∨ wordKind true word = .identifier := by
  have hkind : wordKind true word =
      if word = "true".toList || word = "false".toList then .boolean else .identifier := rfl
  rw [hkind]
  split
  · exact .inl rfl
  · exact .inr rfl

lemma eq_false_of_keyword {inBlock : Bool} {t : Token} (h : Proper inBlock t) {w : Keyword}
    (hk : t.kind = .keyword w) : inBlock = false := by
  cases inBlock with
  | false => rfl
  | true =>
    have hword := h.word (by rw [hk]; rfl)
    rcases wordKind_inBlock t.text.toList with hkind | hkind <;> simp [hk, hkind] at hword

lemma withinAll_of_wellNested {ts : List Token} (h : Nesting.WellNested ts) :
    withinAll false ts = false := by
  induction h with
  | nil => rfl
  | @other t rest ht _ ih =>
    have hbrace : t.kind ≠ .openBrace ∧ t.kind ≠ .closeBrace := by
      constructor <;> (intro hk; rw [hk] at ht; exact ht (by decide))
    rw [withinAll, List.foldl_cons, within_of_ne hbrace]
    exact ih
  | @pair opener closer inner rest hpair _ _ ihi ihr =>
    rw [← List.cons_append, withinAll_append]
    generalize ho : opener.kind = o at hpair
    generalize hc : closer.kind = c at hpair
    -- behind a closing brace a block is left, whatever stands before it
    cases hpair with
    | brace => simpa [withinAll, hc, within] using ihr
    | paren =>
      have hinner : withinAll false (opener :: inner) = false := by
        simpa [withinAll, ho, within] using ihi
      rw [hinner]
      simpa [withinAll, hc, within] using ihr

/-! ### Lines and blocks -/

lemma mem_of_lines {body : List Token} {ls : List (List Token)} (h : Lines body ls) :
    ∀ line ∈ ls, ∀ t ∈ line, t ∈ body ∧ t.kind ≠ .newline := by
  induction h with
  | nil => simp
  | newline _ _ ih =>
    intro line hline t ht
    obtain ⟨hmem, hkind⟩ := ih line hline t ht
    exact ⟨by simp [hmem], hkind⟩
  | last _ hl =>
    intro line hline t ht
    obtain rfl := List.mem_singleton.mp hline
    exact ⟨ht, hl t ht⟩
  | line _ hl _ _ ih =>
    intro line hline t ht
    rcases List.mem_cons.mp hline with rfl | hline
    · exact ⟨by simp [ht], hl t ht⟩
    · obtain ⟨hmem, hkind⟩ := ih line hline t ht
      exact ⟨by simp [hmem], hkind⟩

lemma flatten_lines {body : List Token} {ls : List (List Token)} (h : Lines body ls) :
    ls.flatten = body.filter fun t => t.kind ≠ .newline := by
  have hkept {line : List Token} (hl : ∀ t ∈ line, t.kind ≠ .newline) :
      (line.filter fun t => t.kind ≠ .newline) = line := by
    simpa [List.filter_eq_self] using hl
  induction h with
  | nil => rfl
  | newline ht _ ih => rw [List.filter_cons_of_neg (by simpa using ht), ih]
  | last _ hl => rw [hkept hl, List.flatten_singleton]
  | line _ hl ht _ ih =>
    rw [List.filter_append, hkept hl, List.filter_cons_of_neg (by simpa using ht),
      List.flatten_cons, ih]

lemma wellNested_lines {body : List Token} {ls : List (List Token)} (h : Lines body ls) :
    Nesting.WellNested ls.flatten ↔ Nesting.WellNested body := by
  have hnewline : ∀ t ∈ body, decide (t.kind ≠ .newline) = false → t.kind ∉ Nesting.brackets := by
    intro t _ hkind
    have heq : t.kind = .newline := by simpa using hkind
    rw [heq]
    decide
  rw [flatten_lines h, Nesting.wellNested_iff, Nesting.run_filter hnewline, Nesting.wellNested_iff]

lemma onLine_of_block {tokens : List Token} {ls : List (List Token)} (h : Block tokens ls)
    (hproper : AllProper false tokens) (hlayout : ∀ t ∈ tokens, t.kind.isLayout = false) :
    ∀ line ∈ ls, ∀ t ∈ line, OnLine t := by
  obtain ⟨hgap, hopener, hbody, hlines, hcloser⟩ := h
  intro line hline t ht
  obtain ⟨hmem, hnewline⟩ := mem_of_lines hlines line hline t ht
  have hinner := (allProper_append.mp hproper).2.2
  rw [hopener] at hinner
  have hinside := (allProper_of_forall hbody).mp (allProper_append.mp hinner).1
  exact ⟨hinside t hmem, hnewline, hbody t hmem, hlayout t (by simp [hmem])⟩

lemma nested_of_block {tokens opened left : List Token} {ls : List (List Token)}
    (h : Block tokens ls) (hrun : Nesting.run opened tokens = .ok left) :
    Nesting.WellNested ls.flatten ∧ left = opened := by
  obtain @⟨gap, body, opener, closer, _, hgap, hopener, hbody, hlines, hcloser⟩ := h
  have hgap' : Nesting.WellNested gap := Nesting.wellNested_of_forall fun t ht => by
    rw [hgap t ht]
    decide
  rw [Nesting.run_wellNested hgap'] at hrun
  have hbody' := Nesting.wellNested_of_braces hopener hcloser hbody hrun
  constructor
  · exact (wellNested_lines hlines).mpr hbody'
  · have hpair : Nesting.Pair opener.kind closer.kind := by
      rw [hopener, hcloser]
      exact .brace
    have hblock : Nesting.WellNested (opener :: (body ++ [closer])) := .pair hpair hbody' .nil
    have hleft := Nesting.run_wellNested hblock opened []
    rw [List.append_nil, hrun] at hleft
    exact Except.ok.inj hleft

/-! ### Declarations -/

def IsEntry (tokens : List Token) (e : Entry) : Prop := tokens = line e ∧ e.2 ≠ []

lemma readableBlock_of_lines {ls : List (List Token)} {es : List Entry}
    (h : List.Forall₂ IsEntry ls es) (honLine : ∀ line ∈ ls, ∀ t ∈ line, OnLine t)
    (hnested : Nesting.WellNested ls.flatten) : ReadableBlock es := by
  have hflatten : ls.flatten = es.flatMap line := by
    clear honLine hnested
    induction h with
    | nil => rfl
    | cons he _ ih => rw [List.flatten_cons, List.flatMap_cons, ih, he.1]
  have hline : ∀ e ∈ es, (∀ t ∈ line e, OnLine t) ∧ e.2 ≠ [] := by
    intro e he
    obtain ⟨_, hmem, rfl, hne⟩ := Places.exists_left_of_mem h he
    exact ⟨honLine _ hmem, hne⟩
  refine ⟨fun e he => ?_, fun e he => ?_, hflatten ▸ hnested⟩
  · exact (hline e he).1 e.1 (by simp [line])
  · exact ⟨(hline e he).2, (List.forall_mem_cons.mp (hline e he).1).2⟩

lemma settingEntry {line : List Token} {s : Setting} (h : SettingLine line s)
    (honLine : ∀ t ∈ line, OnLine t) :
    IsEntry line (s.key, [valueToken s.value]) ∧
      valueKind (valueToken s.value) = s.value.kind := by
  obtain ⟨key, value⟩ := h
  have htoken : valueToken { value with kind := valueKind value } = value :=
    valueToken_eq (honLine value (by simp)).proper
  simp [IsEntry, line, htoken]

/-- **A declaration is read from its tokens**: it starts and ends outside of blocks, and only the
body of an alias leaves brackets open. -/
lemma readable_of_spells {d : Declaration} {front : List Token} (h : Spells d front)
    {inBlock : Bool} (hproper : AllProper inBlock front)
    (hlayout : ∀ t ∈ front, t.kind.isLayout = false) (hwithin : withinAll inBlock front = false)
    {opened left : List Token} (hrun : Nesting.run opened front = .ok left) :
    Readable d ∧ Nesting.run opened (bodyTokens d) = .ok left := by
  have hskip {t : Token} (rest : List Token) (ht : t.kind ∉ Nesting.brackets) :
      Nesting.run opened (t :: rest) = Nesting.run opened rest :=
    Nesting.run_cons_of_step rest (Nesting.step_other opened ht)
  have hreserved {t : Token} {w : Keyword} (hk : t.kind = .keyword w) :
      t.kind ∉ Nesting.brackets := by
    rw [hk]
    cases w <;> decide
  have hname {t : Token} (hn : t.kind = .identifier) : t.kind ∉ Nesting.brackets := by
    rw [hn]
    decide
  cases h with
  | @config keyword block ls settings hk hb hs =>
    obtain rfl := eq_false_of_keyword hproper.1 hk
    have hblock : AllProper false block := by simpa [hk, within] using hproper.2
    have honLine := onLine_of_block hb hblock (List.forall_mem_cons.mp hlayout).2
    rw [hskip _ (hreserved hk)] at hrun
    obtain ⟨hnested, rfl⟩ := nested_of_block hb hrun
    refine ⟨⟨readableBlock_of_lines ?_ honLine hnested, fun s hs' => ?_⟩, rfl⟩
    · rw [entries, List.forall₂_map_right_iff]
      exact Places.forall₂_of_mem hs fun line hline s hset =>
        (settingEntry hset (honLine line hline)).1
    · obtain ⟨line, hline, hset⟩ := Places.exists_left_of_mem hs hs'
      exact (settingEntry hset (honLine line hline)).2
  | @typeAlias keyword name body hk hn hne hbody =>
    obtain rfl := eq_false_of_keyword hproper.1 hk
    obtain ⟨-, hproperName, hproperBody⟩ := hproper
    have hinside : within (within false keyword.kind) name.kind = false := by simp [hk, hn, within]
    rw [hinside] at hproperBody
    rw [hk] at hproperName
    rw [hskip _ (hreserved hk), hskip _ (hname hn)] at hrun
    have hsolid : ∀ t ∈ body, t.kind.isLayout = false ∧ t.kind ≠ .newline := fun t ht =>
      ⟨hlayout t (by simp [ht]), hbody t ht⟩
    have houtside : withinAll false body = false := by
      simpa [withinAll, hinside] using hwithin
    exact ⟨⟨⟨hn, hproperName⟩, hne, ⟨hproperBody, houtside⟩, hsolid⟩, hrun⟩
  | @record sort keyword name block ls properties hk hn hb hp =>
    obtain rfl := eq_false_of_keyword hproper.1 hk
    obtain ⟨-, hproperName, hproperBlock⟩ := hproper
    have hinside : within (within false keyword.kind) name.kind = false := by simp [hk, hn, within]
    rw [hinside] at hproperBlock
    rw [hk] at hproperName
    have honLine := onLine_of_block hb hproperBlock fun t ht => hlayout t (by simp [ht])
    rw [hskip _ (hreserved hk), hskip _ (hname hn)] at hrun
    obtain ⟨hnested, rfl⟩ := nested_of_block hb hrun
    refine ⟨⟨⟨hn, hproperName⟩, readableBlock_of_lines ?_ honLine hnested, fun p hp' => ?_⟩, rfl⟩
    · rw [entries, List.forall₂_map_right_iff]
      exact hp.imp fun line p hfield => by
        obtain ⟨-, hne⟩ := hfield
        exact ⟨rfl, hne⟩
    · obtain ⟨line, -, hfield⟩ := Places.exists_left_of_mem hp hp'
      obtain ⟨hkind, -⟩ := hfield
      exact hkind

lemma eq_false_of_declares {tokens : List Token} {ds : List Declaration} (h : Declares tokens ds)
    {inBlock : Bool} (hproper : AllProper inBlock tokens)
    (hwithin : withinAll inBlock tokens = false) : inBlock = false := by
  induction h with
  | nil => exact hwithin
  | newline ht _ ih =>
    rw [AllProper, ht] at hproper
    rw [withinAll, List.foldl_cons, ht] at hwithin
    exact ih hproper.2 hwithin
  | declaration hs _ _ _ =>
    cases hs with
    | config hk _ _ | typeAlias hk _ _ _ | record hk _ _ _ =>
      exact eq_false_of_keyword hproper.1 hk

lemma readable_of_declares {tokens : List Token} {ds : List Declaration}
    (h : Declares tokens ds) {inBlock : Bool} (hproper : AllProper inBlock tokens)
    (hlayout : ∀ t ∈ tokens, t.kind.isLayout = false)
    (hwithin : withinAll inBlock tokens = false) {opened : List Token}
    (hrun : Nesting.run opened tokens = .ok []) :
    (∀ d ∈ ds, Readable d) ∧ Nesting.run opened (ds.flatMap bodyTokens) = .ok [] := by
  induction h generalizing inBlock opened with
  | nil => exact ⟨by simp, hrun⟩
  | @newline t rest ds ht _ ih =>
    rw [AllProper, ht] at hproper
    rw [withinAll, List.foldl_cons, ht] at hwithin
    have hbracket : t.kind ∉ Nesting.brackets := by
      rw [ht]
      decide
    rw [Nesting.run_cons_of_step rest (Nesting.step_other opened hbracket)] at hrun
    exact ih hproper.2 (List.forall_mem_cons.mp hlayout).2 hwithin hrun
  | @declaration d front tail ds hs _ htail ih =>
    obtain ⟨hfront, hrest⟩ := allProper_append.mp hproper
    obtain ⟨hlayoutFront, hlayoutTail⟩ := List.forall_mem_append.mp hlayout
    rw [withinAll_append] at hwithin
    have hend := eq_false_of_declares htail hrest hwithin
    rw [Nesting.run_append] at hrun
    split at hrun
    · simp at hrun
    · next left hleft =>
      obtain ⟨hd, hbody⟩ := readable_of_spells hs hfront hlayoutFront hend hleft
      obtain ⟨hds, hbodies⟩ := ih hrest hlayoutTail hwithin hrun
      refine ⟨List.forall_mem_cons.mpr ⟨hd, hds⟩, ?_⟩
      rw [List.flatMap_cons, Nesting.run_append, hbody]
      exact hbodies

/-- **What is grouped from a text is readable**, and the brackets of its aliases are well nested. -/
lemma readable_of_group {source : String} {ts : List Token} {ds : List Declaration}
    (hts : tokenize source = .ok ts) (hds : group ts = .ok ds) :
    (∀ d ∈ ds, Readable d) ∧ Nesting.WellNested (ds.flatMap bodyTokens) := by
  obtain ⟨hcheck, hgroup⟩ := group_eq_ok.mp hds
  have hlayout : ∀ t ∈ ts.filter (!·.kind.isLayout), t.kind.isLayout = false := fun t ht => by
    simpa using (List.mem_filter.mp ht).2
  have hproper : AllProper false (ts.filter (!·.kind.isLayout)) :=
    allProper_of_accepts (tokensFrom_eq_ok_iff.mp hts).1
  have hrun : Nesting.run [] (ts.filter (!·.kind.isLayout)) = .ok [] := by
    rw [Nesting.run_filter_layout]
    exact Nesting.wellNested_iff.mp (Nesting.check_eq_ok_iff.mp hcheck)
  have hwithin := withinAll_of_wellNested (Nesting.wellNested_iff.mpr hrun)
  obtain ⟨hreadable, hbodies⟩ :=
    readable_of_declares (declares_of_eq_ok hgroup) hproper hlayout hwithin hrun
  exact ⟨hreadable, Nesting.wellNested_iff.mpr hbodies⟩

end Canonical

end TypeGuard
