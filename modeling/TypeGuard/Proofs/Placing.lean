import Mathlib.Data.List.Chain
import TypeGuard.Proofs.Places
import TypeGuard.Proofs.Scan

/-!
Token lists without regard to places.

Whether tokens can come from a text depends on their kinds and words only; the places follow. So a
list of tokens at any places is, at the right ones, the token list of the text that it spells.
-/

namespace TypeGuard

namespace Kind

def Beside (previous next : Kind) : Prop := mayFollow (some previous) next = true

instance : DecidableRel Beside := fun _ _ => inferInstanceAs (Decidable (_ = true))

/-- Kinds of tokens that are told apart where they stand next to each other: no character that
starts a token of the second kind would go on with one of the first. -/
def Apart (previous next : Kind) : Prop :=
  ∀ c, Lexeme.kindOf? c = some next.family → previous.continues c = false

lemma Beside.apart {previous next : Kind} (h : previous.Beside next) : previous.Apart next :=
  fun _ hc => continues_eq_false h hc

end Kind

namespace Scan

/-- Whether a block is open behind a token. -/
def within (inBlock : Bool) : Kind → Bool
  | .openBrace => true
  | .closeBrace => false
  | _ => inBlock

lemma within_of_ne {inBlock : Bool} {kind : Kind}
    (h : kind ≠ .openBrace ∧ kind ≠ .closeBrace) : within inBlock kind = inBlock := by
  cases kind <;> first | rfl | simp at h

lemma next_inBlock (s : State) (kind : Kind) (piece : List Char) :
    (s.next kind piece).inBlock = within s.inBlock kind := by
  cases kind <;> rfl

/-- A token that is spelled as its kind asks, and of the right kind for its word. -/
structure Proper (inBlock : Bool) (t : Token) : Prop where
  spelling : t.kind.Spelling t.text.toList
  word : t.kind.isWord = true → t.kind = wordKind inBlock t.text.toList

def AllProper (inBlock : Bool) : List Token → Prop
  | [] => True
  | t :: rest => Proper inBlock t ∧ AllProper (within inBlock t.kind) rest

/-- Proper tokens each of which may follow the one before. -/
def Chained (previous : Option Kind) (inBlock : Bool) : List Token → Prop
  | [] => True
  | t :: rest =>
    Kind.mayFollow previous t.kind = true ∧ Proper inBlock t ∧
      Chained (some t.kind) (within inBlock t.kind) rest

/-- The same tokens at the places where the scan finds them. -/
def place (s : State) : List Token → List Token
  | [] => []
  | t :: rest => { t with position := s.position } :: place (s.next t.kind t.text.toList) rest

lemma place_alike (s : State) (ts : List Token) : List.Forall₂ Token.Alike ts (place s ts) := by
  induction ts generalizing s with
  | nil => exact .nil
  | cons t rest ih => exact .cons ⟨rfl, rfl⟩ (ih _)

lemma characters_place (s : State) (ts : List Token) :
    characters (place s ts) = characters ts := by
  induction ts generalizing s with
  | nil => rfl
  | cons t rest ih => simpa [characters, place] using ih _

lemma accepts_place {s : State} {ts : List Token} (h : Chained s.previous s.inBlock ts) :
    Accepts s (place s ts) := by
  induction ts generalizing s with
  | nil => trivial
  | cons t rest ih =>
    obtain ⟨hfollows, hproper, hrest⟩ := h
    refine ⟨⟨rfl, hproper.spelling, hfollows, hproper.word⟩, ih ?_⟩
    rw [next_inBlock]
    exact hrest

/-- **A chain of tokens is found again** in the text that it spells. -/
lemma tokenize_of_chained {source : String} {ts : List Token} (h : Chained none false ts)
    (hsource : characters ts = source.toList) :
    ∃ us, tokenize source = .ok us ∧ List.Forall₂ Token.Alike ts us := by
  refine ⟨place .initial ts, tokensFrom_eq_ok_iff.mpr ⟨accepts_place h, ?_⟩, place_alike _ ts⟩
  rw [characters_place, hsource]

/-! ### Neighbours -/

lemma chained_of_isChain {previous : Option Kind} {inBlock : Bool} {ts : List Token}
    (hproper : AllProper inBlock ts)
    (hfirst : ∀ t ∈ ts.head?, Kind.mayFollow previous t.kind = true)
    (hchain : (ts.map (·.kind)).IsChain Kind.Beside) : Chained previous inBlock ts := by
  induction ts generalizing previous inBlock with
  | nil => trivial
  | cons t rest ih =>
    refine ⟨hfirst t rfl, hproper.1, ih hproper.2 (fun u hu => ?_) ?_⟩
    · cases rest with
      | nil => simp at hu
      | cons v rest =>
        obtain rfl : v = u := by simpa using hu
        exact (List.isChain_cons_cons.mp hchain).1
    · exact (List.isChain_cons.mp hchain).2

lemma stops_of_apart {t : Token} {rest : List Token} {inBlock : Bool}
    (hproper : AllProper inBlock rest)
    (hapart : ((t :: rest).map (·.kind)).IsChain Kind.Apart) :
    Lexeme.Stops t.kind.continues (characters rest) := by
  cases rest with
  | nil => exact Lexeme.stops_nil
  | cons u rest =>
    obtain ⟨c, more, hc⟩ := List.exists_cons_of_ne_nil hproper.1.spelling.ne_nil
    have hkind := Kind.Spelling.kindOf? (hc ▸ hproper.1.spelling)
    have hchars : characters (u :: rest) = c :: (more ++ characters rest) := by
      simp [characters, hc]
    rw [hchars]
    exact Lexeme.stops_cons.mpr ((List.isChain_cons_cons.mp hapart).1 c hkind)

/-- **Proper tokens that are told apart are a chain** if the text that they spell is cut into
tokens at all: the scan can find no others. -/
lemma isChain_of_tokensFrom {s : State} {ts us : List Token} (hproper : AllProper s.inBlock ts)
    (hapart : (ts.map (·.kind)).IsChain Kind.Apart) (h : tokensFrom s 0 (characters ts) = .ok us) :
    (∀ t ∈ ts.head?, Kind.mayFollow s.previous t.kind = true) ∧
      (ts.map (·.kind)).IsChain Kind.Beside := by
  induction ts generalizing s us with
  | nil => simp
  | cons t rest ih =>
    obtain ⟨ht, hrest⟩ := hproper
    have hcandidate : candidate s.inBlock (t.text.toList ++ characters rest) = _ :=
      candidate_complete ht.spelling ht.word (stops_of_apart hrest hapart)
    obtain ⟨c, more, hc⟩ := List.exists_cons_of_ne_nil ht.spelling.ne_nil
    have hchars : characters (t :: rest) = c :: (more ++ characters rest) := by
      simp [characters, hc]
    rw [hchars, tokensFrom_cons] at h
    obtain ⟨kind, piece, found, hnext, hfound, -⟩ := h
    obtain ⟨hsome, hfollows⟩ := nextToken_eq_ok.mp hnext
    obtain ⟨rfl, rfl⟩ : kind = t.kind ∧ piece = t.text.toList := by
      rw [← List.cons_append, ← hc, hcandidate] at hsome
      simpa [eq_comm] using hsome
    have hdrop : (c :: (more ++ characters rest)).drop t.text.toList.length = characters rest := by
      simp [hc]
    rw [hdrop] at hfound
    rw [← next_inBlock s t.kind t.text.toList] at hrest
    obtain ⟨hfirst, hchain⟩ := ih hrest (List.isChain_cons.mp hapart).2 hfound
    refine ⟨by simpa using hfollows, List.isChain_cons.mpr ⟨fun kind hkind => ?_, hchain⟩⟩
    cases rest with
    | nil => simp at hkind
    | cons u rest =>
      obtain rfl : u.kind = kind := by simpa using hkind
      exact hfirst u rfl

lemma allProper_of_accepts {s : State} {ts : List Token} (h : Accepts s ts) :
    AllProper s.inBlock (ts.filter (!·.kind.isLayout)) := by
  induction ts generalizing s with
  | nil => trivial
  | cons t rest ih =>
    obtain ⟨hfits, hrest⟩ := h
    have hproper := ih hrest
    rw [next_inBlock] at hproper
    by_cases hlayout : t.kind.isLayout = true
    · rw [List.filter_cons_of_neg (by simpa using hlayout)]
      have hbrace : t.kind ≠ .openBrace ∧ t.kind ≠ .closeBrace := by
        constructor <;> (intro hk; simp [hk, Kind.isLayout] at hlayout)
      rwa [within_of_ne hbrace] at hproper
    · rw [List.filter_cons_of_pos (by simpa using hlayout)]
      exact ⟨⟨hfits.spelling, hfits.word⟩, hproper⟩

/-! ### Parts of a text -/

def withinAll (inBlock : Bool) (ts : List Token) : Bool :=
  ts.foldl (fun b t => within b t.kind) inBlock

lemma allProper_append {inBlock : Bool} {front back : List Token} :
    AllProper inBlock (front ++ back) ↔
      AllProper inBlock front ∧ AllProper (withinAll inBlock front) back := by
  induction front generalizing inBlock with
  | nil => simp [AllProper, withinAll]
  | cons t front ih => simp [AllProper, withinAll, ih, and_assoc]

lemma withinAll_append (inBlock : Bool) (front back : List Token) :
    withinAll inBlock (front ++ back) = withinAll (withinAll inBlock front) back :=
  List.foldl_append

lemma withinAll_of_forall {inBlock : Bool} {ts : List Token}
    (h : ∀ t ∈ ts, t.kind ≠ .openBrace ∧ t.kind ≠ .closeBrace) :
    withinAll inBlock ts = inBlock := by
  induction ts with
  | nil => rfl
  | cons t rest ih =>
    obtain ⟨ht, hrest⟩ := List.forall_mem_cons.mp h
    rw [withinAll, List.foldl_cons, within_of_ne ht]
    exact ih hrest

lemma allProper_of_forall {inBlock : Bool} {ts : List Token}
    (h : ∀ t ∈ ts, t.kind ≠ .openBrace ∧ t.kind ≠ .closeBrace) :
    AllProper inBlock ts ↔ ∀ t ∈ ts, Proper inBlock t := by
  induction ts with
  | nil => simp [AllProper]
  | cons t rest ih =>
    obtain ⟨ht, hrest⟩ := List.forall_mem_cons.mp h
    rw [AllProper, within_of_ne ht, ih hrest, List.forall_mem_cons]

/-- Proper tokens of a text that lead from inside a block or outside to the same or the other. -/
structure Proceeds (inBlock : Bool) (ts : List Token) (behind : Bool) : Prop where
  proper : AllProper inBlock ts
  within : withinAll inBlock ts = behind

lemma proceeds_nil (inBlock : Bool) : Proceeds inBlock [] inBlock := ⟨trivial, rfl⟩

lemma proceeds_cons {inBlock behind : Bool} {t : Token} {ts : List Token} :
    Proceeds inBlock (t :: ts) behind ↔
      Proper inBlock t ∧ Proceeds (Scan.within inBlock t.kind) ts behind :=
  ⟨fun h => ⟨h.proper.1, h.proper.2, h.within⟩, fun h => ⟨⟨h.1, h.2.proper⟩, h.2.within⟩⟩

lemma Proceeds.cons {inBlock behind : Bool} {t : Token} {ts : List Token} (ht : Proper inBlock t)
    (hbrace : t.kind ≠ .openBrace ∧ t.kind ≠ .closeBrace) (h : Proceeds inBlock ts behind) :
    Proceeds inBlock (t :: ts) behind :=
  proceeds_cons.mpr ⟨ht, (within_of_ne hbrace).symm ▸ h⟩

lemma Proceeds.append {inBlock middle behind : Bool} {front back : List Token}
    (hfront : Proceeds inBlock front middle) (hback : Proceeds middle back behind) :
    Proceeds inBlock (front ++ back) behind := by
  obtain ⟨hproper, rfl⟩ := hfront
  refine ⟨allProper_append.mpr ⟨hproper, hback.proper⟩, ?_⟩
  rw [withinAll_append, hback.within]

lemma proceeds_flatMap {α : Type} {f : α → List Token} {as : List α} {inBlock : Bool}
    (h : ∀ a ∈ as, Proceeds inBlock (f a) inBlock) : Proceeds inBlock (as.flatMap f) inBlock := by
  induction as with
  | nil => exact proceeds_nil inBlock
  | cons a as ih =>
    obtain ⟨ha, has⟩ := List.forall_mem_cons.mp h
    exact ha.append (ih has)

lemma proceeds_of_forall {inBlock : Bool} {ts : List Token} (hproper : ∀ t ∈ ts, Proper inBlock t)
    (hbrace : ∀ t ∈ ts, t.kind ≠ .openBrace ∧ t.kind ≠ .closeBrace) :
    Proceeds inBlock ts inBlock :=
  ⟨(allProper_of_forall hbrace).mpr hproper, withinAll_of_forall hbrace⟩

end Scan

end TypeGuard
