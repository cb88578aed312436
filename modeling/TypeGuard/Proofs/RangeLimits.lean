import TypeGuard.Proofs.Evaluation
import TypeGuard.Proofs.Factory

/-!
Ranges and limits make the same comparisons.

A range of two numbers is a lower and an upper limit at once, on numbers as well as on lengths of
texts; a range of one number has its lower limit at zero, or is itself one. Both kinds of check are
brought down to comparisons of the bounds with what is measured in the value, and there they meet.
-/

namespace TypeGuard

/-! ### Lengths of texts -/

namespace Text

/-- The 16-bit units of a character. Beyond the basic plane they are a high surrogate and a low
one. -/
def utf16 (c : Char) : List UInt16 :=
  if c.toNat < 0x10000 then [.ofNat c.toNat]
  else
    [.ofNat (0xD800 + (c.toNat - 0x10000) / 0x400), .ofNat (0xDC00 + (c.toNat - 0x10000) % 0x400)]

lemma length_utf16 (c : Char) : (utf16 c).length = unitsOf c := by
  unfold utf16 unitsOf
  split <;> rfl

lemma units_eq (text : String) : units text = (text.toList.flatMap utf16).length := by
  unfold units
  induction text.toList with
  | nil => rfl
  | cons c rest ih =>
    rw [List.foldr_cons, List.flatMap_cons, List.length_append, length_utf16, ih]

example : "a😀".toList.flatMap utf16 = [0x61, 0xD83D, 0xDE00] := by decide

end Text

/-! ### Checks made from numbers -/

namespace Factory

/-- A standard factory makes a check out of numbers, in whatever call. -/
def Makes (name : String) (bounds : List Float) (check : Check) : Prop :=
  ∀ call : Call, ∃ factory c, Registry.standard.factory? name = some factory ∧
    factory.build call (bounds.map fun x => .literal (.number x)) = .ok c ∧ c.check = check

/-- The outcome, on a value, of what a standard factory makes out of numbers: that of every
constraint with this check, whether it comes from the factory or not. -/
def Yields (name : String) (bounds : List Float) (v : Option Value)
    (outcome : Except Fault Verdict) : Prop :=
  ∃ check, Makes name bounds check ∧ ∀ c : Constraint, c.check = check → c.evaluate v = outcome

def Admits (name : String) (bounds : List Float) (v : Option Value) : Prop :=
  Yields name bounds v (.ok .pass)

variable {name : String} {bounds : List Float} {v : Option Value} {outcome : Except Fault Verdict}
variable {check : Check}

lemma Makes.unique {check' : Check} (h : Makes name bounds check) (h' : Makes name bounds check') :
    check = check' := by
  obtain ⟨factory, c, hfactory, hbuild, rfl⟩ := h ⟨default, 0⟩
  obtain ⟨factory', c', hfactory', hbuild', rfl⟩ := h' ⟨default, 0⟩
  obtain rfl := Option.some.inj (hfactory.symm.trans hfactory')
  obtain rfl := Except.ok.inj (hbuild.symm.trans hbuild')
  rfl

lemma Makes.yields_iff (h : Makes name bounds check) :
    Yields name bounds v outcome ↔ check.evaluate v = outcome := by
  constructor
  · rintro ⟨check', h', hall⟩
    obtain rfl := h.unique h'
    obtain ⟨-, c, -, -, rfl⟩ := h ⟨default, 0⟩
    rw [← Constraint.evaluate_eq]
    exact hall c rfl
  · intro heval
    refine ⟨check, h, fun c hc => ?_⟩
    rw [Constraint.evaluate_eq, hc, heval]

lemma makes_range (h : bounds.length ≤ 3) :
    Makes "range" bounds (.range bounds[0]? bounds[1]? bounds[2]?) := by
  intro call
  refine ⟨⟨"range", range⟩, _, rfl, range_eq_ok.mpr ⟨?_, _, _, _, ?_, ?_, ?_, rfl⟩, rfl⟩
  · rwa [List.length_map]
  all_goals exact List.getElem?_map

lemma makes_limit {side : Side} {measure : Measure} (bound : Float)
    (h : Registry.standard.factory? name = some ⟨name, limit side measure⟩) :
    Makes name [bound] (.limit ⟨bound, false, side, measure⟩) := by
  intro call
  exact ⟨_, _, h, limit_eq_ok.mpr ⟨by simp, bound, none, rfl, rfl, rfl⟩, rfl⟩

lemma yields_range (h : bounds.length ≤ 3) :
    Yields "range" bounds v outcome ↔
      evaluateRange bounds[0]? bounds[1]? bounds[2]? v = outcome := by
  rw [(makes_range h).yields_iff, Check.evaluate]

lemma admits_limit {side : Side} {measure : Measure} {bound : Float}
    (h : Registry.standard.factory? name = some ⟨name, limit side measure⟩) :
    Admits name [bound] v ↔ (Limit.mk bound false side measure).admits v = true := by
  rw [Admits, (makes_limit bound h).yields_iff, Check.evaluate, Except.ok.injEq,
    Verdict.ofBool_eq_pass]

/-! ### The comparisons of limits -/

variable {bound start stop step e x : Float} {s : String}

lemma admits_min : Admits "min" [bound] (some (.number x)) ↔ bound ≤ x := by
  have hname : Registry.standard.factory? "min" = some ⟨"min", limit .lower .value⟩ := rfl
  rw [admits_limit hname]
  simp [Limit.admits, Limit.measured, Limit.holds, Value.number?]

lemma admits_max : Admits "max" [bound] (some (.number x)) ↔ x ≤ bound := by
  have hname : Registry.standard.factory? "max" = some ⟨"max", limit .upper .value⟩ := rfl
  rw [admits_limit hname]
  simp [Limit.admits, Limit.measured, Limit.holds, Value.number?]

lemma admits_minlength :
    Admits "minlength" [bound] (some (.string s)) ↔ bound ≤ Float.ofNat (Text.units s) := by
  have hname : Registry.standard.factory? "minlength" =
      some ⟨"minlength", limit .lower .length⟩ := rfl
  rw [admits_limit hname]
  simp [Limit.admits, Limit.measured, Limit.holds, Value.length?, Value.string?]

lemma admits_maxlength :
    Admits "maxlength" [bound] (some (.string s)) ↔ Float.ofNat (Text.units s) ≤ bound := by
  have hname : Registry.standard.factory? "maxlength" =
      some ⟨"maxlength", limit .upper .length⟩ := rfl
  rw [admits_limit hname]
  simp [Limit.admits, Limit.measured, Limit.holds, Value.length?, Value.string?]

/-! ### The comparisons of ranges -/

lemma admits_pair_number (h : ¬ stop ≤ start) :
    Admits "range" [start, stop] (some (.number x)) ↔ start ≤ x ∧ x ≤ stop := by
  rw [Admits, yields_range (by simp)]
  simp [evaluateRange, h, Value.string?, Value.number?, Verdict.ofBool_eq_pass]

lemma admits_pair_string (h : ¬ stop ≤ start) :
    Admits "range" [start, stop] (some (.string s)) ↔
      start ≤ Float.ofNat (Text.units s) ∧ Float.ofNat (Text.units s) ≤ stop := by
  rw [Admits, yields_range (by simp)]
  simp [evaluateRange, h, Value.string?, Value.length?, Verdict.ofBool_eq_pass]

lemma fails_pair (h : ¬ stop ≤ start) (hnumber : Value.number? v = none)
    (hstring : Value.string? v = none) : Yields "range" [start, stop] v (.ok .fail) := by
  rw [yields_range (by simp)]
  simp [evaluateRange, h, hnumber, hstring, Verdict.ofBool]

lemma admits_single_number (h : ¬ e < 0) :
    Admits "range" [e] (some (.number x)) ↔ 0 ≤ x ∧ x ≤ e := by
  rw [Admits, yields_range (by simp)]
  simp [evaluateRange, h, Value.string?, Value.number?, Verdict.ofBool_eq_pass]

lemma admits_single_string (h : ¬ e < 0) :
    Admits "range" [e] (some (.string s)) ↔ Float.ofNat (Text.units s) ≤ e := by
  rw [Admits, yields_range (by simp)]
  simp [evaluateRange, h, Value.string?, Value.length?, Verdict.ofBool_eq_pass]

lemma admits_negative_number (h : e < 0) : Admits "range" [e] (some (.number x)) ↔ e ≤ x := by
  rw [Admits, yields_range (by simp)]
  simp [evaluateRange, h, Value.string?, Value.number?, Verdict.ofBool_eq_pass]

lemma faults_negative_string (h : e < 0) :
    Yields "range" [e] (some (.string s)) (.error (.range .negativeOnString)) := by
  rw [yields_range (by simp)]
  simp [evaluateRange, h, Value.string?]

lemma number_of_admits_step (h : Admits "range" [start, stop, step] v) :
    ¬ stop ≤ start ∧ ∃ x, v = some (.number x) ∧ start ≤ x ∧ x ≤ stop := by
  rw [Admits, yields_range (by simp)] at h
  simp only [List.getElem?_cons_zero, List.getElem?_cons_succ, evaluateRange] at h
  split at h
  · simp at h
  split at h
  · simp at h
  next hinverted =>
  split at h
  · simp at h
  rw [Except.ok.injEq, Verdict.ofBool_eq_pass, Option.any_eq_true] at h
  obtain ⟨x, hx, hbounds⟩ := h
  simp only [Bool.and_eq_true, decide_eq_true_eq] at hbounds
  refine ⟨hinverted, x, ?_, hbounds.1⟩
  unfold Value.number? at hx
  split at hx <;> simp_all

/-! ### Ranges and limits -/

/-- **Ranges agree with limits.** A range of two numbers that is not inverted passes on a number
exactly if the lower and the upper limit do, passes on a text exactly if the limits of the length
do, and fails on everything else. A range of one number that is not negative does so with zero as
its lower limit, and a negative one is a lower limit of numbers and faults on every text. What
passes a range with a step passes the range without it. The length of a text is the number of its
UTF-16 code units, in ranges as in limits. -/
theorem ranges_agree_with_limits :
    (∀ start stop : Float, ¬ stop ≤ start →
      (∀ x : Float, Admits "range" [start, stop] (some (.number x)) ↔
        Admits "min" [start] (some (.number x)) ∧ Admits "max" [stop] (some (.number x))) ∧
      (∀ s : String, Admits "range" [start, stop] (some (.string s)) ↔
        Admits "minlength" [start] (some (.string s)) ∧
          Admits "maxlength" [stop] (some (.string s))) ∧
      ∀ v : Option Value, (∀ x, v ≠ some (.number x)) → (∀ s, v ≠ some (.string s)) →
        Yields "range" [start, stop] v (.ok .fail)) ∧
    (∀ e : Float, ¬ e < 0 →
      (∀ x : Float, Admits "range" [e] (some (.number x)) ↔
        Admits "min" [0] (some (.number x)) ∧ Admits "max" [e] (some (.number x))) ∧
      ∀ s : String, Admits "range" [e] (some (.string s)) ↔
        Admits "maxlength" [e] (some (.string s))) ∧
    (∀ e : Float, e < 0 →
      (∀ x : Float, Admits "range" [e] (some (.number x)) ↔ Admits "min" [e] (some (.number x))) ∧
      ∀ s : String, Yields "range" [e] (some (.string s)) (.error (.range .negativeOnString))) ∧
    (∀ (start stop step : Float) (v : Option Value),
      Admits "range" [start, stop, step] v → Admits "range" [start, stop] v) ∧
    ∀ (s : String) (length : Float), length = .ofNat (s.toList.flatMap Text.utf16).length →
      (∀ bound, Admits "minlength" [bound] (some (.string s)) ↔ bound ≤ length) ∧
      (∀ bound, Admits "maxlength" [bound] (some (.string s)) ↔ length ≤ bound) ∧
      (∀ start stop, ¬ stop ≤ start → (Admits "range" [start, stop] (some (.string s)) ↔
        start ≤ length ∧ length ≤ stop)) ∧
      ∀ e, ¬ e < 0 → (Admits "range" [e] (some (.string s)) ↔ length ≤ e) := by
  refine ⟨fun start stop h => ⟨fun x => ?_, fun s => ?_, fun v hnumber hstring => ?_⟩,
    fun e h => ⟨fun x => ?_, fun s => ?_⟩, fun e h => ⟨fun x => ?_, fun s => ?_⟩,
    fun start stop step v h => ?_, ?_⟩
  · rw [admits_pair_number h, admits_min, admits_max]
  · rw [admits_pair_string h, admits_minlength, admits_maxlength]
  · refine fails_pair h ?_ ?_
    · unfold Value.number?
      split <;> simp_all
    · unfold Value.string?
      split <;> simp_all
  · rw [admits_single_number h, admits_min, admits_max]
  · rw [admits_single_string h, admits_maxlength]
  · rw [admits_negative_number h, admits_min]
  · exact faults_negative_string h
  · obtain ⟨hpair, x, rfl, hbounds⟩ := number_of_admits_step h
    exact (admits_pair_number hpair).mpr hbounds
  · rintro s length rfl
    rw [← Text.units_eq]
    exact ⟨fun _ => admits_minlength, fun _ => admits_maxlength,
      fun _ _ => admits_pair_string, fun _ => admits_single_string⟩

/-- A text of two characters and three units, an absent value, and a multiple of a step. -/
theorem ranges_agree_with_limits_surrogates :
    Admits "range" [2, 3] (some (.string "a😀")) ∧ ¬ Admits "range" [2] (some (.string "a😀")) ∧
      Yields "range" [2, 3] none (.ok .fail) ∧
      Yields "range" [-1] (some (.string "a😀")) (.error (.range .negativeOnString)) ∧
      Admits "range" [0, 9, 3] (some (.number 6)) ∧ Admits "range" [0, 9] (some (.number 6)) := by
  obtain ⟨hpair, -, hnegative, hstep, hlength⟩ := ranges_agree_with_limits
  obtain ⟨hleast, hmost, -, hsingle⟩ := hlength "a😀" 3 (by decide +kernel)
  have hproper : ¬ (3 : Float) ≤ 2 := by decide +kernel
  have hmultiple : Admits "range" [0, 9, 3] (some (.number 6)) := by
    rw [Admits, yields_range (by decide)]
    decide +kernel
  refine ⟨?_, ?_, ?_, ?_, hmultiple, hstep 0 9 3 _ hmultiple⟩
  · exact ((hpair 2 3 hproper).2.1 _).mpr
      ⟨(hleast 2).mpr (by decide +kernel), (hmost 3).mpr (by decide +kernel)⟩
  · exact fun h => hproper ((hsingle 2 (by decide +kernel)).mp h)
  · exact (hpair 2 3 hproper).2.2 none (by simp) (by simp)
  · exact (hnegative (-1) (by decide +kernel)).2 _

end Factory

end TypeGuard
