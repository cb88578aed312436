import TypeGuard.Compile
import TypeGuard.Proofs.Outcome

/-!
The stages from a source text to a schema and to the generated files, when no hook changes anything.
-/

namespace TypeGuard

open Outcome

lemma shown_eq_ok {α : Type} {source : Source} {x : Except Diagnostic α} {a : α} :
    shown source x = .ok a ↔ x = .ok a := by
  cases x <;> simp [shown]

lemma shown_eq_error {α : Type} {source : Source} {x : Except Diagnostic α} {d : Diagnostic} :
    shown source x = .error d ↔ ∃ e, x = .error e ∧ d = e.attach source.label source.text := by
  cases x <;> simp [shown, eq_comm]

lemma run_stage {ε α β : Type} (x : Except ε α) (f : α → ExceptT ε Id β) :
    Id.run (liftM x >>= f : ExceptT ε Id β).run = x >>= fun a => Id.run (f a).run := by
  cases x <;> rfl

lemma resolveHooked_none (source : Source) :
    Id.run (resolveHooked Hooks.none source).run = (do
      let tokens ← shown source (tokenize source.text)
      let ds ← shown source (group tokens)
      shown source (resolve ds)) := by
  rw [resolveHooked, run_stage]
  refine congrArg _ (funext fun tokens => ?_)
  refine (run_stage (shown source (group tokens)) _).trans (congrArg _ (funext fun ds => ?_))
  refine (run_stage (shown source (resolve ds)) _).trans ?_
  cases shown source (resolve ds) <;> rfl

lemma compileHooked_none (source : Source) :
    Id.run (compileHooked Hooks.none source).run = (do
      let s ← Id.run (resolveHooked Hooks.none source).run
      return s.files) := by
  unfold compileHooked
  rcases h : (resolveHooked Hooks.none source : ExceptT Diagnostic Id Schema) with d | s
  all_goals rfl

/-- **A source text resolves** exactly if all three stages succeed. -/
lemma resolveSource_eq_ok {text : String} {s : Schema} :
    resolveSource text = .ok s ↔
      ∃ tokens ds, tokenize text = .ok tokens ∧ group tokens = .ok ds ∧ resolve ds = .ok s := by
  simp [resolveSource, resolveHooked_none, bind_eq_ok, shown_eq_ok]

lemma compile_eq_ok {text : String} {files : Files} :
    compile text = .ok files ↔ ∃ s, resolveSource text = .ok s ∧ s.files = files := by
  simp only [compile, compileAs, compileHooked_none, resolveSource, bind_eq_ok, pure_eq_ok]

/-- **A source text is rejected** by the first stage that fails, and shown with the rejection. -/
lemma compileAs_eq_error {label text : String} {d : Diagnostic} :
    compileAs label text = .error d ↔ ∃ e, d = e.attach label text ∧
      (tokenize text = .error e ∨ ∃ tokens, tokenize text = .ok tokens ∧
        (group tokens = .error e ∨ ∃ ds, group tokens = .ok ds ∧ resolve ds = .error e)) := by
  simp only [compileAs, compileHooked_none, resolveHooked_none, bind_eq_error, pure_ne_error,
    and_false, exists_false, or_false, shown_eq_ok, shown_eq_error]
  constructor
  · rintro (⟨e, he, rfl⟩ | ⟨tokens, htokens, ⟨e, he, rfl⟩ | ⟨ds, hds, e, he, rfl⟩⟩)
    · exact ⟨e, rfl, .inl he⟩
    · exact ⟨e, rfl, .inr ⟨tokens, htokens, .inl he⟩⟩
    · exact ⟨e, rfl, .inr ⟨tokens, htokens, .inr ⟨ds, hds, he⟩⟩⟩
  · rintro ⟨e, rfl, he | ⟨tokens, htokens, he | ⟨ds, hds, he⟩⟩⟩
    · exact .inl ⟨e, he, rfl⟩
    · exact .inr ⟨tokens, htokens, .inl ⟨e, he, rfl⟩⟩
    · exact .inr ⟨tokens, htokens, .inr ⟨ds, hds, e, he, rfl⟩⟩

end TypeGuard
