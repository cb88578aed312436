import TypeGuard.Proofs.Order
import TypeGuard.Proofs.Pipeline
import TypeGuard.Proofs.Printable
import TypeGuard.Proofs.Relocation

/-!
Setting a source text in its canonical layout does not change what it compiles to.

The declarations of a text that compiles are printable. So the layout is read as the same
declarations, up to places, with the configuration blocks moved to the front; neither has an effect
on the schema.
-/

namespace TypeGuard

open Outcome

lemma resolve_ordered {ds : List Declaration} {s : Schema} (h : resolve ds = .ok s) :
    resolve (Canonical.ordered ds) = .ok s := by
  obtain ⟨r, hr, hs⟩ := bind_eq_ok.mp h
  exact bind_eq_ok.mpr ⟨r, Resolution.foldlM_ordered hr, hs⟩

lemma format_eq_ok {source text : String} :
    format source = .ok text ↔ ∃ ts ds, tokenize source = .ok ts ∧ group ts = .ok ds ∧
      Canonical.schema ds = text := by
  simp only [format, parse, bind_eq_ok, pure_eq_ok]
  constructor
  · rintro ⟨ds, ⟨ts, hts, hds⟩, rfl⟩
    exact ⟨ts, ds, hts, hds, rfl⟩
  · rintro ⟨ts, ds, hts, hds, rfl⟩
    exact ⟨ds, ⟨ts, hts, hds⟩, rfl⟩

/-- **The canonical layout keeps the meaning.** A source text that compiles has a canonical layout,
and this compiles to the same files. -/
theorem compile_format {source : String} {files : Files} (h : compile source = .ok files) :
    ∃ text, format source = .ok text ∧ compile text = .ok files := by
  obtain ⟨s, hresolve, hfiles⟩ := compile_eq_ok.mp h
  obtain ⟨ts, ds, hts, hds, hs⟩ := resolveSource_eq_ok.mp hresolve
  have hprintable := Canonical.printable_of_resolve hts hds hs
  obtain ⟨us, es, hus, hes, halike⟩ := Canonical.group_schema hprintable
  refine ⟨Canonical.schema ds, format_eq_ok.mpr ⟨ts, ds, hts, hds, rfl⟩, ?_⟩
  have hrehead : List.Forall₂ Declaration.Alike (Canonical.ordered ds)
      ((Canonical.ordered ds).map Canonical.rehead) :=
    List.forall₂_map_right_iff.mpr (List.forall₂_same.mpr fun d _ => Canonical.rehead_alike d)
  have hschema : resolve es = .ok s :=
    resolve_alike halike (resolve_alike hrehead (resolve_ordered hs))
  exact compile_eq_ok.mpr ⟨s, resolveSource_eq_ok.mpr ⟨us, es, hus, hes, hschema⟩, hfiles⟩

/-- A text with a comment, uneven blanks, and a configuration block behind other declarations. -/
def untidySource : String :=
  "alias  A  string // text\n\n\nmodel M\n \x7b config optional( A)\n\x7d\n"
    ++ "config \x7b strict\ttrue\n\x7d"

theorem compile_format_untidy :
    ∃ text files, compile untidySource = .ok files ∧ format untidySource = .ok text ∧
      compile text = .ok files := by
  have hok : (compile untidySource).toOption.isSome = true := by decide +kernel
  obtain ⟨files, hfiles⟩ := Option.isSome_iff_exists.mp hok
  have hcompile : compile untidySource = .ok files := by
    cases h : compile untidySource <;> simp_all [Except.toOption]
  obtain ⟨text, hformat, htext⟩ := compile_format hcompile
  exact ⟨text, files, hcompile, hformat, htext⟩

end TypeGuard
