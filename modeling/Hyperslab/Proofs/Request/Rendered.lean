import Hyperslab.Proofs.Request.Spelled
import Hyperslab.Proofs.View.Coherent

/-! When the text of a view is a request. A resize is written without the semicolon that ends it, so
a view that has resizes and no variable writes a text that is not read. -/
namespace Hyperslab.Request

open Grammar

/-- The text of the view of an accepted request is read again exactly if the view has no resize or
selects a variable. -/
theorem text_parses_iff {limits : Limits} {schema : Schema} {text : String} {view : View}
    (hSchema : schema.Declared) (h : compileText limits schema text = .ok view) :
    ∃ written, view.requestText = .ok written ∧
      ((∃ request, parse written = .ok request) ↔ view.resizes = [] ∨ view.vars ≠ []) := by
  have hTree := hSchema.tree
  obtain ⟨request, _, hWritable, hFinite, hCompile⟩ := compileText_ok h
  have hOutcome := outcome hTree hCompile
  have hTops := hOutcome.tops_eq_nil_iff hTree hWritable
  have hDims : view.DimsSpelled :=
    View.Entered.dimsSpelled (hOutcome.schema_eq ▸ hOutcome.entered hWritable)
  refine ⟨_, hOutcome.requestText, ?_⟩
  constructor
  · rintro ⟨again, hParse⟩
    by_contra hNone
    obtain ⟨hResizes, hVars⟩ := not_or.mp hNone
    exact View.parse_of_tops_eq_nil hDims (hTops.mpr (not_not.mp hVars)) hResizes again hParse
  · intro hSome
    have hSpelled : view.Spelled (Value.LiteralText True) :=
      hOutcome.spelled (fun v hv => ⟨v, Value.literalText_chars hv.readsBack⟩) hTree hWritable
        (compile_filtersBound hWritable hFinite hCompile)
    obtain ⟨_, _, hText⟩ := View.requestText_requestChars hDims
      (fun v hv => hSpelled.clause v ⟨(View.mem_tops.mp hv).1, Or.inl (View.mem_tops.mp hv).2⟩)
      (hSome.imp_right hTops.not.mpr)
    exact ⟨_, parse_requestText hText fun _ _ _ h => h⟩

/-- A view of a variable and a resize writes a request. -/
theorem text_parses_grid : ∃ view written,
    compileText {} .grid "/t=[0:4];/v" = .ok view ∧ view.requestText = .ok written ∧
      view.vars = [⟨0⟩] ∧ (∃ request, parse written = .ok request) ∧
        ((∃ request, parse written = .ok request) ↔ view.resizes = [] ∨ view.vars ≠ []) := by
  obtain ⟨view, hView, hVars⟩ : ∃ view ∈ (compileText {} .grid "/t=[0:4];/v").toOption,
      view.vars = [⟨0⟩] := by
    decide +kernel
  have hView := eq_ok_of_mem_toOption hView
  obtain ⟨written, hWritten, hIff⟩ := text_parses_iff Schema.grid_declared hView
  have hSome : view.vars ≠ [] := by simp [hVars]
  exact ⟨view, written, hView, hWritten, hVars, hIff.mpr (Or.inr hSome), hIff⟩

/-- A resize alone is accepted, and its view writes a text that is not read. -/
theorem text_loses_semicolon : ∃ view,
    compileText {} .grid "/t=[0:4];" = .ok view ∧ view.requestText = .ok "/t=[0:4]" ∧
      ∀ request, parse "/t=[0:4]" ≠ .ok request := by
  have hRun : ∃ view ∈ (compileText {} .grid "/t=[0:4];").toOption,
      ∃ written ∈ view.requestText.toOption,
        written = "/t=[0:4]" ∧ (parse "/t=[0:4]").toOption.isNone = true := by
    decide +kernel
  obtain ⟨view, hView, written, hWritten, rfl, hNone⟩ := hRun
  refine ⟨view, eq_ok_of_mem_toOption hView, eq_ok_of_mem_toOption hWritten,
    fun request hParse => ?_⟩
  rw [hParse] at hNone
  cases hNone

end Hyperslab.Request
