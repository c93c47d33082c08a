import Hyperslab.Proofs.Request.Edits
import Hyperslab.Proofs.View.Alike

/-! The order of the clauses of a request. It decides which fault a refused request is refused with
and in which order variables are selected, but not whether the request is accepted, and not what its
view answers. -/
namespace Hyperslab

variable {limits : Limits} {schema : Schema}

/-- Where the clauses of a request start to select. -/
theorem View.addResizes_open {resizes : List Resize} {resized : View}
    (h : (View.empty schema).addResizes resizes = .ok resized) :
    resized.Open schema ∧ ∀ x, resized.filter? x = none := by
  have hCoherent := (View.coherent_empty schema).steps (View.addResizes_steps resizes h)
  obtain ⟨entered, after, rfl⟩ := View.addResizes_ok resizes h
  exact ⟨⟨rfl, rfl, hCoherent⟩, fun x => rfl⟩

/-- Clauses in another order select alike. -/
theorem View.Open.selectAll_perm (hSchema : schema.Declared) {start selected : View}
    (h : start.Open schema) (hFilters : ∀ x, start.filter? x = none)
    {clauses others : List Clause} (hPerm : clauses.Perm others)
    (hSelected : View.selectAll limits start clauses = .ok selected) :
    ∃ reselected, View.selectAll limits start others = .ok reselected ∧
      selected.Alike reselected ∧ selected.Open schema ∧ reselected.Open schema := by
  have hTree := hSchema.tree
  have hComplete := hSchema.complete
  obtain ⟨edits, hEdits, hRun⟩ := (View.selectAll_run _ h.schema_eq).mp hSelected
  obtain ⟨edits', hEdits', hEditsPerm⟩ := clausesEdits_perm hPerm hEdits
  have hAsks := asks_of_clausesEdits hEdits
  obtain ⟨hIff, hAlike⟩ := h.run_perm hTree hComplete hFilters hEditsPerm hAsks
  obtain ⟨reselected, hRun'⟩ := hIff.mp ⟨selected, hRun⟩
  refine ⟨reselected, ?_, hAlike selected reselected hRun hRun', ?_, ?_⟩
  · exact (View.selectAll_run _ h.schema_eq).mpr ⟨edits', hEdits', hRun'⟩
  · exact (h.run_names hTree hComplete hAsks hRun).2
  · exact (h.run_names hTree hComplete (asks_of_clausesEdits hEdits') hRun').2

/-- Views that give the same answers select the same numbers of elements. -/
theorem View.SameAnswers.count_le {view again : View} (h : view.SameAnswers again)
    (hView : view.InStep) (hAgain : again.InStep) {limit : UInt64}
    (hLimit : ∀ segment ∈ view.segments, segment.count ≤ limit) :
    ∀ segment ∈ again.segments, segment.count ≤ limit := by
  intro other hOther
  obtain ⟨segment, hSegment, hVar⟩ :=
    hView.exists_segment ((h.vars _).mp (hAgain.mem_vars hOther))
  obtain ⟨_, _, hProjection⟩ := h.segments segment hSegment other hOther hVar.symm
  rw [Segment.count, hProjection]
  exact hLimit segment hSegment

namespace Request

/-- A request is accepted with its clauses in another order. -/
theorem compile_reordered (hSchema : schema.Declared) {resizes : List Resize}
    {clauses others : List Clause} (hPerm : clauses.Perm others) {view : View}
    (h : compile limits schema ⟨resizes, clauses⟩ = .ok view) :
    ∃ again, compile limits schema ⟨resizes, others⟩ = .ok again ∧ view.SameAnswers again := by
  obtain ⟨⟨resized, selected, hResized, hSelected, hFinish⟩, hElements⟩ := compile_iff.mp h
  obtain ⟨hOpen, hFilters⟩ := View.addResizes_open hResized
  obtain ⟨reselected, hSelected', hAlike, hFirst, hSecond⟩ :=
    hOpen.selectAll_perm hSchema hFilters hPerm hSelected
  have hTree : selected.schema.Tree := hFirst.schema_eq ▸ hSchema.tree
  obtain ⟨again, hFinish'⟩ :=
    hAlike.finish_succeeds hTree hFirst.coherent hSecond.coherent ⟨view, hFinish⟩
  have hSame := hAlike.sameAnswers hFinish hFinish' hTree hFirst.coherent hSecond.coherent
  refine ⟨again, compile_iff.mpr ⟨⟨resized, reselected, hResized, hSelected', hFinish'⟩, ?_⟩, hSame⟩
  exact fun limit hLimit => hSame.count_le (hFirst.coherent.toInStep.finish hFinish)
    (hSecond.coherent.toInStep.finish hFinish') (hElements limit hLimit)

/-- A request is accepted with its clauses in any order or in none, and in any order its view gives
the same answers. -/
theorem compile_perm (hSchema : schema.Declared) (limits : Limits) (resizes : List Resize)
    {clauses others : List Clause} (hPerm : clauses.Perm others) :
    ((∃ view, compile limits schema ⟨resizes, clauses⟩ = .ok view) ↔
        ∃ again, compile limits schema ⟨resizes, others⟩ = .ok again) ∧
      ∀ view again, compile limits schema ⟨resizes, clauses⟩ = .ok view →
        compile limits schema ⟨resizes, others⟩ = .ok again → view.SameAnswers again := by
  refine ⟨⟨?_, ?_⟩, fun view again hView hAgain => ?_⟩
  · rintro ⟨view, hView⟩
    obtain ⟨again, hAgain, _⟩ := compile_reordered hSchema hPerm hView
    exact ⟨again, hAgain⟩
  · rintro ⟨again, hAgain⟩
    obtain ⟨view, hView, _⟩ := compile_reordered hSchema hPerm.symm hAgain
    exact ⟨view, hView⟩
  · obtain ⟨again', hAgain', hSame⟩ := compile_reordered hSchema hPerm hView
    obtain rfl := Except.ok.inj (hAgain'.symm.trans hAgain)
    exact hSame

/-- Two filters of a sequence, and a slice of another variable. -/
def filteredTwice : List Clause :=
  [.mk (.mk "q" [] none []) (some (.compare .lt (.field "m") (.constant (.int 1)))),
    .mk (.mk "q" [] none []) (some (.compare .lt (.field "m") (.constant (.int 2)))),
    .mk (.mk "v" [.index 1] none []) none]

/-- Backwards the request selects in another order. -/
theorem compile_perm_grid : filteredTwice.Perm filteredTwice.reverse ∧ ∃ view again,
    compile {} .grid ⟨[], filteredTwice⟩ = .ok view ∧
      compile {} .grid ⟨[], filteredTwice.reverse⟩ = .ok again ∧
        view.vars = [⟨1⟩, ⟨0⟩, ⟨2⟩] ∧ again.vars = [⟨0⟩, ⟨1⟩, ⟨2⟩] ∧ view.SameAnswers again := by
  have hRun : ∃ view ∈ (compile {} .grid ⟨[], filteredTwice⟩).toOption,
      ∃ again ∈ (compile {} .grid ⟨[], filteredTwice.reverse⟩).toOption,
        view.vars = [⟨1⟩, ⟨0⟩, ⟨2⟩] ∧ again.vars = [⟨0⟩, ⟨1⟩, ⟨2⟩] := by
    decide +kernel
  obtain ⟨view, hView, again, hAgain, hVars, hVars'⟩ := hRun
  have hView := eq_ok_of_mem_toOption hView
  have hAgain := eq_ok_of_mem_toOption hAgain
  have hPerm : filteredTwice.Perm filteredTwice.reverse := (List.reverse_perm _).symm
  exact ⟨hPerm, view, again, hView, hAgain, hVars, hVars',
    (compile_perm Schema.grid_declared {} [] hPerm).2 view again hView hAgain⟩

end Request

end Hyperslab
