import Hyperslab.Proofs.View.Resolve
import Hyperslab.Proofs.View.Whole
import Hyperslab.View.Answer

/-! The filters of a view, and what edits do to them. Only attaching a filter changes one, and it
changes the filter of its sequence only. -/
namespace Hyperslab.View

/-- The filter of a variable, if it is selected and has one. -/
def filter? (view : View) (v : VarId) : Option Filter :=
  (view.segment? v).bind (·.filter)

variable {view view' : View} {v : VarId}

theorem InStep.filter?_of_mem (hInStep : view.InStep) {segment : Segment}
    (h : segment ∈ view.segments) : view.filter? segment.var = segment.filter := by
  rw [filter?, hInStep.segment?_of_mem h, Option.bind_some]

/-- A variable with a filter has a segment with this filter. -/
theorem InStep.filter?_eq_some (hInStep : view.InStep) {filter : Filter} :
    view.filter? v = some filter ↔
      ∃ segment ∈ view.segments, segment.var = v ∧ segment.filter = some filter := by
  rw [filter?, Option.bind_eq_some_iff]
  constructor
  · rintro ⟨segment, hFind, hFilter⟩
    obtain ⟨hMem, hVar⟩ := hInStep.segment?_eq_some hFind
    exact ⟨segment, hMem, hVar, hFilter⟩
  · rintro ⟨segment, hMem, rfl, hFilter⟩
    exact ⟨segment, hInStep.segment?_of_mem hMem, hFilter⟩

/-- Views with the same filters at their segments give them to the same variables. -/
theorem InStep.filter?_congr (hInStep : view.InStep) (hInStep' : view'.InStep)
    (hSame : ∀ x filter, (∃ segment ∈ view'.segments, segment.var = x ∧
      segment.filter = some filter) ↔ ∃ segment ∈ view.segments, segment.var = x ∧
        segment.filter = some filter) (x : VarId) : view'.filter? x = view.filter? x := by
  refine Option.ext fun filter => ?_
  rw [hInStep'.filter?_eq_some, hInStep.filter?_eq_some, hSame]

/-- New segments have no filters. -/
theorem InStep.filter?_push (hInStep : view.InStep) {slices : List Slice} (hNew : v ∉ view.vars)
    (x : VarId) : (view.push (.fresh v slices)).filter? x = view.filter? x := by
  refine hInStep.filter?_congr (hInStep.push hNew) (fun x filter => ?_) x
  simp [View.push, Segment.fresh, or_and_right, exists_or]

theorem InStep.filter?_pushAll (hInStep : view.InStep) {added : List VarId}
    (hNodup : (view.vars ++ added).Nodup) (x : VarId) :
    (view.pushAll added).filter? x = view.filter? x := by
  refine hInStep.filter?_congr (hInStep.pushAll hNodup) (fun x filter => ?_) x
  simp [View.pushAll, Segment.fresh, or_and_right, exists_or]

theorem addVariable_selects {slices : List Slice}
    (h : (view.addVariable v slices).toExcept = .ok view') : v ∈ view'.vars := by
  obtain ⟨_, _, ⟨_, rfl⟩ | ⟨hSelected, _, _, ⟨_, rfl⟩ | ⟨_, _, rfl⟩⟩⟩ := addVariable_ok h
  · simp [Segment.fresh]
  · exact hSelected
  · exact hSelected

theorem filter?_modifySegment (view : View) (v : VarId) (change : Segment → Segment) (x : VarId) :
    (view.modifySegment v change).filter? x =
      if x = v then (view.segment? x).bind fun segment => (change segment).filter
      else view.filter? x := by
  rw [filter?, segment?_modifySegment, filter?]
  split
  · cases view.segment? x <;> rfl
  · rfl

theorem InStep.filter?_selectEnclosing (hInStep : view.InStep) (x : VarId) :
    (view.selectEnclosing v).filter? x = view.filter? x := by
  obtain ⟨added, hEq⟩ := selectEnclosing_eq view v
  have hNodup := (hInStep.selectEnclosing v).nodup
  rw [hEq] at hNodup ⊢
  exact hInStep.filter?_pushAll hNodup x

theorem InStep.addVariable_filter? (hInStep : view.InStep) {slices : List Slice}
    (h : (view.addVariable v slices).toExcept = .ok view') (x : VarId) :
    view'.filter? x = view.filter? x := by
  rw [← hInStep.filter?_selectEnclosing (v := v) x]
  obtain ⟨_, _, ⟨hNew, rfl⟩ | ⟨_, _, _, ⟨_, rfl⟩ | ⟨_, _, rfl⟩⟩⟩ := View.addVariable_ok h
  · exact (hInStep.selectEnclosing v).filter?_push hNew x
  · rw [filter?_modifySegment]
    split <;> rfl
  · rfl

/-- A filter is joined to the filter that its sequence has. -/
theorem InStep.setFilter_filter? (hInStep : view.InStep) {filter : Filter}
    (h : (view.setFilter v filter).toExcept = .ok view') (x : VarId) : view'.filter? x =
      if x = v then some (joinFilter (view.filter? v) filter) else view.filter? x := by
  obtain ⟨_, base, hBase, rfl⟩ := setFilter_ok h
  obtain ⟨hSelected, hFilters, hBaseInStep⟩ :
      v ∈ base.vars ∧ (∀ x, base.filter? x = view.filter? x) ∧ base.InStep := by
    rcases hBase with ⟨hSelected, rfl⟩ | ⟨_, hAdd⟩
    · exact ⟨hSelected, fun _ => rfl, hInStep⟩
    · exact ⟨addVariable_selects hAdd, hInStep.addVariable_filter? hAdd, hInStep.addVariable hAdd⟩
  rw [← hFilters v, ← hFilters x, filter?_modifySegment]
  split
  · next hSame =>
      obtain ⟨segment, hMem, rfl⟩ := hBaseInStep.exists_segment hSelected
      rw [hSame, filter?, hBaseInStep.segment?_of_mem hMem]
      rfl
  · rfl

theorem InStep.finish_filter? (hInStep : view.InStep) (h : view.finish.toExcept = .ok view')
    (x : VarId) : view'.filter? x = view.filter? x := by
  have hExpanded := hInStep.expanded
  rw [← hInStep.filter?_pushAll hExpanded.nodup x]
  obtain ⟨_, segments, hSegments, rfl⟩ := finish_ok h
  refine hExpanded.filter?_congr (hExpanded.settle hSegments) (fun x filter => ?_) x
  constructor
  · rintro ⟨resolved, hMem, hVar, hFilter⟩
    obtain ⟨segment, hSegment, hSettle⟩ := exists_of_forall₂_right hSegments hMem
    obtain ⟨hSameVar, hSame, _⟩ := settleSegment_ok hSettle
    exact ⟨segment, hSegment, hSameVar.symm.trans hVar, hSame.symm.trans hFilter⟩
  · rintro ⟨segment, hMem, hVar, hFilter⟩
    obtain ⟨resolved, hResolved, hSettle⟩ := exists_of_forall₂_right hSegments.flip hMem
    obtain ⟨hSameVar, hSame, _⟩ := settleSegment_ok hSettle
    exact ⟨resolved, hResolved, hSameVar.trans hVar, hSame.trans hFilter⟩

/-- The filter of a finished view decides about a row. -/
theorem matchRow_of_finished (hFinished : view.isFinished = true) (v : VarId) (row : Row) :
    view.matchRow v row = match view.filter? v with
      | some filter => filter.accepts view.schema row
      | none => .ok true := by
  rw [matchRow, whenFinished, if_pos hFinished]
  rfl

end Hyperslab.View
