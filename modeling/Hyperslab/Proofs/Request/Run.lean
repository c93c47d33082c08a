import Hyperslab.Proofs.Reading.Yield
import Hyperslab.Proofs.View.Edit
import Hyperslab.Request.Compile

/-! The run of a request from the empty view to the finished one. What selecting a variable and
attaching a filter preserve is preserved by all its clauses. -/
namespace Hyperslab

namespace View

/-- A shared dimension of an open view can be resized by a slice that fits it. -/
theorem addResize_iff {view view' : View} {d : DimId} {slice : Slice} :
    (view.addResize d slice).toExcept = .ok view' ↔ view.isFinished = false ∧
      (view.schema.dimension d).isShared = true ∧
      ∃ fitted, slice.fit (view.schema.dimension d).size = .ok fitted ∧
        view' = view.enter d fitted := by
  simp only [addResize]
  cases view.isFinished with
  | true => simp [Edited.refused, Edited.toExcept]
  | false =>
      cases (view.schema.dimension d).isShared with
      | false => simp [Edited.refused, Edited.toExcept]
      | true =>
          cases slice.fit (view.schema.dimension d).size with
          | error misfit => simp [Edited.refused, Edited.toExcept]
          | ok fitted => simp [Edited.done, Edited.toExcept, eq_comm]

theorem addResize_ok {view view' : View} {d : DimId} {slice : Slice}
    (h : (view.addResize d slice).toExcept = .ok view') :
    ∃ fitted, slice.fit (view.schema.dimension d).size = .ok fitted ∧
      view' = view.enter d fitted :=
  (addResize_iff.mp h).2.2

/-- Resizing touches nothing but the resizes and the resized dimensions. -/
theorem addResizes_ok {view view' : View} (resizes : List Resize)
    (h : view.addResizes resizes = .ok view') :
    ∃ entered after, view' = { view with resizes := entered, resized := after } := by
  induction resizes generalizing view with
  | nil =>
      cases h
      exact ⟨_, _, rfl⟩
  | cons resize resizes ih =>
      rw [addResizes] at h
      split at h
      · cases h
      · split at h
        · cases h
        · obtain ⟨view₁, hResize, h⟩ := exists_of_bind_eq_ok h
          obtain ⟨_, _, rfl⟩ := addResize_ok hResize
          obtain ⟨entered, after, rfl⟩ := ih h
          exact ⟨entered, after, rfl⟩

theorem InStep.addResizes {view view' : View} (hInStep : view.InStep) (resizes : List Resize)
    (h : view.addResizes resizes = .ok view') : view'.InStep := by
  induction resizes generalizing view with
  | nil =>
      cases h
      exact hInStep
  | cons resize resizes ih =>
      rw [View.addResizes] at h
      split at h
      · cases h
      · split at h
        · cases h
        · obtain ⟨view₁, hResize, h⟩ := exists_of_bind_eq_ok h
          obtain ⟨_, _, rfl⟩ := addResize_ok hResize
          exact ih (hInStep.enter _ _) h

/-- A view that passes the check is left as it is, and no segment of it has too many elements. -/
theorem checkElements_iff {limits : Limits} {view view' : View} :
    checkElements limits view = .ok view' ↔ view' = view ∧
      ∀ limit ∈ limits.elements?, ∀ segment ∈ view.segments, segment.count ≤ limit := by
  unfold checkElements
  cases limits.elements? with
  | none => simp [eq_comm]
  | some limit =>
      simp only
      split
      · next segment hFind =>
          have hLarge := List.find?_some hFind
          simp only [decide_eq_true_eq] at hLarge
          simp only [reduceCtorEq, Option.mem_some_iff, forall_eq', false_iff, not_and]
          intro _ hAll
          exact UInt64.not_lt.mpr (hAll segment (List.mem_of_find?_eq_some hFind)) hLarge
      · next hNone =>
          have hAll : ∀ segment ∈ view.segments, segment.count ≤ limit := by
            simpa [List.find?_eq_none] using hNone
          simp only [Except.ok.injEq, Option.mem_some_iff, forall_eq', eq_comm (a := view)]
          exact (and_iff_left hAll).symm

end View

/-- The view is what the resizes and the clauses of the request come to when they are finished. -/
def Request.Finishes (request : Request) (limits : Limits) (schema : Schema) (view : View) : Prop :=
  ∃ resized selected, (View.empty schema).addResizes request.resizes = .ok resized ∧
    View.selectAll limits resized request.clauses = .ok selected ∧
      selected.finish.toExcept = .ok view

/-- The stages of a request that is accepted. Behind the last one the numbers of elements are
checked. -/
theorem Request.compile_iff {request : Request} {limits : Limits} {schema : Schema} {view : View} :
    request.compile limits schema = .ok view ↔ request.Finishes limits schema view ∧
      ∀ limit ∈ limits.elements?, ∀ segment ∈ view.segments, segment.count ≤ limit := by
  constructor
  · intro h
    obtain ⟨resized, hResized, h⟩ := exists_of_bind_eq_ok h
    obtain ⟨selected, hSelected, h⟩ := exists_of_bind_eq_ok h
    obtain ⟨finished, hFinished, h⟩ := exists_of_bind_eq_ok h
    obtain ⟨rfl, hCheck⟩ := View.checkElements_iff.mp h
    exact ⟨⟨resized, selected, hResized, hSelected, hFinished⟩, hCheck⟩
  · rintro ⟨⟨resized, selected, hResized, hSelected, hFinish⟩, hCheck⟩
    have hPassed := View.checkElements_iff.mpr ⟨rfl, hCheck⟩
    simp only [compile, hResized, hSelected, hFinish, hPassed, bind, Except.bind]

theorem Request.compile_ok {request : Request} {limits : Limits} {schema : Schema} {view : View}
    (h : request.compile limits schema = .ok view) : request.Finishes limits schema view :=
  (compile_iff.mp h).1

/-- A text that is accepted is read as a request of the grammar, and that request is accepted. -/
theorem Request.compileText_ok {limits : Limits} {schema : Schema} {text : String} {view : View}
    (h : compileText limits schema text = .ok view) : ∃ request, Request.parse text = .ok request ∧
      request.Writable ∧ (∀ v ∈ request.constants, v.Finite) ∧
        request.compile limits schema = .ok view := by
  unfold compileText at h
  split at h
  · next request hParse =>
      exact ⟨request, hParse, (parse_sound hParse).1, (parse_sound hParse).2, h⟩
  · cases h

namespace View

/-- The edits that the clauses of a request stand for keep up the invariant. -/
structure Preserved (limits : Limits) (Holds : View → Prop) : Prop where
  add : ∀ {view view' : View} {v : VarId} {slices : List Slice}, Holds view →
    (view.addVariable v slices).toExcept = .ok view' → Holds view'
  filter : ∀ {view view' : View} {v : VarId} {e : Expr}, e.Writable → e.Finite → Holds view →
    addFilter limits view v (some e) = .ok view' → Holds view'

variable {limits : Limits} {Holds : View → Prop}

mutual

theorem select_preserves (hEdits : Preserved limits Holds) : ∀ (s : Selector)
    {view view' : View} {scope : Option VarId} {v : VarId}, s.Writable →
      (∀ v ∈ s.constants, v.Finite) → Holds view →
        select limits view scope s = .ok (view', v) → Holds view'
  | .mk name slices child fields, view, view', scope, v, hWritable, hFinite, hView, h => by
    rw [select] at h
    obtain ⟨w, _, h⟩ := exists_of_bind_eq_ok h
    obtain ⟨view₁, hStep, h⟩ := exists_of_bind_eq_ok h
    obtain ⟨view₂, hFields, h⟩ := exists_of_bind_eq_ok h
    have hFieldsView := selectFields_preserves hEdits fields hWritable.2.2.2.2
      (fun v hv => hFinite v (by simp [Selector.constants, hv])) (hEdits.add hView hStep) hFields
    exact selectChild_preserves hEdits child hWritable.2.2.2.1
      (fun v hv => hFinite v (by simp [Selector.constants, hv])) hFieldsView h

theorem selectChild_preserves (hEdits : Preserved limits Holds) : ∀ (child : Option Selector)
    {view view' : View} {c v : VarId}, childWritable child →
      (∀ v ∈ childConstants child, v.Finite) → Holds view →
        selectChild limits view c child = .ok (view', v) → Holds view'
  | none, view, view', c, v, _, _, hView, h => by
    cases h
    exact hView
  | some s, view, view', c, v, hWritable, hFinite, hView, h => by
    rw [selectChild] at h
    exact select_preserves hEdits s hWritable hFinite hView h

theorem selectFields_preserves (hEdits : Preserved limits Holds) : ∀ (fields : List Clause)
    {view view' : View} {c : VarId}, fieldsWritable fields →
      (∀ v ∈ fieldConstants fields, v.Finite) → Holds view →
        selectFields limits view c fields = .ok view' → Holds view'
  | [], view, view', c, _, _, hView, h => by
    cases h
    exact hView
  | clause :: fields, view, view', c, hWritable, hFinite, hView, h => by
    rw [selectFields] at h
    obtain ⟨view₁, hClause, h⟩ := exists_of_bind_eq_ok h
    have hClauseView := selectClause_preserves hEdits clause hWritable.1
      (fun v hv => hFinite v (by simp [fieldConstants, hv])) hView hClause
    exact selectFields_preserves hEdits fields hWritable.2
      (fun v hv => hFinite v (by simp [fieldConstants, hv])) hClauseView h

theorem selectClause_preserves (hEdits : Preserved limits Holds) : ∀ (clause : Clause)
    {view view' : View} {scope : Option VarId}, clause.Writable →
      (∀ v ∈ clause.constants, v.Finite) → Holds view →
        selectClause limits view scope clause = .ok view' → Holds view'
  | .mk target filter, view, view', scope, hWritable, hFinite, hView, h => by
    rw [selectClause] at h
    obtain ⟨⟨view₁, v⟩, hTarget, h⟩ := exists_of_bind_eq_ok h
    have hTargetView := select_preserves hEdits target hWritable.1
      (fun v hv => hFinite v (by simp [Clause.constants, hv])) hView hTarget
    cases filter with
    | none =>
        cases h
        exact hTargetView
    | some e =>
        exact hEdits.filter (hWritable.2 e rfl)
          (fun v hv => hFinite v (by simp [Clause.constants, hv])) hTargetView h

end

/-- What each edit of a clause preserves holds behind all clauses. -/
theorem selectAll_preserves (hEdits : Preserved limits Holds) (clauses : List Clause)
    {view view' : View} (hWritable : fieldsWritable clauses)
    (hFinite : ∀ v ∈ fieldConstants clauses, v.Finite) (hView : Holds view)
    (h : selectAll limits view clauses = .ok view') : Holds view' := by
  induction clauses generalizing view with
  | nil =>
      cases h
      exact hView
  | cons clause clauses ih =>
      rw [selectAll] at h
      obtain ⟨view₁, hClause, h⟩ := exists_of_bind_eq_ok h
      have hClauseView := selectClause_preserves hEdits clause hWritable.1
        (fun v hv => hFinite v (by simp [fieldConstants, hv])) hView hClause
      exact ih hWritable.2 (fun v hv => hFinite v (by simp [fieldConstants, hv])) hClauseView h

end View

end Hyperslab
