import Hyperslab.Proofs.Request.Run
import Hyperslab.Proofs.Slice
import Hyperslab.Proofs.View.Resolve
import Mathlib.Data.List.Infix
import Mathlib.Logic.Relation

/-! Everything that can happen to a view. Each edit, refused or not, is a run of the few steps
below, so what these preserve holds of all views that edits lead to. -/
namespace Hyperslab

theorem Schema.Complete.after {s : Schema} (h : s.Complete) (hTree : s.Tree) {c v : VarId}
    (hOwner : (s.var v).owner = .compound c) : c.index < v.index :=
  hTree.after (h c v hOwner)

namespace View

/-- Behind the variables in `selected`, those in `added` can be selected one after the other: each
is new, and the compound around it comes before it. -/
def Joins (schema : Schema) (selected : List VarId) : List VarId → Prop
  | [] => True
  | v :: added => v ∉ selected ∧
      (∀ c, (schema.var v).owner = .compound c → c ∈ selected) ∧
        Joins schema (selected ++ [v]) added

/-- A change of a view that no edit divides further. -/
inductive Step (view : View) : View → Prop where
  | select {v : VarId} {slices : List Slice} (isNew : v ∉ view.vars)
      (enclosed : ∀ c, (view.schema.var v).owner = .compound c → c ∈ view.vars)
      (rank : slices.length ≤ (view.schema.var v).rank) : Step view (view.push (.fresh v slices))
  | slice {v : VarId} {slices : List Slice} (rank : slices.length ≤ (view.schema.var v).rank) :
      Step view (view.modifySegment v ({ · with slices }))
  | filter {v : VarId} {filter : Filter} (isSequence : (view.schema.var v).isSequence = true) :
      Step view (view.modifySegment v fun segment =>
        { segment with filter := some (joinFilter segment.filter filter) })
  | resize {d : DimId} {slice fitted : Slice}
      (isShared : (view.schema.dimension d).isShared = true)
      (fits : slice.fit (view.schema.dimension d).size = .ok fitted) :
      Step view (view.enter d fitted)
  | annotate {attributes : List (Node × String × String)} : Step view { view with attributes }
  | resolve {segments : List Segment} {references : References}
      (resolved : List.Forall₂ (fun segment resolved =>
        view.settleSegment segment = .ok resolved) view.segments segments) :
      Step view { view with segments, references := some references }

/-- One view becomes the other step by step. -/
def Steps : View → View → Prop := Relation.ReflTransGen Step

theorem Step.steps {view view' : View} (h : Step view view') : Steps view view' := .single h

/-- No step changes the schema. -/
theorem Step.schema {view view' : View} (h : Step view view') : view'.schema = view.schema := by
  cases h <;> rfl

theorem Steps.schema {view view' : View} (h : Steps view view') : view'.schema = view.schema := by
  induction h with
  | refl => rfl
  | tail _ hStep ih => exact hStep.schema.trans ih

/-- Variables that can be selected one after the other are selected in steps. -/
theorem steps_of_joins {added : List VarId} {view : View}
    (h : Joins view.schema view.vars added) : Steps view (view.pushAll added) := by
  induction added generalizing view with
  | nil =>
      rw [pushAll_nil]
      exact .refl
  | cons v added ih =>
      obtain ⟨hNew, hEnclosed, hJoins⟩ := h
      have hStep : Step view (view.push (.fresh v [])) :=
        .select hNew hEnclosed (Nat.zero_le _)
      rw [pushAll_cons]
      refine hStep.steps.trans (ih ?_)
      rw [vars_push]
      exact hJoins

/-- Whatever happens to a view, what it keeps in two places stays in step. -/
theorem InStep.step {view view' : View} (h : view.InStep) (hStep : Step view view') :
    view'.InStep := by
  cases hStep with
  | select hNew => exact h.push hNew
  | slice | filter => exact h.modifySegment _ fun _ => rfl
  | resize => exact h.enter _ _
  | annotate => exact ⟨h.vars_eq, h.nodup, h.nodup_resized, h.resized⟩
  | resolve hSettled => exact h.settle hSettled

theorem InStep.steps {view view' : View} (h : view.InStep) (hSteps : Steps view view') :
    view'.InStep := by
  induction hSteps with
  | refl => exact h
  | tail _ hStep ih => exact ih.step hStep

section Enclosing

variable {view : View} (hTree : view.schema.Tree) (hComplete : view.schema.Complete)
include hTree hComplete

/-- After the selection of enclosing compounds the innermost one is selected. -/
theorem owner_mem_selectEnclosing (v : VarId) :
    ∀ c, ((view.selectEnclosing v).schema.var v).owner = .compound c →
      c ∈ (view.selectEnclosing v).vars := by
  intro c hOwner
  rw [selectEnclosing_schema] at hOwner
  rw [selectEnclosing, hOwner]
  simp only
  split
  · next hSelected => simpa [selects] using hSelected
  · rw [if_pos (hComplete.after hTree hOwner)]
    simp [Segment.fresh]

theorem selectEnclosing_steps (v : VarId) : Steps view (view.selectEnclosing v) := by
  induction v using selectEnclosing.induct view with
  | case1 v g hOwner =>
      rw [selectEnclosing, hOwner]
      exact .refl
  | case2 v c hOwner hSelected =>
      rw [selectEnclosing, hOwner]
      simp only [hSelected, if_true]
      exact .refl
  | case3 v c hOwner hMissing hBefore ih =>
      have hOuter := owner_mem_selectEnclosing hTree hComplete c
      rw [selectEnclosing, hOwner]
      simp only [hMissing, Bool.false_eq_true, if_false, hBefore, if_true]
      refine ih.trans (Step.steps (.select (fun hc => hMissing ?_) hOuter (Nat.zero_le _)))
      simpa [selects] using mem_of_mem_selectEnclosing hc
  | case4 v c hOwner hMissing hBefore => exact absurd (hComplete.after hTree hOwner) hBefore

theorem addVariable_steps (v : VarId) (slices : List Slice) :
    Steps view (view.addVariable v slices).view := by
  have hSchema := selectEnclosing_schema view v
  have hEnclosing := selectEnclosing_steps hTree hComplete v
  unfold addVariable
  split
  · exact .refl
  · split
    · exact .refl
    · next hRank =>
        have hRank' : slices.length ≤ ((view.selectEnclosing v).schema.var v).rank := by
          rw [hSchema]
          omega
        simp only
        split
        · split
          · exact hEnclosing.trans (Step.steps (.slice hRank'))
          · split
            · exact hEnclosing
            · exact hEnclosing
        · next hNew =>
            have hOuter := owner_mem_selectEnclosing hTree hComplete v
            refine hEnclosing.trans (Step.steps (.select ?_ hOuter hRank'))
            simpa [selects] using hNew

end Enclosing

theorem Joins.append {schema : Schema} {selected added more : List VarId}
    (h : Joins schema selected added) (h' : Joins schema (selected ++ added) more) :
    Joins schema selected (added ++ more) := by
  induction added generalizing selected with
  | nil => simpa using h'
  | cons v added ih =>
      obtain ⟨hNew, hEnclosed, hJoins⟩ := h
      exact ⟨hNew, hEnclosed, ih hJoins (by simpa using h')⟩

/-- New variables without repetition can be selected in any order where the compounds around them
are selected. -/
theorem joins_of_enclosed {schema : Schema} {selected added : List VarId} (hNodup : added.Nodup)
    (h : ∀ v ∈ added, v ∉ selected ∧
      ∀ c, (schema.var v).owner = .compound c → c ∈ selected) : Joins schema selected added := by
  induction added generalizing selected with
  | nil => trivial
  | cons v added ih =>
      obtain ⟨hv, hNodup⟩ := List.nodup_cons.mp hNodup
      obtain ⟨hNew, hEnclosed⟩ := h v (by simp)
      refine ⟨hNew, hEnclosed, ih hNodup fun w hw => ?_⟩
      obtain ⟨hNew', hEnclosed'⟩ := h w (by simp [hw])
      refine ⟨?_, fun c hc => List.mem_append_left _ (hEnclosed' c hc)⟩
      rw [List.mem_append, List.mem_singleton, not_or]
      exact ⟨hNew', fun hSame => hv (hSame ▸ hw)⟩

/-- Level by level, what is missing can be selected behind what is there. -/
theorem missingBelow_joins {schema : Schema} (hTree : schema.Tree) (depth : Nat)
    {selected level : List VarId} (hLevel : ∀ c ∈ level, c ∈ selected) :
    Joins schema selected (missingBelow schema depth selected level) := by
  induction depth generalizing selected level with
  | zero => trivial
  | succ depth ih =>
      rw [missingBelow]
      split
      · trivial
      · refine Joins.append (joins_of_enclosed (nodup_eraseDups _) fun v hv => ?_) (ih ?_)
        · obtain ⟨⟨c, hc, hField⟩, hNew⟩ := mem_missingFields.mp hv
          refine ⟨hNew, fun c' hOwner => ?_⟩
          rw [hTree.owner hField] at hOwner
          exact Owner.compound.inj hOwner ▸ hLevel c hc
        · intro c hc
          exact List.mem_append_right _ (List.mem_filter.mp hc).1

theorem InStep.expanded_steps {view : View} (h : view.InStep) (hTree : view.schema.Tree) :
    Steps view view.expanded :=
  steps_of_joins (missingBelow_joins hTree _ fun _ hc => (h.mem_bareCompounds.mp hc).1)

theorem setFilter_steps {view : View} (hTree : view.schema.Tree)
    (hComplete : view.schema.Complete) (v : VarId) (filter : Filter) :
    Steps view (view.setFilter v filter).view := by
  have hSelect :
      Steps view (if view.selects v then Edited.done view else view.addVariable v []).view := by
    split
    · exact .refl
    · exact addVariable_steps hTree hComplete v []
  unfold setFilter
  split
  · exact .refl
  · split
    · exact .refl
    · next hSequence =>
        simp only
        split
        · exact hSelect
        · refine hSelect.trans (Step.steps (.filter ?_))
          rw [hSelect.schema]
          simpa using hSequence

theorem addResize_steps (view : View) (d : DimId) (slice : Slice) :
    Steps view (view.addResize d slice).view := by
  unfold addResize
  simp only
  split
  · exact .refl
  · split
    · exact .refl
    · next hShared =>
        split
        · next hFit => exact Step.steps (.resize (by simpa using hShared) hFit)
        · exact .refl

theorem InStep.finish_steps {view : View} (h : view.InStep) (hTree : view.schema.Tree) :
    Steps view view.finish.view := by
  unfold View.finish
  split
  · exact .refl
  · simp only
    split
    · next hResolved =>
        exact (h.expanded_steps hTree).trans
          (Step.steps (.resolve (settled_of_mapM hResolved)))
    · exact h.expanded_steps hTree

/-- An edit is a run of steps, even if it is refused on the way. -/
theorem InStep.apply_steps {view : View} (h : view.InStep) (hTree : view.schema.Tree)
    (hComplete : view.schema.Complete) (edit : Edit) : Steps view (view.apply edit).view := by
  cases edit with
  | addVariable v slices => exact addVariable_steps hTree hComplete v slices
  | addResize d slice => exact addResize_steps view d slice
  | setFilter v filter => exact setFilter_steps hTree hComplete v filter
  | addAttribute node name value =>
      simp only [apply, addAttribute]
      split
      · exact .refl
      · exact Step.steps .annotate
  | expand =>
      simp only [apply, expand]
      split
      · exact .refl
      · exact h.expanded_steps hTree
  | finish => exact h.finish_steps hTree

/-- The view after some edits, of which each may be refused. -/
def applyAll (view : View) (edits : List Edit) : View :=
  edits.foldl (fun view edit => (view.apply edit).view) view

theorem InStep.applyAll_steps {view : View} (h : view.InStep) (hTree : view.schema.Tree)
    (hComplete : view.schema.Complete) (edits : List Edit) : Steps view (view.applyAll edits) := by
  induction edits generalizing view with
  | nil => exact .refl
  | cons edit edits ih =>
      have hEdit := h.apply_steps hTree hComplete edit
      refine hEdit.trans (ih (h.steps hEdit) ?_ ?_)
      · rw [hEdit.schema]
        exact hTree
      · rw [hEdit.schema]
        exact hComplete

theorem addResizes_steps {view view' : View} (resizes : List Resize)
    (h : view.addResizes resizes = .ok view') : Steps view view' := by
  induction resizes generalizing view with
  | nil =>
      cases h
      exact .refl
  | cons resize resizes ih =>
      rw [addResizes] at h
      split at h
      · cases h
      · split at h
        · cases h
        · next d _ _ fitted _ =>
            obtain ⟨view₁, hResize, h⟩ := exists_of_bind_eq_ok h
            obtain ⟨_, rfl⟩ := Edited.toExcept_eq_ok hResize
            exact (addResize_steps view d fitted).trans (ih h)

theorem steps_preserved {limits : Limits} {start : View} (hTree : start.schema.Tree)
    (hComplete : start.schema.Complete) : Preserved limits (Steps start) := by
  refine ⟨fun hSteps hAdd => ?_, fun _ _ hSteps hFilter => ?_⟩
  · obtain ⟨_, rfl⟩ := Edited.toExcept_eq_ok hAdd
    refine hSteps.trans (addVariable_steps ?_ ?_ _ _)
    · rw [hSteps.schema]
      exact hTree
    · rw [hSteps.schema]
      exact hComplete
  · simp only [addFilter] at hFilter
    split at hFilter
    · obtain ⟨filter, _, hSet⟩ := exists_of_bind_eq_ok hFilter
      obtain ⟨_, rfl⟩ := Edited.toExcept_eq_ok hSet
      refine hSteps.trans (setFilter_steps ?_ ?_ _ _)
      · rw [hSteps.schema]
        exact hTree
      · rw [hSteps.schema]
        exact hComplete
    · cases hFilter

end View

/-- An accepted request is a run of steps from the empty view. -/
theorem Request.compile_steps {request : Request} {limits : Limits} {schema : Schema} {view : View}
    (hTree : schema.Tree) (hComplete : schema.Complete) (hWritable : request.Writable)
    (hFinite : ∀ v ∈ request.constants, v.Finite) (h : request.compile limits schema = .ok view) :
    View.Steps (View.empty schema) view := by
  obtain ⟨resized, selected, hResized, hSelected, hFinish⟩ := compile_ok h
  have hSteps : View.Steps (View.empty schema) selected :=
    View.selectAll_preserves (View.steps_preserved hTree hComplete) _ hWritable.2 hFinite
      (View.addResizes_steps _ hResized) hSelected
  obtain ⟨_, rfl⟩ := Edited.toExcept_eq_ok hFinish
  refine hSteps.trans (((View.inStep_empty schema).steps hSteps).finish_steps ?_)
  rw [hSteps.schema]
  exact hTree

end Hyperslab
