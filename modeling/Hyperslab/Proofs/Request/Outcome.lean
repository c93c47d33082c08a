import Hyperslab.Proofs.Request.Mention
import Hyperslab.Proofs.Request.Run
import Hyperslab.Proofs.View.Resolve

/-! What an accepted request makes of the empty view: which variables are selected, which slices
each of them is asked for with, and what has become of these. -/
namespace Hyperslab

/-- The request names a top-level compound and none of its fields. -/
structure Request.NamesBare (request : Request) (schema : Schema) (c : VarId) : Prop where
  names : request.Names schema c
  isTopLevel : (schema.var c).isTopLevel = true
  isCompound : (schema.var c).isCompound = true
  fields : ∀ f ∈ (schema.var c).fields, ¬request.Names schema f

variable {request : Request} {limits : Limits} {schema : Schema} {view : View}

/-- On the way down to a named variable every compound names a field. -/
theorem Request.Names.of_below (hTree : schema.Tree) {c v : VarId} (h : request.Names schema v)
    (hBelow : schema.Below c v) : ∃ f ∈ (schema.var c).fields, request.Names schema f := by
  induction hBelow with
  | field hField => exact ⟨_, hField, h⟩
  | step _ hField ih => exact ih (h.enclosing hTree hField)

/-- The dimensions of a variable with the slices that it is asked for with, the last ones being
whole. -/
def Schema.positions (schema : Schema) (v : VarId) (asked : List Slice) : List (Slice × DimId) :=
  (asked ++ List.replicate ((schema.var v).rank - asked.length) Slice.whole).zip (schema.var v).dims

theorem Schema.getElem?_positions {schema : Schema} {v : VarId} {j : Nat} {d : DimId}
    (h : (schema.var v).dims[j]? = some d) (asked : List Slice) :
    (schema.positions v asked)[j]? = some (asked[j]?.getD Slice.whole, d) := by
  have hRank : j < (schema.var v).rank := (List.getElem?_eq_some_iff.mp h).1
  have hAsked : (asked ++ List.replicate ((schema.var v).rank - asked.length) Slice.whole)[j]? =
      some (asked[j]?.getD Slice.whole) := by
    rw [List.getElem?_append]
    split
    · next hLt => simp [hLt]
    · next hGe =>
        rw [List.getElem?_replicate, if_pos (by omega), List.getElem?_eq_none (by omega)]
        rfl
  rw [positions, List.getElem?_zip_eq_some]
  exact ⟨hAsked, h⟩

/-- The finished segment of a variable that is asked for with these slices. -/
def View.Resolved (view : View) (asked : List Slice) (segment : Segment) : Prop :=
  ∃ extents, segment.HasExtents extents ∧
    view.Fixes (view.schema.positions segment.var asked) extents

/-- The view of a request. A variable that is not named has no filter and is asked for whole. -/
structure Request.Outcome (request : Request) (schema : Schema) (view : View) : Prop where
  schema_eq : view.schema = schema
  finished : view.isFinished = true
  resizes : (View.empty schema).addResizes request.resizes =
    .ok { View.empty schema with resizes := view.resizes, resized := view.resized }
  inStep : view.InStep
  vars : ∀ v, v ∈ view.vars ↔
    request.Names schema v ∨ ∃ c, request.NamesBare schema c ∧ schema.Below c v
  segments : ∀ segment ∈ view.segments, ∃ asked,
    (∀ given, given ≠ [] → (request.Mentions schema segment.var given ↔ given = asked)) ∧
      (¬request.Names schema segment.var → segment.filter = none) ∧ view.Resolved asked segment

/-- The open view that has been made of the empty one by the clauses of a request. -/
structure View.SelectedBy (selected : View) (request : Request) (schema : Schema)
    (resizes : List (DimId × Slice)) (resized : List (DimId × Dimension)) : Prop where
  grows : Grows { empty schema with resizes, resized } selected (request.Mentions schema)
  inStep : selected.InStep

/-- Before a view is finished it selects what the request mentions. -/
theorem Request.Finishes.selectedBy (hTree : schema.Tree)
    (h : request.Finishes limits schema view) : ∃ resizes resized, ∃ selected : View,
      (View.empty schema).addResizes request.resizes =
          .ok { View.empty schema with resizes, resized } ∧
        selected.SelectedBy request schema resizes resized ∧
          selected.finish.toExcept = .ok view := by
  obtain ⟨entered, selected, hEntered, hSelected, hFinish⟩ := h
  have hInStep := (View.inStep_empty schema).addResizes _ hEntered
  obtain ⟨resizes, resized, rfl⟩ := View.addResizes_ok _ hEntered
  have hGrows := View.selectAll_grows hTree _ rfl hInStep hSelected
  exact ⟨resizes, resized, selected, hEntered, ⟨hGrows, hGrows.inStep hInStep⟩, hFinish⟩

namespace View

variable {selected : View} {resizes : List (DimId × Slice)} {resized : List (DimId × Dimension)}

theorem SelectedBy.mem_vars (h : selected.SelectedBy request schema resizes resized) {v : VarId} :
    v ∈ selected.vars ↔ request.Names schema v := by
  rw [h.grows.vars]
  simp [empty, Request.Names]

theorem SelectedBy.mem_asked (h : selected.SelectedBy request schema resizes resized) {v : VarId}
    {given : List Slice} (hSome : given ≠ []) :
    (v, given) ∈ selected.asked ↔ request.Mentions schema v given := by
  rw [h.grows.asked v given hSome]
  simp [empty, asked]

theorem SelectedBy.mem_bareCompounds (h : selected.SelectedBy request schema resizes resized)
    {c : VarId} : c ∈ selected.bareCompounds ↔ request.NamesBare schema c := by
  rw [h.inStep.mem_bareCompounds, h.grows.schema]
  simp only [h.mem_vars]
  exact ⟨fun ⟨hNames, hTop, hCompound, hFields⟩ => ⟨hNames, hTop, hCompound, hFields⟩,
    fun h => ⟨h.names, h.isTopLevel, h.isCompound, h.fields⟩⟩

/-- Expanding adds what is below the bare compounds of the request. -/
theorem SelectedBy.expanded (hTree : schema.Tree)
    (h : selected.SelectedBy request schema resizes resized) :
    ∀ v, v ∈ selected.expanded.vars ↔
      request.Names schema v ∨ ∃ c, request.NamesBare schema c ∧ schema.Below c v := by
  have hSchema : selected.schema = schema := h.grows.schema
  have hClosed : ∀ c v, v ∈ (selected.schema.var c).fields → v ∈ selected.vars →
      c ∈ selected.vars := by
    intro c v hField hv
    rw [hSchema] at hField
    exact h.mem_vars.mpr ((h.mem_vars.mp hv).enclosing hTree hField)
  intro v
  rw [h.inStep.mem_expanded_vars (hSchema ▸ hTree) hClosed, h.mem_vars, hSchema]
  simp only [h.mem_bareCompounds]

/-- The segments of an expanded view are those that it had, and new ones. -/
theorem mem_expanded {segment : Segment} (h : segment ∈ view.expanded.segments) :
    segment ∈ view.segments ∨ segment.slices = [] ∧ segment.filter = none := by
  rcases List.mem_append.mp h with hOld | hNew
  · exact Or.inl hOld
  · obtain ⟨_, _, rfl⟩ := List.mem_map.mp hNew
    exact Or.inr ⟨rfl, rfl⟩

/-- A segment of the expanded view has the slices that the request mentions. -/
theorem SelectedBy.slices (h : selected.SelectedBy request schema resizes resized)
    {segment : Segment} (hSegment : segment ∈ selected.expanded.segments) {given : List Slice}
    (hSome : given ≠ []) : request.Mentions schema segment.var given ↔ given = segment.slices := by
  rw [← h.mem_asked hSome, View.mem_asked]
  constructor
  · rintro ⟨other, hOther, hSame, rfl⟩
    have hIn : other ∈ selected.expanded.segments := List.mem_append_left _ hOther
    rw [h.inStep.expanded.segment_unique hIn hSegment hSame]
  · rintro rfl
    rcases mem_expanded hSegment with hOld | ⟨hNone, _⟩
    · exact ⟨segment, hOld, rfl, rfl⟩
    · exact absurd hNone hSome

end View

theorem Request.Finishes.outcome (hTree : schema.Tree) (h : request.Finishes limits schema view) :
    request.Outcome schema view := by
  obtain ⟨resizes, resized, selected, hEntered, hSelected, hFinish⟩ := h.selectedBy hTree
  have hVars := hSelected.expanded hTree
  rw [← View.finish_vars hFinish] at hVars
  have hInStep := hSelected.inStep.finish hFinish
  obtain ⟨_, segments, hSegments, rfl⟩ := View.finish_ok hFinish
  have hResizes : selected.resizes = resizes := hSelected.grows.resizes
  have hResized : selected.resized = resized := hSelected.grows.resized
  refine ⟨hSelected.grows.schema, rfl, hResizes ▸ hResized ▸ hEntered, hInStep, hVars, ?_⟩
  intro segment hSegment
  obtain ⟨before, hBefore, hSettle⟩ := exists_of_forall₂_right hSegments hSegment
  obtain ⟨hVar, hFilter, extents, hHas, hFixes⟩ := View.settleSegment_ok hSettle
  rw [hVar, hFilter]
  refine ⟨before.slices, fun given hSome => hSelected.slices hBefore hSome, fun hNot => ?_,
    extents, hHas, ?_⟩
  · rcases View.mem_expanded hBefore with hOld | ⟨_, hNone⟩
    · exact absurd (hSelected.mem_vars.mp (hSelected.inStep.mem_vars hOld)) hNot
    · exact hNone
  · rw [hVar]
    exact hFixes

theorem Request.outcome (hTree : schema.Tree) (h : request.compile limits schema = .ok view) :
    request.Outcome schema view :=
  (compile_ok h).outcome hTree

end Hyperslab
