import Hyperslab.Proofs.Filter.Bound
import Hyperslab.Proofs.Request.Outcome
import Hyperslab.Proofs.Request.Resizing

/-! The view of an accepted request spells its variables so that they are found again. What it lists
has been named by the request; all that expanding has added is below a whole compound. -/
namespace Hyperslab

open Grammar

theorem fieldsWritable_mem {clauses : List Clause} (h : fieldsWritable clauses) {clause : Clause}
    (hMem : clause ∈ clauses) : clause.Writable := by
  induction clauses with
  | nil => cases hMem
  | cons first clauses ih =>
      rcases List.mem_cons.mp hMem with rfl | hMem
      · exact h.1
      · exact ih h.2 hMem

variable {request : Request} {limits : Limits} {schema : Schema} {view : View}

/-- A named variable is what some name that is not empty stands for. -/
theorem Selector.Mentions.denotes {scope : Option VarId} {s : Selector} {v : VarId}
    {given : List Slice} (h : s.Mentions schema scope v given) (hWritable : s.Writable) :
    ∃ around name, name ≠ "" ∧ schema.Denotes around name v := by
  induction h with
  | self hSelf => exact ⟨_, _, hWritable.1, hSelf⟩
  | child _ _ ih => exact ih hWritable.2.2.2.1
  | @field _ _ _ _ _ _ clause _ _ _ hMem _ ih =>
      cases clause with
      | mk target filter => exact ih (fieldsWritable_mem hWritable.2.2.2.2 hMem).1

theorem Request.Names.denotes {v : VarId} (h : request.Names schema v)
    (hWritable : request.Writable) : ∃ around name, name ≠ "" ∧ schema.Denotes around name v := by
  obtain ⟨slices, clause, hMem, hMentions⟩ := h
  cases clause with
  | mk target filter => exact hMentions.denotes (fieldsWritable_mem hWritable.2 hMem).1

/-- A name that stands for a variable may be replaced by the one that a clause for it uses. -/
theorem Schema.Denotes.clauseName (hTree : view.schema.Tree) {around : Option VarId} {name : String}
    {v : VarId} (hName : name ≠ "") (h : view.schema.Denotes around name v) :
    view.clauseName v ≠ "" ∧ view.schema.Denotes (view.scope v) (view.clauseName v) v := by
  cases h with
  | topLevel hMem hOwn hOnly =>
      have hTop : (view.schema.var v).isTopLevel = true := (List.mem_filter.mp hMem).2
      rw [View.clauseName, if_pos hTop, View.scope_of_isTopLevel hTop, hOwn]
      refine ⟨absolute_ne_empty name, .topLevel hMem ?_ ?_⟩
      · rw [hOwn, absolute_absolute]
      · rw [absolute_absolute]
        exact hOnly
  | @field c _ _ before after hFields hOwn hFirst =>
      have hMem : v ∈ (view.schema.var c).fields := by simp [hFields]
      rw [View.clauseName, if_neg (by simp [hTree.not_isTopLevel_of_below (.field hMem)]),
        View.scope_of_mem hTree hMem, hOwn]
      exact ⟨hName, .field hFields hOwn hFirst⟩

/-- Whole slices are resolved to slices without constraint. -/
theorem View.Resolved.unconstrained {segment : Segment} (h : view.Resolved [] segment) :
    ∀ slice ∈ segment.slices, slice.constrained = false := by
  obtain ⟨extents, hHas, hFixes⟩ := h
  rw [hHas.slices]
  intro slice hSlice
  obtain ⟨extent, hExtent, rfl⟩ := List.mem_map.mp hSlice
  obtain ⟨position, hPosition, hResolve⟩ := exists_of_forall₂_right hFixes hExtent
  have hWhole : position.1 = Slice.whole := by
    have hMem := (List.of_mem_zip hPosition).1
    rw [List.nil_append] at hMem
    exact List.eq_of_mem_replicate hMem
  rw [hWhole] at hResolve
  cases hResolve
  rfl

namespace Request.Outcome

/-- What is not named has been added by expanding, and nothing restricts it. -/
theorem isFree (h : request.Outcome schema view) {segment : Segment}
    (hMem : segment ∈ view.segments) (hNot : ¬request.Names schema segment.var) :
    segment.IsFree := by
  obtain ⟨asked, hAsked, hFilter, hResolved⟩ := h.segments segment hMem
  by_cases hSome : asked = []
  · subst hSome
    exact ⟨hFilter hNot, hResolved.unconstrained⟩
  · exact absurd ⟨asked, (hAsked asked hSome).mpr rfl⟩ hNot

/-- A bare compound is selected whole, and so is all below it. -/
theorem whole_of_bare (hTree : schema.Tree) (h : request.Outcome schema view) {c : VarId}
    (hBare : request.NamesBare schema c) : view.Whole c := by
  intro v hBelow
  rw [h.schema_eq] at hBelow
  have hSelected := (h.vars v).mpr (Or.inr ⟨c, hBare, hBelow⟩)
  obtain ⟨segment, hMem, rfl⟩ := h.inStep.exists_segment hSelected
  refine ⟨segment, hMem, rfl, h.isFree hMem ?_⟩
  intro hNames
  obtain ⟨f, hf, hNamed⟩ := hNames.of_below hTree hBelow
  exact hBare.fields f hf hNamed

end Request.Outcome

theorem View.Whole.below {c d : VarId} (h : view.Whole c) (hBelow : view.schema.Below c d) :
    view.Whole d :=
  fun v hv => h v (hBelow.trans hv)

namespace Request.Outcome

/-- What a view lists has been named. -/
theorem names_of_listed (hTree : schema.Tree) (h : request.Outcome schema view) {v : VarId}
    (hListed : view.Listed v) : request.Names schema v := by
  obtain ⟨hSelected, hPlace⟩ := hListed
  rw [h.schema_eq] at hPlace
  rcases (h.vars v).mp hSelected with hNames | ⟨c, hBare, hBelow⟩
  · exact hNames
  · rcases hPlace with hTop | ⟨d, hField, hPart⟩
    · rw [hTree.not_isTopLevel_of_below hBelow] at hTop
      cases hTop
    · have hWhole := h.whole_of_bare hTree hBare
      rcases hTree.below_parent hField hBelow with rfl | hAbove
      · exact absurd hWhole hPart
      · exact absurd (hWhole.below (h.schema_eq ▸ hAbove)) hPart

/-- The compound around a selected field is selected. -/
theorem exists_parent (hTree : schema.Tree) (h : request.Outcome schema view)
    (hWritable : request.Writable) {v : VarId} (hSelected : v ∈ view.vars)
    (hNested : (schema.var v).isTopLevel = false) :
    ∃ c ∈ view.vars, v ∈ (schema.var c).fields := by
  rcases (h.vars v).mp hSelected with hNames | ⟨c, hBare, hBelow⟩
  · obtain ⟨around, name, _, hDenotes⟩ := hNames.denotes hWritable
    cases around with
    | none =>
        rw [hDenotes.isTopLevel] at hNested
        cases hNested
    | some c =>
        have hField := hDenotes.mem_fields
        exact ⟨c, (h.vars c).mpr (Or.inl (hNames.enclosing hTree hField)), hField⟩
  · cases hBelow with
    | field hField => exact ⟨c, (h.vars c).mpr (Or.inl hBare.names), hField⟩
    | @step f _ hUp hField => exact ⟨f, (h.vars f).mpr (Or.inr ⟨c, hBare, hUp⟩), hField⟩

/-- The outermost compound around a selected variable is selected. -/
theorem exists_top (hTree : schema.Tree) (h : request.Outcome schema view)
    (hWritable : request.Writable) (v : VarId) (hSelected : v ∈ view.vars) : view.tops ≠ [] := by
  cases hTop : (schema.var v).isTopLevel with
  | true => exact List.ne_nil_of_mem (View.mem_tops.mpr ⟨hSelected, h.schema_eq ▸ hTop⟩)
  | false =>
      obtain ⟨c, hc, hField⟩ := h.exists_parent hTree hWritable hSelected hTop
      have hAfter := hTree.after hField
      exact exists_top hTree h hWritable c hc
termination_by v.index

theorem tops_eq_nil_iff (hTree : schema.Tree) (h : request.Outcome schema view)
    (hWritable : request.Writable) : view.tops = [] ↔ view.vars = [] := by
  constructor
  · intro hNone
    by_contra hSome
    obtain ⟨v, hv⟩ := List.exists_mem_of_ne_nil _ hSome
    exact h.exists_top hTree hWritable v hv hNone
  · intro hNone
    rw [View.tops, hNone, List.filter_nil]

/-- The resizes of the view are those of the request. -/
theorem entered (h : request.Outcome schema view) (hWritable : request.Writable) :
    View.Entered schema view.resizes := by
  refine View.addResizes_entered request.resizes (fun r hr => (hWritable.1 r hr).2) ?_ h.resizes
  exact ⟨by simp [View.empty], by simp [View.empty], by simp [View.empty]⟩

/-- The view is finished, so it has a text. -/
theorem requestText (h : request.Outcome schema view) :
    view.requestText = .ok (.ofList view.requestChars) := by
  rw [View.requestText, View.whenFinished, if_pos h.finished]

/-- The view of an accepted text spells its variables so that they are found again. Its filters have
texts of the grammar, whatever their constants are read as. -/
theorem spelled {literal : Value → List Char → Prop}
    (hLiteral : ∀ v : Value, v.Finite → ∃ v', literal v' v.chars) (hTree : schema.Tree)
    (h : request.Outcome schema view) (hWritable : request.Writable)
    (hBound : view.FiltersBound limits schema) : view.Spelled literal := by
  have hTreeView : view.schema.Tree := h.schema_eq ▸ hTree
  refine ⟨hTreeView, h.inStep, ?_, ?_⟩
  · intro v hListed
    obtain ⟨around, name, hName, hDenotes⟩ := (h.names_of_listed hTree hListed).denotes hWritable
    rw [← h.schema_eq] at hDenotes
    exact hDenotes.clauseName hTreeView hName
  · intro segment hMem filter hFilter
    exact (hBound.2 segment hMem filter hFilter).exists_text hLiteral

end Request.Outcome

end Hyperslab
