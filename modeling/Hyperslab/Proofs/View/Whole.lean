import Hyperslab.Proofs.Schema
import Hyperslab.Proofs.View.Edit
import Hyperslab.View.Written

/-! Which compounds a view selects whole, and which of the selected variables the request for the
view mentions: those that are reached from the top without going through a whole compound. -/
namespace Hyperslab

/-- Nothing restricts the variable of the segment. -/
def Segment.IsFree (segment : Segment) : Prop :=
  segment.filter = none ∧ ∀ slice ∈ segment.slices, slice.constrained = false

namespace View

/-- All that is below the variable is selected, and nothing restricts it. -/
def Whole (view : View) (c : VarId) : Prop :=
  ∀ v, view.schema.Below c v → ∃ segment ∈ view.segments, segment.var = v ∧ segment.IsFree

variable {view : View}

/-- The check for whole compounds finds those that are. -/
theorem isWhole_iff (hTree : view.schema.Tree) (hInStep : view.InStep) (c : VarId) :
    view.isWhole c = true ↔ view.Whole c := by
  rw [isWhole, List.all_eq_true]
  constructor
  · intro h v hBelow
    obtain ⟨f, hf, hOr⟩ := hBelow.first
    have hCheck := h f hf
    split at hCheck
    · cases hCheck
    · next segment hFind =>
        obtain ⟨hMem, rfl⟩ := hInStep.segment?_eq_some hFind
        rw [if_pos ⟨hTree.after hf, hTree.lt_size hf⟩] at hCheck
        simp only [Bool.and_eq_true, List.all_eq_true, Option.isNone_iff_eq_none,
          Bool.not_eq_true'] at hCheck
        rcases hOr with rfl | hDeep
        · exact ⟨segment, hMem, rfl, hCheck.1.1, hCheck.1.2⟩
        · have hLt := hTree.after hf
          have hSize := hTree.lt_size hf
          exact (isWhole_iff hTree hInStep segment.var).mp hCheck.2 v hDeep
  · intro h f hf
    obtain ⟨segment, hMem, rfl, hFilter, hSlices⟩ := h f (.field hf)
    have hLt := hTree.after hf
    have hSize := hTree.lt_size hf
    have hDeep : view.isWhole segment.var = true :=
      (isWhole_iff hTree hInStep segment.var).mpr fun v hv => h v (hv.head hf)
    rw [hInStep.segment?_of_mem hMem]
    simp only [hFilter, Option.isNone_none, Bool.true_and, if_pos (And.intro hLt hSize), hDeep,
      Bool.and_true, List.all_eq_true, Bool.not_eq_true']
    exact hSlices
termination_by view.schema.vars.size - c.index

/-- `v` is mentioned in the clause for `x`: every compound on the way there has its fields listed.
-/
inductive Shown (view : View) (x : VarId) : VarId → Prop where
  | self : Shown view x x
  | field {c f : VarId} (h : Shown view x c) (hField : f ∈ (view.schema.var c).fields)
      (hSelected : f ∈ view.vars) (hPart : ¬view.Whole c) : Shown view x f

theorem Shown.head {x f v : VarId} (hField : f ∈ (view.schema.var x).fields)
    (hSelected : f ∈ view.vars) (hPart : ¬view.Whole x) (h : view.Shown f v) : view.Shown x v := by
  induction h with
  | self => exact .field .self hField hSelected hPart
  | field _ hField' hSelected' hPart' ih => exact .field ih hField' hSelected' hPart'

/-- The clause for `x` mentions `x`, and what the clauses for its listed fields mention. -/
theorem shown_iff {x v : VarId} : view.Shown x v ↔ v = x ∨ ¬view.Whole x ∧
    ∃ f ∈ (view.schema.var x).fields, f ∈ view.vars ∧ view.Shown f v := by
  constructor
  · intro h
    induction h with
    | self => exact Or.inl rfl
    | field _ hField hSelected hPart ih =>
        rcases ih with rfl | ⟨hTop, g, hg, hIn, hDeep⟩
        · exact Or.inr ⟨hPart, _, hField, hSelected, .self⟩
        · exact Or.inr ⟨hTop, g, hg, hIn, .field hDeep hField hSelected hPart⟩
  · rintro (rfl | ⟨hPart, f, hField, hSelected, h⟩)
    · exact .self
    · exact h.head hField hSelected hPart

theorem Shown.selected {x v : VarId} (h : view.Shown x v) (hx : x ∈ view.vars) : v ∈ view.vars := by
  cases h with
  | self => exact hx
  | field _ _ hSelected _ => exact hSelected

/-- The way to a mentioned field leads through its compound, which is not whole. -/
theorem Shown.above (hTree : view.schema.Tree) {x c f : VarId} (h : view.Shown x f)
    (hTop : (view.schema.var x).isTopLevel = true) (hField : f ∈ (view.schema.var c).fields) :
    view.Shown x c ∧ ¬view.Whole c := by
  cases h with
  | self =>
      rw [hTree.not_isTopLevel_of_below (.field hField)] at hTop
      cases hTop
  | field hUp hField' _ hPart =>
      obtain rfl := hTree.parent_unique hField hField'
      exact ⟨hUp, hPart⟩

end View

end Hyperslab
