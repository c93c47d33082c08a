import Hyperslab.Proofs.View.InStep
import Mathlib.Data.List.Forall2

/-! What successful edits make of a view. Each edit is opened once here; what holds of the views
that requests build follows from these lemmas. -/
namespace Hyperslab

/-- The steps of a computation that ends well end well. -/
theorem exists_of_bind_eq_ok {ε α β : Type} {x : Except ε α} {f : α → Except ε β} {b : β}
    (h : x >>= f = .ok b) : ∃ a, x = .ok a ∧ f a = .ok b := by
  cases x with
  | error fault => cases h
  | ok a => exact ⟨a, rfl, h⟩

theorem map_eq_ok_iff {ε α β : Type} {x : Except ε α} {f : α → β} {b : β} :
    x.map f = .ok b ↔ ∃ a, x = .ok a ∧ b = f a := by
  cases x with
  | error fault => simp [Except.map]
  | ok a => simp [Except.map, eq_comm]

theorem eq_ok_of_mem_toOption {ε α : Type} {x : Except ε α} {a : α} (h : a ∈ x.toOption) :
    x = .ok a := by
  cases x with
  | error fault => cases h
  | ok b =>
      cases h
      rfl

/-- A list is mapped without a fault if each entry is. -/
theorem forall₂_of_mapM_eq_ok {ε α β : Type} {f : α → Except ε β} {xs : List α} {ys : List β}
    (h : xs.mapM f = .ok ys) : List.Forall₂ (fun x y => f x = .ok y) xs ys := by
  induction xs generalizing ys with
  | nil =>
      cases h
      exact .nil
  | cons x xs ih =>
      rw [List.mapM_cons] at h
      obtain ⟨y, hy, h⟩ := exists_of_bind_eq_ok h
      obtain ⟨ys', hys, h⟩ := exists_of_bind_eq_ok h
      cases h
      exact .cons hy (ih hys)

theorem exists_of_forall₂_right {α β : Type} {R : α → β → Prop} {xs : List α} {ys : List β}
    (h : List.Forall₂ R xs ys) {y : β} (hy : y ∈ ys) : ∃ x ∈ xs, R x y := by
  induction h with
  | nil => cases hy
  | cons hR _ ih =>
      rcases List.mem_cons.mp hy with rfl | hy
      · exact ⟨_, List.mem_cons_self, hR⟩
      · obtain ⟨x, hx, hR'⟩ := ih hy
        exact ⟨x, List.mem_cons_of_mem _ hx, hR'⟩

theorem forall₂_getElem? {α β : Type} {R : α → β → Prop} {xs : List α} {ys : List β}
    (h : List.Forall₂ R xs ys) {j : Nat} {x : α} {y : β} (hx : xs[j]? = some x)
    (hy : ys[j]? = some y) : R x y := by
  induction h generalizing j with
  | nil => simp at hx
  | cons hR _ ih =>
      cases j with
      | zero =>
          cases hx
          cases hy
          exact hR
      | succ j => exact ih hx hy

/-- Related entries that look alike make lists that look alike. -/
theorem map_eq_of_forall₂ {α β γ : Type} {R : α → β → Prop} {f : α → γ} {g : β → γ} {xs : List α}
    {ys : List β} (h : List.Forall₂ R xs ys) (hR : ∀ x y, R x y → g y = f x) :
    ys.map g = xs.map f := by
  induction h with
  | nil => rfl
  | cons hFirst _ ih => rw [List.map_cons, List.map_cons, ih, hR _ _ hFirst]

theorem exists_forall₂ {α β : Type} {R : α → β → Prop} (xs : List α)
    (h : ∀ x ∈ xs, ∃ y, R x y) : ∃ ys, List.Forall₂ R xs ys := by
  induction xs with
  | nil => exact ⟨[], .nil⟩
  | cons x xs ih =>
      obtain ⟨y, hy⟩ := h x (by simp)
      obtain ⟨ys, hys⟩ := ih fun x' hx' => h x' (by simp [hx'])
      exact ⟨y :: ys, .cons hy hys⟩

theorem Edited.toExcept_eq_ok {edited : Edited} {view : View} (h : edited.toExcept = .ok view) :
    edited.fault = none ∧ edited.view = view := by
  unfold toExcept at h
  split at h
  · cases h
  · next hFault =>
      cases h
      exact ⟨hFault, rfl⟩

namespace View

/-- What selecting a variable does once the compounds around it are selected. -/
theorem addVariable_ok {view view' : View} {v : VarId} {slices : List Slice}
    (h : (view.addVariable v slices).toExcept = .ok view') :
    view.isFinished = false ∧ slices.length ≤ (view.schema.var v).rank ∧
      ((v ∉ (view.selectEnclosing v).vars ∧
          view' = (view.selectEnclosing v).push (.fresh v slices)) ∨
        v ∈ (view.selectEnclosing v).vars ∧ ∃ given,
          given = (((view.selectEnclosing v).segment? v).map (·.slices)).getD [] ∧
          ((given = [] ∧
              view' = (view.selectEnclosing v).modifySegment v ({ · with slices })) ∨
            (given ≠ [] ∧ (slices = [] ∨ given = slices) ∧ view' = view.selectEnclosing v))) := by
  obtain ⟨hFault, hView⟩ := Edited.toExcept_eq_ok h
  unfold addVariable at hFault hView
  split at hFault
  · cases hFault
  · next hOpen =>
      rw [if_neg hOpen] at hView
      split at hFault
      · cases hFault
      · next hRank =>
          rw [if_neg hRank] at hView
          refine ⟨by simpa using hOpen, by omega, ?_⟩
          simp only at hFault hView
          split at hFault
          · next hSelected =>
              rw [if_pos hSelected] at hView
              refine Or.inr ⟨by simpa [selects] using hSelected, _, rfl, ?_⟩
              split at hFault
              · next hEmpty =>
                  rw [if_pos hEmpty] at hView
                  exact Or.inl ⟨List.isEmpty_iff.mp hEmpty, hView.symm⟩
              · next hSome =>
                  rw [if_neg hSome] at hView
                  split at hFault
                  · next hSame =>
                      rw [if_pos hSame] at hView
                      refine Or.inr ⟨by simpa using hSome, by simpa using hSame, hView.symm⟩
                  · cases hFault
          · next hNew =>
              rw [if_neg hNew] at hView
              exact Or.inl ⟨by simpa [selects] using hNew, hView.symm⟩

/-- A variable that has a segment gets slices if it has none, and any other gets a segment. -/
theorem InStep.addVariable_ok {view view' : View} (hInStep : view.InStep) {v : VarId}
    {slices : List Slice} (h : (view.addVariable v slices).toExcept = .ok view') :
    view.isFinished = false ∧ slices.length ≤ (view.schema.var v).rank ∧
      ((v ∉ (view.selectEnclosing v).vars ∧
          view' = (view.selectEnclosing v).push (.fresh v slices)) ∨
        ∃ segment ∈ (view.selectEnclosing v).segments, segment.var = v ∧
          ((segment.slices = [] ∧
              view' = (view.selectEnclosing v).modifySegment v ({ · with slices })) ∨
            (segment.slices ≠ [] ∧ (slices = [] ∨ segment.slices = slices) ∧
              view' = view.selectEnclosing v))) := by
  have hBase := hInStep.selectEnclosing v
  obtain ⟨hOpen, hRank, hNew | ⟨hSelected, _, rfl, hCases⟩⟩ := View.addVariable_ok h
  · exact ⟨hOpen, hRank, Or.inl hNew⟩
  · obtain ⟨segment, hMem, rfl⟩ := hBase.exists_segment hSelected
    rw [hBase.segment?_of_mem hMem] at hCases
    exact ⟨hOpen, hRank, Or.inr ⟨segment, hMem, rfl, hCases⟩⟩

theorem InStep.addVariable {view view' : View} (hInStep : view.InStep) {v : VarId}
    {slices : List Slice} (h : (view.addVariable v slices).toExcept = .ok view') :
    view'.InStep := by
  have hBase := hInStep.selectEnclosing v
  obtain ⟨_, _, ⟨hNew, rfl⟩ | ⟨_, _, _, ⟨_, rfl⟩ | ⟨_, _, rfl⟩⟩⟩ := View.addVariable_ok h
  · exact hBase.push hNew
  · exact hBase.modifySegment v fun _ => rfl
  · exact hBase

theorem addVariable_schema {view view' : View} {v : VarId} {slices : List Slice}
    (h : (view.addVariable v slices).toExcept = .ok view') : view'.schema = view.schema := by
  rw [← selectEnclosing_schema view v]
  obtain ⟨_, _, ⟨_, rfl⟩ | ⟨_, _, _, ⟨_, rfl⟩ | ⟨_, _, rfl⟩⟩⟩ := addVariable_ok h
  · rfl
  · rfl
  · rfl

/-- A variable with the slices that it is asked for with. -/
def asked (view : View) : List (VarId × List Slice) :=
  view.segments.map fun segment => (segment.var, segment.slices)

theorem mem_asked {view : View} {x : VarId} {slices : List Slice} :
    (x, slices) ∈ view.asked ↔
      ∃ segment ∈ view.segments, segment.var = x ∧ segment.slices = slices := by
  simp [asked]

/-- `view'` is `view` with the variables that `named` names, some of them with slices. The order of
the new variables is left open, and so are filters. -/
structure Grows (view view' : View) (named : VarId → List Slice → Prop) : Prop where
  schema : view'.schema = view.schema
  resizes : view'.resizes = view.resizes
  resized : view'.resized = view.resized
  references : view'.references = view.references
  vars : ∀ x, x ∈ view'.vars ↔ x ∈ view.vars ∨ ∃ slices, named x slices
  inStep : view.InStep → view'.InStep
  asked : ∀ x slices, slices ≠ [] →
    ((x, slices) ∈ view'.asked ↔ (x, slices) ∈ view.asked ∨ named x slices)

theorem Grows.refl (view : View) : Grows view view fun _ _ => False :=
  ⟨rfl, rfl, rfl, rfl, by simp, id, by simp⟩

theorem Grows.trans {view view' view'' : View} {named named' : VarId → List Slice → Prop}
    (h : Grows view view' named) (h' : Grows view' view'' named') :
    Grows view view'' fun x slices => named x slices ∨ named' x slices := by
  refine ⟨h'.schema.trans h.schema, h'.resizes.trans h.resizes, h'.resized.trans h.resized,
    h'.references.trans h.references, fun x => ?_, fun hInStep => h'.inStep (h.inStep hInStep),
    fun x slices hSome => ?_⟩
  · rw [h'.vars, h.vars, exists_or, or_assoc]
  · rw [h'.asked x slices hSome, h.asked x slices hSome, or_assoc]

theorem Grows.congr {view view' : View} {named named' : VarId → List Slice → Prop}
    (h : Grows view view' named) (hNamed : ∀ x slices, named x slices ↔ named' x slices) :
    Grows view view' named' := by
  have hEq : named = named' := by
    funext x slices
    exact propext (hNamed x slices)
  exact hEq ▸ h

/-- Giving a variable slices changes what it is asked for with, and nothing else. -/
theorem InStep.mem_asked_modifySegment {view : View} (h : view.InStep) {segment : Segment}
    {x : VarId} {slices given : List Slice} (hMem : segment ∈ view.segments) :
    (x, given) ∈ (view.modifySegment segment.var ({ · with slices })).asked ↔
      x ≠ segment.var ∧ (x, given) ∈ view.asked ∨ x = segment.var ∧ given = slices := by
  simp only [mem_asked, h.mem_modifySegment]
  constructor
  · rintro ⟨_, ⟨other, hOther, rfl⟩, hVar, hSlices⟩
    by_cases hSame : other.var = segment.var
    · rw [if_pos hSame] at hVar hSlices
      exact Or.inr ⟨hVar.symm.trans hSame, hSlices.symm⟩
    · rw [if_neg hSame] at hVar hSlices
      exact Or.inl ⟨hVar ▸ hSame, other, hOther, hVar, hSlices⟩
  · rintro (⟨hOther, other, hMem', rfl, rfl⟩ | ⟨rfl, rfl⟩)
    · exact ⟨other, ⟨other, hMem', by rw [if_neg hOther]⟩, rfl, rfl⟩
    · exact ⟨_, ⟨segment, hMem, rfl⟩, by simp, by simp⟩

/-- Selecting a variable names it with its slices. -/
theorem InStep.addVariable_grows {view view' : View} (hInStep : view.InStep) {v : VarId}
    {slices : List Slice}
    (hEnclosing : ∀ c, (view.schema.var v).owner = .compound c → c ∈ view.vars)
    (h : (view.addVariable v slices).toExcept = .ok view') :
    Grows view view' fun x given => x = v ∧ given = slices := by
  have hInStep' := hInStep.addVariable h
  obtain ⟨_, _, hCases⟩ := hInStep.addVariable_ok h
  rw [selectEnclosing_of_selected hEnclosing] at hCases
  rcases hCases with ⟨hNew, rfl⟩ | ⟨segment, hMem, rfl, hCases⟩
  · refine ⟨rfl, rfl, rfl, rfl, by simp [Segment.fresh], fun _ => hInStep', ?_⟩
    intro x given _
    rw [mem_asked, mem_asked]
    simp [View.push, Segment.fresh, or_and_right, exists_or, eq_comm]
  · -- The variable has been selected before, so nothing joins the selected variables.
    have hVars : ∀ x, x ∈ view.vars ↔
        x ∈ view.vars ∨ ∃ given, x = segment.var ∧ given = slices := by
      intro x
      refine ⟨Or.inl, fun hx => hx.elim id ?_⟩
      rintro ⟨given, rfl, _⟩
      exact hInStep.mem_vars hMem
    have hAsked {given : List Slice} (hSegment : (segment.var, given) ∈ view.asked) :
        given = segment.slices := by
      obtain ⟨other, hOther, hSame, rfl⟩ := mem_asked.mp hSegment
      rw [hInStep.segment_unique hOther hMem hSame]
    rcases hCases with ⟨hEmpty, rfl⟩ | ⟨hSome, hSame, rfl⟩
    · refine ⟨rfl, rfl, rfl, rfl, hVars, fun _ => hInStep', ?_⟩
      intro x given hGiven
      rw [hInStep.mem_asked_modifySegment hMem]
      refine or_congr_left ⟨And.right, fun hx => ⟨?_, hx⟩⟩
      rintro rfl
      exact hGiven ((hAsked hx).trans hEmpty)
    · refine ⟨rfl, rfl, rfl, rfl, hVars, id, ?_⟩
      intro x given hGiven
      refine ⟨Or.inl, fun hx => hx.elim id ?_⟩
      rintro ⟨rfl, rfl⟩
      exact mem_asked.mpr ⟨segment, hMem, rfl, hSame.resolve_left hGiven⟩

/-- The filter of a segment after one more is attached. -/
def joinFilter (earlier : Option Filter) (filter : Filter) : Filter :=
  match earlier with
  | some earlier => .conj earlier filter
  | none => filter

/-- What attaching a filter does once the sequence is selected. -/
theorem setFilter_ok {view view' : View} {v : VarId} {filter : Filter}
    (h : (view.setFilter v filter).toExcept = .ok view') :
    (view.schema.var v).isSequence = true ∧
      ∃ base, (v ∈ view.vars ∧ base = view ∨
          v ∉ view.vars ∧ (view.addVariable v []).toExcept = .ok base) ∧
        view' = base.modifySegment v fun segment =>
          { segment with filter := some (joinFilter segment.filter filter) } := by
  obtain ⟨hFault, hView⟩ := Edited.toExcept_eq_ok h
  unfold setFilter at hFault hView
  split at hFault
  · cases hFault
  · next hOpen =>
      rw [if_neg hOpen] at hView
      split at hFault
      · cases hFault
      · next hSequence =>
          rw [if_neg hSequence] at hView
          refine ⟨by simpa using hSequence, ?_⟩
          simp only at hFault hView
          by_cases hSelected : view.selects v
          · rw [if_pos hSelected] at hView
            exact ⟨view, Or.inl ⟨by simpa [selects] using hSelected, rfl⟩, hView.symm⟩
          · rw [if_neg hSelected] at hFault hView
            split at hFault
            · next hAdd =>
                rw [hAdd] at hFault
                cases hFault
            · next hAdd =>
                rw [hAdd] at hView
                refine ⟨_, Or.inr ⟨by simpa [selects] using hSelected, ?_⟩, hView.symm⟩
                rw [Edited.toExcept, hAdd]

theorem setFilter_schema {view view' : View} {v : VarId} {filter : Filter}
    (h : (view.setFilter v filter).toExcept = .ok view') : view'.schema = view.schema := by
  obtain ⟨_, base, ⟨_, rfl⟩ | ⟨_, hAdd⟩, rfl⟩ := setFilter_ok h
  · rfl
  · have hBase : base.schema = view.schema := addVariable_schema hAdd
    exact hBase

theorem InStep.setFilter_grows {view view' : View} (hInStep : view.InStep) {v : VarId}
    {filter : Filter} (hSelected : v ∈ view.vars)
    (h : (view.setFilter v filter).toExcept = .ok view') : Grows view view' fun _ _ => False := by
  obtain ⟨_, base, ⟨_, rfl⟩ | ⟨hMissing, _⟩, rfl⟩ := setFilter_ok h
  · have hAsked : (base.modifySegment v fun segment => { segment with
        filter := some (joinFilter segment.filter filter) }).asked = base.asked := by
      rw [asked, hInStep.segments_modifySegment, List.map_map]
      apply List.map_congr_left
      intro segment _
      simp only [Function.comp_apply]
      split <;> rfl
    exact ⟨rfl, rfl, rfl, rfl, fun x => (or_iff_left (by simp)).symm,
      fun _ => hInStep.modifySegment v fun _ => rfl, by simp [hAsked]⟩
  · exact absurd hSelected hMissing

theorem InStep.setFilter {view view' : View} (hInStep : view.InStep) {v : VarId} {filter : Filter}
    (h : (view.setFilter v filter).toExcept = .ok view') : view'.InStep := by
  obtain ⟨_, base, ⟨_, rfl⟩ | ⟨_, hAdd⟩, rfl⟩ := setFilter_ok h
  · exact hInStep.modifySegment v fun _ => rfl
  · exact (hInStep.addVariable hAdd).modifySegment v fun _ => rfl

end View

end Hyperslab
