import Hyperslab.Proofs.Schema
import Hyperslab.Proofs.View.Edit

/-! What expanding a view selects: all that is below its bare compounds, each variable once. The
levels of the work list are antichains, so no level meets an earlier one. -/
namespace Hyperslab.View

open Schema (Tree Below)

theorem nodup_eraseDups {α : Type} [BEq α] [LawfulBEq α] (xs : List α) : xs.eraseDups.Nodup := by
  cases xs with
  | nil => simp
  | cons x xs =>
      rw [List.eraseDups_cons, List.nodup_cons]
      exact ⟨by simp [List.mem_eraseDups], nodup_eraseDups _⟩
termination_by xs.length
decreasing_by
  have h := List.length_filter_le (fun y => !y == x) xs
  simp only [List.length_cons]
  omega

/-- Enter a value behind the others, unless it is among them. -/
def enterOnce {α : Type} [DecidableEq α] (found : List α) (x : α) : List α :=
  if x ∈ found then found else found ++ [x]

/-- Entering one by one leaves the first of equal values, and none that were there before. -/
theorem foldl_enterOnce {α : Type} [DecidableEq α] (xs found : List α) :
    xs.foldl enterOnce found = found ++ (xs.filter (· ∉ found)).eraseDups := by
  induction xs generalizing found with
  | nil => simp
  | cons x xs ih =>
      rw [List.foldl_cons, ih, enterOnce]
      by_cases hFound : x ∈ found
      · simp [hFound]
      · have hLater : xs.filter (· ∉ found ++ [x]) =
            (xs.filter (· ∉ found)).filter fun y => !y == x := by
          rw [List.filter_filter]
          apply List.filter_congr
          intro y _
          rw [Bool.eq_iff_iff]
          simp [and_comm]
        rw [if_neg hFound, hLater, List.filter_cons_of_pos (by simpa using hFound),
          List.eraseDups_cons, List.append_assoc, List.singleton_append]

theorem mem_foldl_enterOnce {α : Type} [DecidableEq α] {xs found : List α} {x : α} :
    x ∈ xs.foldl enterOnce found ↔ x ∈ found ∨ x ∈ xs := by
  rw [foldl_enterOnce, List.mem_append, List.mem_eraseDups, List.mem_filter]
  by_cases hFound : x ∈ found <;> simp [hFound]

theorem nodup_foldl_enterOnce {α : Type} [DecidableEq α] {found : List α} (xs : List α)
    (h : found.Nodup) : (xs.foldl enterOnce found).Nodup := by
  rw [foldl_enterOnce]
  refine List.nodup_append.mpr ⟨h, nodup_eraseDups _, ?_⟩
  rintro x hx _ hx' rfl
  have hNew := (List.mem_filter.mp (List.mem_eraseDups.mp hx')).2
  simp [hx] at hNew

variable {schema : Schema} {selected level : List VarId}

theorem mem_missingFields {v : VarId} : v ∈ missingFields schema selected level ↔
    (∃ c ∈ level, v ∈ (schema.var c).fields) ∧ v ∉ selected := by
  simp [missingFields, List.mem_eraseDups]

/-- Nothing below a level is selected, and no member of the level is below another. -/
structure Untouched (schema : Schema) (selected level : List VarId) : Prop where
  below : ∀ c ∈ level, ∀ v, schema.Below c v → v ∉ selected
  antichain : ∀ c ∈ level, ∀ c' ∈ level, ¬schema.Below c c'

theorem Untouched.mem_missingFields (h : Untouched schema selected level) {v : VarId} :
    v ∈ missingFields schema selected level ↔ ∃ c ∈ level, v ∈ (schema.var c).fields := by
  rw [View.mem_missingFields]
  refine ⟨And.left, fun hv => ⟨hv, ?_⟩⟩
  obtain ⟨c, hc, hv⟩ := hv
  exact h.below c hc v (.field hv)

/-- The compounds among the fields of a level are the next level. -/
theorem Untouched.next (hTree : schema.Tree) (h : Untouched schema selected level) :
    Untouched schema (selected ++ missingFields schema selected level)
      ((missingFields schema selected level).filter fun v => (schema.var v).isCompound) := by
  have hUp {f v : VarId} (hf : f ∈ missingFields schema selected level)
      (hBelow : schema.Below f v) :
      ∃ c ∈ level, f ∈ (schema.var c).fields ∧ schema.Below c v := by
    obtain ⟨c, hc, hField⟩ := h.mem_missingFields.mp hf
    exact ⟨c, hc, hField, hBelow.head hField⟩
  have hApart {f v : VarId} (hf : f ∈ missingFields schema selected level)
      (hv : v ∈ missingFields schema selected level) : ¬schema.Below f v := by
    intro hBelow
    obtain ⟨c, hc, hField⟩ := h.mem_missingFields.mp hf
    obtain ⟨c', hc', hField'⟩ := h.mem_missingFields.mp hv
    apply h.antichain c hc c' hc'
    rcases hTree.below_parent hField' hBelow with rfl | hBelow
    · exact .field hField
    · exact hBelow.head hField
  constructor
  · intro f hf v hBelow hv
    have hf := (List.mem_filter.mp hf).1
    rcases List.mem_append.mp hv with hv | hv
    · obtain ⟨c, hc, _, hBelow⟩ := hUp hf hBelow
      exact h.below c hc v hBelow hv
    · exact hApart hf hv hBelow
  · intro f hf f' hf'
    exact hApart (List.mem_filter.mp hf).1 (List.mem_filter.mp hf').1

/-- Behind the last variable there are no fields. -/
theorem Untouched.missingFields_eq_nil (hTree : schema.Tree) (h : Untouched schema selected level)
    (hEnd : ∀ c ∈ level, schema.vars.size ≤ c.index) :
    missingFields schema selected level = [] := by
  apply List.eq_nil_iff_forall_not_mem.mpr
  intro f hf
  obtain ⟨c, hc, hField⟩ := h.mem_missingFields.mp hf
  have hSize := hEnd c hc
  have hAfter := hTree.after hField
  have hLt := hTree.lt_size hField
  omega

/-- Fields come behind their compounds, so each level leaves fewer variables for the next one. -/
theorem Untouched.next_depth (hTree : schema.Tree) (h : Untouched schema selected level)
    {depth : Nat} (hDepth : ∀ c ∈ level, schema.vars.size ≤ depth + 1 + c.index) :
    ∀ f ∈ (missingFields schema selected level).filter (fun v => (schema.var v).isCompound),
      schema.vars.size ≤ depth + f.index := by
  intro f hf
  obtain ⟨c, hc, hField⟩ := h.mem_missingFields.mp (List.mem_filter.mp hf).1
  have hSize := hDepth c hc
  have hAfter := hTree.after hField
  omega

/-- What is below a level is a field of it that is missing, or below such a field. -/
theorem Untouched.below_iff (hTree : schema.Tree) (h : Untouched schema selected level)
    {v : VarId} : (∃ c ∈ level, schema.Below c v) ↔ v ∈ missingFields schema selected level ∨
      ∃ f ∈ (missingFields schema selected level).filter fun f => (schema.var f).isCompound,
        schema.Below f v := by
  rw [h.mem_missingFields]
  constructor
  · rintro ⟨c, hc, hBelow⟩
    obtain ⟨f, hf, rfl | hBelow⟩ := hBelow.first
    · exact Or.inl ⟨c, hc, hf⟩
    · refine Or.inr ⟨f, List.mem_filter.mpr ⟨h.mem_missingFields.mpr ⟨c, hc, hf⟩, ?_⟩, hBelow⟩
      obtain ⟨g, hg, _⟩ := hBelow.first
      exact hTree.isCompound hg
  · rintro (⟨c, hc, hv⟩ | ⟨f, hf, hBelow⟩)
    · exact ⟨c, hc, .field hv⟩
    · obtain ⟨c, hc, hField⟩ := h.mem_missingFields.mp (List.mem_filter.mp hf).1
      exact ⟨c, hc, hBelow.head hField⟩

/-- The work list reaches exactly what is below its first level, and reaches it once. -/
theorem missingBelow_spec (hTree : schema.Tree) (depth : Nat)
    (h : Untouched schema selected level)
    (hDepth : ∀ c ∈ level, schema.vars.size ≤ depth + c.index) :
    (∀ v, v ∈ missingBelow schema depth selected level ↔ ∃ c ∈ level, schema.Below c v) ∧
      (missingBelow schema depth selected level).Nodup := by
  induction depth generalizing selected level with
  | zero =>
      have hNone := h.missingFields_eq_nil hTree fun c hc => Nat.zero_add c.index ▸ hDepth c hc
      simp [missingBelow, h.below_iff hTree, hNone]
  | succ depth ih =>
      have hNext := h.next hTree
      obtain ⟨hMem, hNodup⟩ := ih hNext (h.next_depth hTree hDepth)
      rw [missingBelow]
      split
      · next hEmpty => simp [h.below_iff hTree, List.isEmpty_iff.mp hEmpty]
      · constructor
        · intro v
          rw [List.mem_append, hMem, h.below_iff hTree]
        · refine List.nodup_append.mpr ⟨nodup_eraseDups _, hNodup, ?_⟩
          rintro f hf g hg rfl
          obtain ⟨c, hc, hBelow⟩ := (hMem f).mp hg
          exact hNext.below c hc f hBelow (List.mem_append_right _ hf)

/-- Nothing that is selected is found missing, and nothing is found twice. -/
theorem nodup_missingBelow (depth : Nat) (hNodup : selected.Nodup) :
    (selected ++ missingBelow schema depth selected level).Nodup := by
  induction depth generalizing selected level with
  | zero => simpa [missingBelow] using hNodup
  | succ depth ih =>
      rw [missingBelow]
      split
      · simpa using hNodup
      · rw [← List.append_assoc]
        refine ih (List.nodup_append.mpr ⟨hNodup, nodup_eraseDups _, ?_⟩)
        rintro v hv w hw rfl
        exact (mem_missingFields.mp hw).2 hv

/-- Only fields are found missing. -/
theorem field_of_missingBelow (depth : Nat) {v : VarId}
    (h : v ∈ missingBelow schema depth selected level) : ∃ c, v ∈ (schema.var c).fields := by
  induction depth generalizing selected level with
  | zero => cases h
  | succ depth ih =>
      rw [missingBelow] at h
      split at h
      · cases h
      · rcases List.mem_append.mp h with hNow | hLater
        · obtain ⟨⟨c, _, hField⟩, _⟩ := mem_missingFields.mp hNow
          exact ⟨c, hField⟩
        · exact ih hLater

theorem InStep.mem_bareCompounds {view : View} (h : view.InStep) {c : VarId} :
    c ∈ view.bareCompounds ↔ c ∈ view.vars ∧ (view.schema.var c).isTopLevel = true ∧
      (view.schema.var c).isCompound = true ∧
        ∀ f ∈ (view.schema.var c).fields, f ∉ view.vars := by
  rw [bareCompounds, ← h.vars_eq]
  simp [selects, and_assoc]

theorem InStep.nodup_bareCompounds {view : View} (h : view.InStep) : view.bareCompounds.Nodup := by
  rw [bareCompounds, ← h.vars_eq]
  exact h.nodup.filter _

/-- Where everything around a selected variable is selected, nothing in a bare compound is. -/
theorem InStep.untouched_bareCompounds {view : View} (h : view.InStep) (hTree : view.schema.Tree)
    (hClosed : ∀ c v, v ∈ (view.schema.var c).fields → v ∈ view.vars → c ∈ view.vars) :
    Untouched view.schema view.vars view.bareCompounds := by
  constructor
  · intro c hc v hBelow
    have hBare := (h.mem_bareCompounds.mp hc).2.2.2
    induction hBelow with
    | field hv => exact hBare _ hv
    | step _ hv ih => exact fun hSelected => ih (hClosed _ _ hv hSelected)
  · intro c _ c' hc' hBelow
    have hTop := (h.mem_bareCompounds.mp hc').2.1
    rw [hTree.not_isTopLevel_of_below hBelow] at hTop
    cases hTop

theorem vars_expanded (view : View) : view.expanded.vars =
    view.vars ++ missingBelow view.schema view.schema.vars.size view.vars view.bareCompounds := rfl

theorem InStep.expanded {view : View} (h : view.InStep) : view.expanded.InStep :=
  h.pushAll (nodup_missingBelow _ h.nodup)

/-- A bare compound of a view in which everything around a selected variable is selected stands for
all that it holds. -/
theorem InStep.mem_expanded_vars {view : View} (h : view.InStep) (hTree : view.schema.Tree)
    (hClosed : ∀ c v, v ∈ (view.schema.var c).fields → v ∈ view.vars → c ∈ view.vars) (v : VarId) :
    v ∈ view.expanded.vars ↔ v ∈ view.vars ∨ ∃ c ∈ view.bareCompounds, view.schema.Below c v := by
  have hMem := (missingBelow_spec hTree view.schema.vars.size
    (h.untouched_bareCompounds hTree hClosed) fun c _ => Nat.le_add_right _ _).1
  rw [vars_expanded, List.mem_append, hMem]

end Hyperslab.View
