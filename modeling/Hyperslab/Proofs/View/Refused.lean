import Hyperslab.Proofs.View.Coherent

/-! Refused edits. Before it is refused, an edit may have selected the compounds around its
variable; but around a variable whose slices could conflict they are selected already. Only
finishing leaves a trace, since it expands the view first. A finished view refuses everything. -/
namespace Hyperslab

/-- What an edit does, in the words of faults. -/
def Edit.action : Edit → Action
  | addVariable .. => .addVariable
  | addResize .. => .addRedefinition
  | setFilter .. => .setFilter
  | addAttribute .. => .addAttribute
  | expand => .expand
  | finish => .finish

/-- The edit was not refused, or has left the view as it was. -/
def Edited.KeepsRefused (edited : Edited) (view : View) : Prop :=
  ∀ fault, edited.fault = some fault → edited.view = view

namespace View

theorem keepsRefused_done (view view' : View) : (Edited.done view').KeepsRefused view := nofun

theorem keepsRefused_refused (view : View) (fault : Fault) :
    (Edited.refused view fault).KeepsRefused view :=
  fun _ _ => rfl

theorem apply_of_isFinished {view : View} (h : view.isFinished = true) (edit : Edit) :
    view.apply edit = .refused view (.finished edit.action) := by
  cases edit with
  | addVariable => rw [apply, addVariable, if_pos h, Edit.action]
  | addResize =>
      rw [apply, addResize]
      exact if_pos h
  | setFilter => rw [apply, setFilter, if_pos h, Edit.action]
  | addAttribute => rw [apply, addAttribute, if_pos h, Edit.action]
  | expand => rw [apply, expand, if_pos h, Edit.action]
  | finish => rw [apply, finish, if_pos h, Edit.action]

theorem applyAll_of_isFinished {view : View} (h : view.isFinished = true) (edits : List Edit) :
    view.applyAll edits = view := by
  induction edits with
  | nil => rfl
  | cons edit edits ih =>
      rw [applyAll, List.foldl_cons, apply_of_isFinished h]
      exact ih

theorem isFinished_of_finish {view : View} (h : view.finish.fault = none) :
    view.finish.view.isFinished = true := by
  have hOk : view.finish.toExcept = .ok view.finish.view := by rw [Edited.toExcept, h]
  obtain ⟨_, _, _, hView⟩ := finish_ok hOk
  rw [hView]
  rfl

/-- The compound around a selected variable is selected. -/
theorem Coherent.owner_mem {view : View} (h : view.Coherent) {v c : VarId} (hv : v ∈ view.vars)
    (hOwner : (view.schema.var v).owner = .compound c) : c ∈ view.vars := by
  obtain ⟨before, after, hVars⟩ := List.append_of_mem hv
  have hPrefix : before ++ [v] <+: view.vars := ⟨after, by rw [hVars]; simp⟩
  have hc := h.enclosed before v hPrefix c hOwner
  rw [hVars]
  exact List.mem_append_left _ hc

section Kept

variable {view : View} (h : view.Coherent)
include h

/-- No compound is selected for a variable that is selected already. -/
theorem Coherent.selectEnclosing_eq_self {v : VarId}
    (hSelected : v ∈ (view.selectEnclosing v).vars) : view.selectEnclosing v = view :=
  selectEnclosing_of_selected fun _ => h.owner_mem (mem_of_mem_selectEnclosing hSelected)

theorem Coherent.addVariable_keepsRefused (v : VarId) (slices : List Slice) :
    (view.addVariable v slices).KeepsRefused view := by
  unfold addVariable
  split
  · exact keepsRefused_refused _ _
  · split
    · exact keepsRefused_refused _ _
    · simp only
      split
      · next hSelected =>
          rw [h.selectEnclosing_eq_self (by simpa [selects] using hSelected)]
          split
          · exact keepsRefused_done _ _
          · split
            · exact keepsRefused_done _ _
            · exact keepsRefused_refused _ _
      · exact keepsRefused_done _ _

theorem Coherent.setFilter_keepsRefused (v : VarId) (filter : Filter) :
    (view.setFilter v filter).KeepsRefused view := by
  unfold setFilter
  split
  · exact keepsRefused_refused _ _
  · split
    · exact keepsRefused_refused _ _
    · simp only
      split
      · split
        · exact keepsRefused_done _ _
        · exact h.addVariable_keepsRefused v []
      · exact keepsRefused_done _ _

/-- Of all edits only finishing changes a view and is refused. -/
theorem Coherent.apply_keepsRefused {edit : Edit} (hEdit : edit.action ≠ .finish) :
    (view.apply edit).KeepsRefused view := by
  cases edit with
  | addVariable v slices => exact h.addVariable_keepsRefused v slices
  | addResize d slice =>
      rw [apply, addResize]
      split
      · exact keepsRefused_refused _ _
      · split
        · exact keepsRefused_refused _ _
        · split
          · exact keepsRefused_done _ _
          · exact keepsRefused_refused _ _
  | setFilter v filter => exact h.setFilter_keepsRefused v filter
  | addAttribute =>
      rw [apply, addAttribute]
      split
      · exact keepsRefused_refused _ _
      · exact keepsRefused_done _ _
  | expand =>
      rw [apply, expand]
      split
      · exact keepsRefused_refused _ _
      · exact keepsRefused_done _ _
  | finish => exact absurd rfl hEdit

end Kept

/-- An edit that is refused leaves a view as it was, whatever edits led to the view, unless it was
to finish it. Once that has succeeded, all edits are refused and change nothing. -/
theorem refused_edits {schema : Schema} (hSchema : schema.Declared) (edits : List Edit) :
    (∀ edit fault, edit.action ≠ .finish →
      (((empty schema).applyAll edits).apply edit).fault = some fault →
        (((empty schema).applyAll edits).apply edit).view = (empty schema).applyAll edits) ∧
    ∀ finished, ((empty schema).applyAll edits).apply .finish = .done finished →
      ∀ more, finished.applyAll more = finished ∧
        ∀ edit, finished.apply edit = .refused finished (.finished edit.action) ∧
          (Fault.finished edit.action).kind = .state := by
  obtain ⟨_, hCoherent, _⟩ := reached_coherent hSchema edits
  refine ⟨fun edit fault hEdit => ?_, fun finished hFinish more => ?_⟩
  · exact hCoherent.apply_keepsRefused hEdit fault
  · have hFinished : finished.isFinished = true := by
      have hView : ((empty schema).applyAll edits).finish.view = finished :=
        congrArg Edited.view hFinish
      rw [← hView]
      exact isFinished_of_finish (congrArg Edited.fault hFinish)
    exact ⟨applyAll_of_isFinished hFinished more,
      fun edit => ⟨apply_of_isFinished hFinished edit, rfl⟩⟩

/-- After the edits the variable has slices, and others are refused. Finished, the view refuses the
same edits again. -/
theorem refused_edits_grid : Schema.grid.Declared ∧ ∃ fault finished,
    (((empty .grid).applyAll gridEdits).apply (.addVariable ⟨0⟩ [.index 2])).fault = some fault ∧
      (((empty .grid).applyAll gridEdits).apply (.addVariable ⟨0⟩ [.index 2])).view =
        (empty .grid).applyAll gridEdits ∧
        ((empty .grid).applyAll gridEdits).apply .finish = .done finished ∧
          finished.applyAll gridEdits = finished ∧ finished.vars = [⟨1⟩, ⟨2⟩, ⟨0⟩] := by
  obtain ⟨hKept, hSealed⟩ := refused_edits Schema.grid_declared gridEdits
  have hRefused : (((empty .grid).applyAll gridEdits).apply
      (.addVariable ⟨0⟩ [.index 2])).fault.isSome = true := by
    decide +kernel
  have hFinished : (((empty .grid).applyAll gridEdits).apply .finish).fault.isNone = true ∧
      (((empty .grid).applyAll gridEdits).apply .finish).view.vars = [⟨1⟩, ⟨2⟩, ⟨0⟩] := by
    decide +kernel
  obtain ⟨fault, hFault⟩ := Option.isSome_iff_exists.mp hRefused
  have hFinish : ((empty .grid).applyAll gridEdits).apply .finish =
      .done (((empty .grid).applyAll gridEdits).apply .finish).view :=
    congrArg (Edited.mk _) (Option.isNone_iff_eq_none.mp hFinished.1)
  exact ⟨Schema.grid_declared, fault, _, hFault, hKept _ fault nofun hFault, hFinish,
    (hSealed _ hFinish gridEdits).1, hFinished.2⟩

theorem expanded_eq_self_iff {view : View} : view.expanded = view ↔
    missingBelow view.schema view.schema.vars.size view.vars view.bareCompounds = [] := by
  constructor
  · intro hSame
    have hVars := vars_expanded view
    rw [hSame, eq_comm, List.append_right_eq_self] at hVars
    exact hVars
  · intro hNone
    rw [expanded, hNone, pushAll_nil]

/-- Expanding adds nothing exactly if no bare compound has a field. -/
theorem Coherent.expanded_eq_self_iff {view : View} (hTree : view.schema.Tree) (h : view.Coherent) :
    view.expanded = view ↔ ∀ c ∈ view.bareCompounds, (view.schema.var c).fields = [] := by
  have hUntouched := h.untouched_bareCompounds hTree fun c v hField hv =>
    h.owner_mem hv (hTree.owner hField)
  have hMem := (missingBelow_spec hTree view.schema.vars.size hUntouched
    fun c _ => Nat.le_add_right _ _).1
  rw [View.expanded_eq_self_iff, List.eq_nil_iff_forall_not_mem]
  constructor
  · intro hNone c hc
    refine List.eq_nil_iff_forall_not_mem.mpr fun f hf => ?_
    exact hNone f ((hMem f).mpr ⟨c, hc, .field hf⟩)
  · intro hBare v hv
    obtain ⟨c, hc, hBelow⟩ := (hMem v).mp hv
    obtain ⟨f, hf, _⟩ := hBelow.first
    rw [hBare c hc] at hf
    cases hf

/-- If an open view cannot be finished it stays open, but it has been expanded. It is as it was just
if no bare compound has a field. -/
theorem refused_finish {schema : Schema} (hSchema : schema.Declared) (edits : List Edit)
    {fault : Fault} (hOpen : ((empty schema).applyAll edits).isFinished = false)
    (hFault : ((empty schema).applyAll edits).finish.fault = some fault) :
    ((empty schema).applyAll edits).finish.view = ((empty schema).applyAll edits).expanded ∧
      ((empty schema).applyAll edits).finish.view.isFinished = false ∧
        (((empty schema).applyAll edits).finish.view = (empty schema).applyAll edits ↔
          ∀ c ∈ ((empty schema).applyAll edits).bareCompounds, (schema.var c).fields = []) := by
  obtain ⟨hSame, hCoherent, _⟩ := reached_coherent hSchema edits
  generalize (empty schema).applyAll edits = view at *
  have hExpanded : view.finish.view = view.expanded := by
    unfold finish at hFault ⊢
    rw [if_neg (by simp [hOpen])] at hFault ⊢
    simp only at hFault ⊢
    split at hFault
    · cases hFault
    · rfl
  rw [hExpanded]
  refine ⟨rfl, hOpen, ?_⟩
  subst hSame
  exact hCoherent.expanded_eq_self_iff hSchema.tree

/-- A sequence that stands for what it holds, and a slice that does not fit. -/
def unfinishableEdits : List Edit := [.addVariable ⟨1⟩ [], .addVariable ⟨0⟩ [.index 99]]

theorem unfinishableEdits_refused : ∃ fault,
    ((empty .grid).applyAll unfinishableEdits).isFinished = false ∧
      ((empty .grid).applyAll unfinishableEdits).finish.fault = some fault := by
  have hRefused : ((empty .grid).applyAll unfinishableEdits).isFinished = false ∧
      ((empty .grid).applyAll unfinishableEdits).finish.fault.isSome = true := by
    decide +kernel
  obtain ⟨fault, hFault⟩ := Option.isSome_iff_exists.mp hRefused.2
  exact ⟨fault, hRefused.1, hFault⟩

theorem refused_finish_grid : Schema.grid.Declared ∧ ∃ fault,
    ((empty .grid).applyAll unfinishableEdits).isFinished = false ∧
      ((empty .grid).applyAll unfinishableEdits).finish.fault = some fault ∧
        ((empty .grid).applyAll unfinishableEdits).finish.view =
          ((empty .grid).applyAll unfinishableEdits).expanded := by
  obtain ⟨fault, hOpen, hFault⟩ := unfinishableEdits_refused
  exact ⟨Schema.grid_declared, fault, hOpen, hFault,
    (refused_finish Schema.grid_declared unfinishableEdits hOpen hFault).1⟩

/-- The field of the sequence stays selected. -/
theorem refused_finish_adds : ∃ fault,
    ((empty .grid).applyAll unfinishableEdits).isFinished = false ∧
      ((empty .grid).applyAll unfinishableEdits).finish.fault = some fault ∧
        ((empty .grid).applyAll unfinishableEdits).vars = [⟨1⟩, ⟨0⟩] ∧
          ((empty .grid).applyAll unfinishableEdits).finish.view.vars = [⟨1⟩, ⟨0⟩, ⟨2⟩] := by
  obtain ⟨fault, hOpen, hFault⟩ := unfinishableEdits_refused
  exact ⟨fault, hOpen, hFault, by decide +kernel, by decide +kernel⟩

end View

end Hyperslab
