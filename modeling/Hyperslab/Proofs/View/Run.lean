import Hyperslab.Proofs.Filter.Joined
import Hyperslab.Proofs.View.Filters
import Hyperslab.Proofs.View.Refused
import Hyperslab.Proofs.View.Retrace

/-! Edits that select variables and attach filters, made one after the other until one is refused.
One of them is refused if it is not allowed in the schema, or if two of them ask for a variable with
different slices. In which order they are made plays no part in that, nor in what is selected. -/
namespace Hyperslab

namespace Edit

/-- The variable that an edit selects, with the slices that it asks for. -/
def asks : Edit → Option (VarId × List Slice)
  | addVariable v slices => some (v, slices)
  | setFilter v _ => some (v, [])
  | _ => none

/-- The filter that an edit attaches to the variable. -/
def filterOn (v : VarId) : Edit → Option Filter
  | setFilter w filter => if w = v then some filter else none
  | _ => none

/-- An edit that selects a variable is made wherever the slices do not conflict. -/
def Allowed (schema : Schema) : Edit → Prop
  | addVariable v slices => slices.length ≤ (schema.var v).rank
  | setFilter v _ => (schema.var v).isSequence = true
  | _ => False

/-- What is selected by an edit: a variable with the slices asked for, and the compounds around it
without any. -/
def Names (schema : Schema) (edit : Edit) (x : VarId) (given : List Slice) : Prop :=
  ∃ v slices, edit.asks = some (v, slices) ∧
    (x = v ∧ given = slices ∨ schema.Below x v ∧ given = [])

end Edit

/-- No variable is asked for with different slices. -/
def Consistent (asked : List (VarId × List Slice)) : Prop :=
  ∀ v given given', (v, given) ∈ asked → (v, given') ∈ asked → given ≠ [] → given' ≠ [] →
    given = given'

theorem Consistent.mono {asked asked' : List (VarId × List Slice)} (h : Consistent asked)
    (hMem : ∀ v given, given ≠ [] → (v, given) ∈ asked' → (v, given) ∈ asked) :
    Consistent asked' :=
  fun v given given' hGiven hGiven' hSome hSome' =>
    h v given given' (hMem v given hSome hGiven) (hMem v given' hSome' hGiven') hSome hSome'

theorem Consistent.congr {asked asked' : List (VarId × List Slice)}
    (hSame : ∀ v given, given ≠ [] → ((v, given) ∈ asked' ↔ (v, given) ∈ asked)) :
    Consistent asked' ↔ Consistent asked :=
  ⟨fun h => h.mono fun v given hSome => (hSame v given hSome).mpr,
    fun h => h.mono fun v given hSome => (hSame v given hSome).mp⟩

namespace View

/-- Make the edits one after the other. The first fault ends it. -/
def run (view : View) : List Edit → Except Fault View
  | [] => .ok view
  | edit :: rest => do (← (view.apply edit).toExcept).run rest

variable {view view' : View}

theorem run_cons {edit : Edit} {edits : List Edit} : view.run (edit :: edits) = .ok view' ↔
    ∃ next, (view.apply edit).toExcept = .ok next ∧ next.run edits = .ok view' :=
  SameResult.bind_eq_ok_iff

theorem run_append {edits more : List Edit} : view.run (edits ++ more) = .ok view' ↔
    ∃ next, view.run edits = .ok next ∧ next.run more = .ok view' := by
  induction edits generalizing view with
  | nil =>
      constructor
      · exact fun h => ⟨view, rfl, h⟩
      · rintro ⟨_, hSame, h⟩
        cases hSame
        exact h
  | cons edit edits ih =>
      rw [List.cons_append, run_cons]
      simp only [run_cons, ih]
      constructor
      · rintro ⟨first, hFirst, next, hNext, h⟩
        exact ⟨next, ⟨first, hFirst, hNext⟩, h⟩
      · rintro ⟨next, ⟨first, hFirst, hNext⟩, h⟩
        exact ⟨first, hFirst, next, hNext, h⟩

theorem Coherent.above_mem (h : view.Coherent) (hTree : view.schema.Tree) {c v : VarId}
    (hBelow : view.schema.Below c v) (hv : v ∈ view.vars) : c ∈ view.vars := by
  induction hBelow with
  | field hField => exact h.owner_mem hv (hTree.owner hField)
  | step _ hField ih => exact ih (h.owner_mem hv (hTree.owner hField))

/-- A variable has one segment, so a view asks for it with the same slices always. -/
theorem Coherent.consistent (h : view.Coherent) : Consistent view.asked := by
  intro v given given' hMem hMem' _ _
  obtain ⟨segment, hSegment, rfl, rfl⟩ := mem_asked.mp hMem
  obtain ⟨other, hOther, hSame, rfl⟩ := mem_asked.mp hMem'
  rw [h.segment_unique hOther hSegment hSame]

section Declared

variable (hTree : view.schema.Tree) (hComplete : view.schema.Complete) (h : view.Coherent)
include hTree hComplete h

/-- The compounds around a variable are selected without slices. -/
theorem Coherent.selectEnclosing_grows (v : VarId) : Grows view (view.selectEnclosing v)
    fun x given => view.schema.Below x v ∧ given = [] := by
  have hVars : ∀ x, x ∈ (view.selectEnclosing v).vars ↔ x ∈ view.vars ∨ view.schema.Below x v := by
    induction v using selectEnclosing.induct view with
    | case1 v g hOwner =>
        rw [selectEnclosing, hOwner]
        refine fun x => (or_iff_left fun hBelow => ?_).symm
        have hTop := hTree.not_isTopLevel_of_below hBelow
        rw [Variable.isTopLevel, hOwner] at hTop
        cases hTop
    | case2 v c hOwner hSelected =>
        have hMem : c ∈ view.vars := by simpa [selects] using hSelected
        rw [selectEnclosing, hOwner]
        simp only [hSelected, if_true]
        refine fun x => ⟨Or.inl, fun hx => hx.elim id fun hBelow => ?_⟩
        rcases hTree.below_parent (hComplete c v hOwner) hBelow with rfl | hBelow
        · exact hMem
        · exact h.above_mem hTree hBelow hMem
    | case3 v c hOwner hMissing hBefore ih =>
        have hField := hComplete c v hOwner
        rw [selectEnclosing, hOwner]
        simp only [hMissing, Bool.false_eq_true, if_false, hBefore, if_true, vars_push,
          Segment.fresh, List.mem_append, List.mem_singleton, ih, or_assoc]
        refine fun x => or_congr_right ⟨?_, fun hBelow => ?_⟩
        · rintro (hBelow | rfl)
          · exact .step hBelow hField
          · exact .field hField
        · exact (hTree.below_parent hField hBelow).symm
    | case4 v c hOwner hMissing hBefore => exact absurd (hComplete.after hTree hOwner) hBefore
  have hInStep := h.toInStep.selectEnclosing v
  obtain ⟨added, hEq⟩ := selectEnclosing_eq view v
  rw [hEq] at hVars hInStep ⊢
  refine ⟨rfl, rfl, rfl, rfl, fun x => ?_, fun _ => hInStep, fun x given hSome => ?_⟩
  · simp only [hVars, exists_and_left, exists_eq, and_true]
  · simp [asked, pushAll, Segment.fresh, hSome, Ne.symm hSome]

/-- Selecting a variable is selecting it where the compounds around it are selected. -/
theorem Coherent.addVariable_selectEnclosing (v : VarId) (slices : List Slice) :
    (view.addVariable v slices).toExcept =
      ((view.selectEnclosing v).addVariable v slices).toExcept := by
  have hAgain : (view.selectEnclosing v).selectEnclosing v = view.selectEnclosing v := by
    exact selectEnclosing_of_selected (owner_mem_selectEnclosing hTree hComplete v)
  have hGrows := h.selectEnclosing_grows hTree hComplete v
  have hFinished : (view.selectEnclosing v).isFinished = view.isFinished := by
    rw [isFinished, hGrows.references, isFinished]
  simp only [addVariable, hAgain, hFinished, hGrows.schema]
  split
  · rfl
  · split
    · rfl
    · split
      · split
        · rfl
        · split <;> rfl
      · rfl

theorem Coherent.addVariable_names {v : VarId} {slices : List Slice}
    (hAdd : (view.addVariable v slices).toExcept = .ok view') :
    Grows view view' ((Edit.addVariable v slices).Names view.schema) := by
  have hEnclosing := h.selectEnclosing_grows hTree hComplete v
  rw [h.addVariable_selectEnclosing hTree hComplete] at hAdd
  have hInner := owner_mem_selectEnclosing hTree hComplete v
  have hBase := h.toInStep.selectEnclosing v
  refine (hEnclosing.trans (hBase.addVariable_grows hInner hAdd)).congr ?_
  intro x given
  simp only [Edit.Names, Edit.asks, Option.some.injEq, Prod.mk.injEq]
  constructor
  · rintro (hAbove | hSelf)
    · exact ⟨v, slices, ⟨rfl, rfl⟩, Or.inr hAbove⟩
    · exact ⟨v, slices, ⟨rfl, rfl⟩, Or.inl hSelf⟩
  · rintro ⟨_, _, ⟨rfl, rfl⟩, hSelf | hAbove⟩
    · exact Or.inr hSelf
    · exact Or.inl hAbove

omit hTree hComplete in
/-- A variable that is selected with slices can be selected again with these slices or with none. -/
theorem Coherent.addVariable_iff (hOpen : view.isFinished = false) {v : VarId}
    {slices : List Slice} : (∃ view', (view.addVariable v slices).toExcept = .ok view') ↔
      slices.length ≤ (view.schema.var v).rank ∧
        ∀ given, (v, given) ∈ view.asked → given ≠ [] → slices ≠ [] → given = slices := by
  obtain ⟨added, hEq⟩ := selectEnclosing_eq view v
  have hBase := h.toInStep.selectEnclosing v
  constructor
  · rintro ⟨view', hAdd⟩
    obtain ⟨_, hRank, hCases⟩ := h.toInStep.addVariable_ok hAdd
    refine ⟨hRank, fun given hAsked hGiven hSlices => ?_⟩
    obtain ⟨segment, hSegment, rfl, rfl⟩ := mem_asked.mp hAsked
    have hMem : segment ∈ (view.selectEnclosing segment.var).segments := by
      rw [hEq]
      exact List.mem_append_left _ hSegment
    rcases hCases with ⟨hNew, _⟩ | ⟨other, hOther, hVar, hCases⟩
    · exact absurd (hBase.mem_vars hMem) hNew
    · obtain rfl := hBase.segment_unique hOther hMem hVar
      rcases hCases with ⟨hNone, _⟩ | ⟨_, hSame, _⟩
      · exact absurd hNone hGiven
      · exact hSame.resolve_left hSlices
  · rintro ⟨hRank, hAgree⟩
    refine h.toInStep.addVariable_succeeds hOpen hRank fun segment hSegment hVar => ?_
    rw [hEq] at hSegment
    by_cases hNone : segment.slices = []
    · exact Or.inl hNone
    · by_cases hSlices : slices = []
      · exact Or.inr (Or.inl hSlices)
      · have hOld := (List.mem_append.mp hSegment).resolve_right (by
          rintro hNew
          obtain ⟨_, _, rfl⟩ := List.mem_map.mp hNew
          exact hNone rfl)
        exact Or.inr (Or.inr
          (hAgree _ (mem_asked.mpr ⟨segment, hOld, hVar, rfl⟩) hNone hSlices))

omit hTree hComplete h in
/-- A selected sequence gets the filter and nothing else. -/
theorem setFilter_selected (hOpen : view.isFinished = false) {v : VarId} (filter : Filter)
    (hSequence : (view.schema.var v).isSequence = true) (hSelected : v ∈ view.vars) :
    (view.setFilter v filter).toExcept = .ok (view.modifySegment v fun segment =>
      { segment with filter := some (joinFilter segment.filter filter) }) := by
  have hSelects : view.selects v = true := by simpa [selects] using hSelected
  simp only [setFilter, hOpen, Bool.false_eq_true, if_false, hSequence, Bool.not_true, hSelects,
    if_true]
  rfl

omit hTree hComplete h in
/-- What is named without slices and is selected already makes no difference. -/
theorem Grows.of_selected {named : VarId → List Slice → Prop}
    (hNone : Grows view view' fun _ _ => False)
    (hNamed : ∀ x given, named x given → x ∈ view.vars ∧ given = []) : Grows view view' named := by
  refine ⟨hNone.schema, hNone.resizes, hNone.resized, hNone.references, fun x => ?_,
    hNone.inStep, fun x given hSome => ?_⟩
  · simp only [hNone.vars, exists_false, or_false]
    exact (or_iff_left_of_imp fun ⟨given, hx⟩ => (hNamed x given hx).1).symm
  · simp only [hNone.asked x given hSome, or_false]
    exact (or_iff_left fun hx => hSome (hNamed x given hx).2).symm

theorem Coherent.setFilter_names (hOpen : view.isFinished = false) {v : VarId} {filter : Filter}
    (hSet : (view.setFilter v filter).toExcept = .ok view') :
    Grows view view' ((Edit.setFilter v filter).Names view.schema) := by
  obtain ⟨hSequence, base, hBase, rfl⟩ := setFilter_ok hSet
  have hGrows : Grows view base ((Edit.setFilter v filter).Names view.schema) ∧ v ∈ base.vars := by
    rcases hBase with ⟨hSelected, rfl⟩ | ⟨_, hAdd⟩
    · refine ⟨(Grows.refl base).of_selected ?_, hSelected⟩
      rintro x given ⟨_, _, hAsks, ⟨rfl, rfl⟩ | ⟨hBelow, rfl⟩⟩
      · cases hAsks
        exact ⟨hSelected, rfl⟩
      · cases hAsks
        exact ⟨h.above_mem hTree hBelow hSelected, rfl⟩
    · exact ⟨h.addVariable_names hTree hComplete hAdd, addVariable_selects hAdd⟩
  have hInStep := hGrows.1.inStep h.toInStep
  have hBaseOpen : base.isFinished = false := by
    rw [isFinished, hGrows.1.references]
    exact hOpen
  have hSetBase := setFilter_selected hBaseOpen filter
    (by rw [hGrows.1.schema]; exact hSequence) hGrows.2
  exact (hGrows.1.trans (hInStep.setFilter_grows hGrows.2 hSetBase)).congr fun _ _ =>
    or_iff_left not_false

/-- An edit selects what it names. -/
theorem Coherent.apply_names (hOpen : view.isFinished = false) {edit : Edit}
    (hAsks : edit.asks.isSome = true) (hOk : (view.apply edit).toExcept = .ok view') :
    Grows view view' (edit.Names view.schema) := by
  cases edit with
  | addVariable v slices => exact h.addVariable_names hTree hComplete hOk
  | setFilter v filter => exact h.setFilter_names hTree hComplete hOpen hOk
  | addResize | addAttribute | expand | finish => cases hAsks

omit hTree hComplete in
/-- An edit is made if it is allowed and asks for no other slices than the view does. -/
theorem Coherent.apply_iff (hOpen : view.isFinished = false) {edit : Edit} {v : VarId}
    {slices : List Slice} (hAsks : edit.asks = some (v, slices)) :
    (∃ view', (view.apply edit).toExcept = .ok view') ↔ edit.Allowed view.schema ∧
      ∀ given, (v, given) ∈ view.asked → given ≠ [] → slices ≠ [] → given = slices := by
  cases edit with
  | addVariable w asked =>
      cases hAsks
      exact h.addVariable_iff hOpen
  | setFilter w filter =>
      cases hAsks
      constructor
      · rintro ⟨view', hSet⟩
        exact ⟨(setFilter_ok hSet).1, fun _ _ _ hNone => absurd rfl hNone⟩
      · exact fun hBoth => h.toInStep.setFilter_succeeds filter hOpen hBoth.1
  | addResize | addAttribute | expand | finish => cases hAsks

end Declared

/-- A view of the schema that can still be edited. -/
structure Open (schema : Schema) (view : View) : Prop where
  schema_eq : view.schema = schema
  isOpen : view.isFinished = false
  coherent : view.Coherent

variable {schema : Schema} (hTree : schema.Tree) (hComplete : schema.Complete)
include hTree hComplete

theorem Open.apply_names (h : view.Open schema) {edit : Edit} (hAsks : edit.asks.isSome = true)
    (hOk : (view.apply edit).toExcept = .ok view') :
    Grows view view' (edit.Names schema) ∧ view'.Open schema := by
  obtain ⟨rfl, hOpen, hCoherent⟩ := h
  have hGrows := hCoherent.apply_names hTree hComplete hOpen hAsks hOk
  refine ⟨hGrows, hGrows.schema, ?_, ?_⟩
  · rw [isFinished, hGrows.references]
    exact hOpen
  · obtain ⟨_, rfl⟩ := Edited.toExcept_eq_ok hOk
    exact hCoherent.steps (hCoherent.toInStep.apply_steps hTree hComplete edit)

/-- A run selects what its edits name. -/
theorem Open.run_names (h : view.Open schema) {edits : List Edit}
    (hAsks : ∀ edit ∈ edits, edit.asks.isSome = true) (hRun : view.run edits = .ok view') :
    Grows view view' (fun x given => ∃ edit ∈ edits, edit.Names schema x given) ∧
      view'.Open schema := by
  induction edits generalizing view with
  | nil =>
      cases hRun
      exact ⟨(Grows.refl _).congr (by simp), h⟩
  | cons edit edits ih =>
      obtain ⟨hFirst, hRest⟩ := List.forall_mem_cons.mp hAsks
      obtain ⟨next, hApply, hRun⟩ := run_cons.mp hRun
      obtain ⟨hGrows, hNext⟩ := h.apply_names hTree hComplete hFirst hApply
      obtain ⟨hGrows', hOpen⟩ := ih hNext hRest hRun
      exact ⟨(hGrows.trans hGrows').congr (by simp), hOpen⟩

/-- A run is made to its end if each edit is allowed and no two of them ask for a variable with
different slices. -/
theorem Open.run_iff (h : view.Open schema) {edits : List Edit}
    (hAsks : ∀ edit ∈ edits, edit.asks.isSome = true) :
    (∃ view', view.run edits = .ok view') ↔ (∀ edit ∈ edits, edit.Allowed schema) ∧
      Consistent (view.asked ++ edits.filterMap Edit.asks) := by
  induction edits generalizing view with
  | nil => exact ⟨fun _ => ⟨nofun, by simpa using h.coherent.consistent⟩, fun _ => ⟨view, rfl⟩⟩
  | cons edit edits ih =>
      obtain ⟨hFirst, hRest⟩ := List.forall_mem_cons.mp hAsks
      obtain ⟨⟨v, slices⟩, hEdit⟩ := Option.isSome_iff_exists.mp hFirst
      have hApplies := h.coherent.apply_iff h.isOpen hEdit
      rw [h.schema_eq] at hApplies
      rw [List.filterMap_cons_some hEdit, List.forall_mem_cons]
      -- The next view asks for what this view and the edit ask for.
      have hNext {next : View} (hApply : (view.apply edit).toExcept = .ok next) :
          Consistent (next.asked ++ edits.filterMap Edit.asks) ↔
            Consistent (view.asked ++ (v, slices) :: edits.filterMap Edit.asks) := by
        obtain ⟨hGrows, _⟩ := h.apply_names hTree hComplete hFirst hApply
        refine Consistent.congr fun x given hSome => ?_
        simp only [List.mem_append, hGrows.asked x given hSome, List.mem_cons, or_assoc,
          Edit.Names, hEdit, Option.some.injEq, Prod.mk.injEq, hSome, and_false, or_false]
        simp [eq_comm]
      constructor
      · rintro ⟨view', hRun⟩
        obtain ⟨next, hApply, hRun⟩ := run_cons.mp hRun
        obtain ⟨_, hOpen⟩ := h.apply_names hTree hComplete hFirst hApply
        obtain ⟨hAllowed, hConsistent⟩ := (ih hOpen hRest).mp ⟨view', hRun⟩
        exact ⟨⟨(hApplies.mp ⟨next, hApply⟩).1, hAllowed⟩, (hNext hApply).mp hConsistent⟩
      · rintro ⟨⟨hAllowed, hAll⟩, hConsistent⟩
        obtain ⟨next, hApply⟩ := hApplies.mpr ⟨hAllowed, fun given hAsked hGiven hSlices =>
          hConsistent v given slices (by simp [hAsked]) (by simp) hGiven hSlices⟩
        obtain ⟨_, hOpen⟩ := h.apply_names hTree hComplete hFirst hApply
        obtain ⟨view', hRun⟩ := (ih hOpen hRest).mpr ⟨hAll, (hNext hApply).mpr hConsistent⟩
        exact ⟨view', run_cons.mpr ⟨next, hApply, hRun⟩⟩

omit hTree hComplete

theorem InStep.apply (h : view.InStep) {edit : Edit} (hAsks : edit.asks.isSome = true)
    (hOk : (view.apply edit).toExcept = .ok view') : view'.InStep := by
  cases edit with
  | addVariable v slices => exact h.addVariable hOk
  | setFilter v filter => exact h.setFilter hOk
  | addResize | addAttribute | expand | finish => cases hAsks

theorem InStep.apply_filter? (h : view.InStep) {edit : Edit} (hAsks : edit.asks.isSome = true)
    (hOk : (view.apply edit).toExcept = .ok view') (x : VarId) :
    view'.filter? x = joinAll (view.filter? x) (edit.filterOn x).toList := by
  cases edit with
  | addVariable v slices => exact h.addVariable_filter? hOk x
  | setFilter v filter =>
      rw [h.setFilter_filter? hOk, Edit.filterOn]
      by_cases hSame : x = v
      · rw [if_pos hSame, if_pos hSame.symm, hSame]
        rfl
      · rw [if_neg hSame, if_neg (Ne.symm hSame)]
        rfl
  | addResize | addAttribute | expand | finish => cases hAsks

/-- A run joins the filters that its edits attach. -/
theorem InStep.run_filter? (h : view.InStep) {edits : List Edit}
    (hAsks : ∀ edit ∈ edits, edit.asks.isSome = true) (hRun : view.run edits = .ok view')
    (x : VarId) :
    view'.filter? x = joinAll (view.filter? x) (edits.filterMap (Edit.filterOn x)) := by
  induction edits generalizing view with
  | nil =>
      cases hRun
      rfl
  | cons edit edits ih =>
      obtain ⟨hFirst, hRest⟩ := List.forall_mem_cons.mp hAsks
      obtain ⟨next, hApply, hRun⟩ := run_cons.mp hRun
      rw [ih (h.apply hFirst hApply) hRest hRun, h.apply_filter? hFirst hApply, ← joinAll_append,
        List.filterMap_cons]
      cases edit.filterOn x with
      | none => rfl
      | some filter => rfl

end View

end Hyperslab
