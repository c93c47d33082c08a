import Hyperslab.Proofs.Filter.Rewritten
import Hyperslab.Proofs.Request.Rerun
import Hyperslab.Proofs.View.Filters

/-! The filters of a view that is written and compiled again. Each clause attaches a filter with the
text of the one that it was written for. Clauses of different variables share no variable, so no
filter is joined to another one. -/
namespace Hyperslab

open Grammar

namespace View

variable {view before after : View} {limits : Limits}

theorem Shown.eq_or_below {v x : VarId} (h : view.Shown v x) : x = v ∨ view.schema.Below v x := by
  induction h with
  | self => exact Or.inl rfl
  | field _ hField _ _ ih =>
      rcases ih with rfl | hBelow
      · exact Or.inr (.field hField)
      · exact Or.inr (.step hBelow hField)

/-- Of two variables of which none is below the other, no variable is shown in both clauses. -/
theorem Shown.apart (hTree : view.schema.Tree) {v w x : VarId} (hOther : v ≠ w)
    (hBelow : ¬view.schema.Below v w) (hBelow' : ¬view.schema.Below w v) (h : view.Shown v x) :
    ¬view.Shown w x := by
  intro h'
  rcases h.eq_or_below with rfl | hv
  · rcases h'.eq_or_below with rfl | hw
    · exact hOther rfl
    · exact hBelow' hw
  · rcases h'.eq_or_below with rfl | hw
    · exact hBelow hv
    · rcases hTree.below_of_common hv hw with hSame | hUp | hUp
      · exact hOther hSame
      · exact hBelow hUp
      · exact hBelow' hUp

/-- What is shown in the clause of a variable is the variable, or shown in the clause of a listed
field. -/
theorem shown_listed (hTree : view.schema.Tree) (hInStep : view.InStep) {v x : VarId} :
    view.Shown v x ↔ (∃ f ∈ view.listed v, view.Shown f x) ∨ x = v := by
  simp only [shown_iff (x := v), mem_listed hTree hInStep]
  constructor
  · rintro (rfl | ⟨hPart, f, hField, hSelected, hShown⟩)
    · exact Or.inr rfl
    · exact Or.inl ⟨f, ⟨hField, hSelected, hPart⟩, hShown⟩
  · rintro (⟨f, ⟨hField, hSelected, hPart⟩, hShown⟩ | rfl)
    · exact Or.inr ⟨hPart, f, hField, hSelected, hShown⟩
    · exact Or.inl rfl

/-- Where `written` holds, filters with the texts of those of `view` have been attached. All others
are as they were. -/
structure Restored (view before after : View) (written : VarId → Prop) : Prop where
  schema_eq : after.schema = view.schema
  inStep : after.InStep
  kept : ∀ x, ¬written x → after.filter? x = before.filter? x
  attached : ∀ x, written x → before.filter? x = none →
    (after.filter? x).map Filter.chars = (view.filter? x).map Filter.chars

theorem Restored.congr {written written' : VarId → Prop}
    (h : Restored view before after written) (hSame : ∀ x, written' x ↔ written x) :
    Restored view before after written' := by
  have hEq : written' = written := funext fun x => propext (hSame x)
  exact hEq ▸ h

theorem Restored.trans {middle : View} {written written' : VarId → Prop}
    (h : Restored view before middle written) (h' : Restored view middle after written')
    (hApart : ∀ x, written x → ¬written' x) :
    Restored view before after fun x => written x ∨ written' x := by
  refine ⟨h'.schema_eq, h'.inStep, fun x hNot => ?_, ?_⟩
  · obtain ⟨hFirst, hSecond⟩ := not_or.mp hNot
    exact (h'.kept x hSecond).trans (h.kept x hFirst)
  · rintro x (hFirst | hSecond) hNone
    · rw [h'.kept x (hApart x hFirst)]
      exact h.attached x hFirst hNone
    · have hNot : ¬written x := fun hFirst => hApart x hFirst hSecond
      exact h'.attached x hSecond ((h.kept x hNot).trans hNone)

/-- The clause attaches the filters that it was written for, wherever it succeeds. -/
def Restores (limits : Limits) (view : View) (v : VarId) (clause : Clause) : Prop :=
  ∀ before after, before.schema = view.schema → before.InStep →
    selectClause limits before (view.scope v) clause = .ok after →
      Restored view before after (view.Shown v)

/-- One clause after the other attaches its filters. -/
theorem Restored.all {step : View → Clause → Except Fault View}
    {run : View → List Clause → Except Fault View} (hNil : ∀ r, run r [] = .ok r)
    (hCons : ∀ r clause clauses, run r (clause :: clauses) =
      step r clause >>= fun r' => run r' clauses)
    {vars : List VarId} {clauses : List Clause}
    (hSteps : List.Forall₂ (fun v clause => ∀ before after, before.schema = view.schema →
      before.InStep → step before clause = .ok after →
        Restored view before after (view.Shown v)) vars clauses)
    (hApart : vars.Pairwise fun v w => ∀ x, view.Shown v x → ¬view.Shown w x)
    (hSchema : before.schema = view.schema) (hInStep : before.InStep)
    (h : run before clauses = .ok after) :
    Restored view before after fun x => ∃ v ∈ vars, view.Shown v x := by
  induction hSteps generalizing before with
  | nil =>
      rw [hNil] at h
      cases h
      exact ⟨hSchema, hInStep, fun _ _ => rfl, by simp⟩
  | cons hStep _ ih =>
      rw [hCons] at h
      obtain ⟨middle, hFirst, h⟩ := exists_of_bind_eq_ok h
      obtain ⟨hHead, hApart⟩ := List.pairwise_cons.mp hApart
      have hFirst := hStep before middle hSchema hInStep hFirst
      refine (hFirst.trans (ih hApart hFirst.schema_eq hFirst.inStep h) ?_).congr fun x => by simp
      rintro x hShown ⟨w, hw, hShown'⟩
      exact hHead w hw x hShown hShown'

theorem Rerunnable.addFilter_restored (hView : view.Rerunnable limits) {segment : Segment}
    (hMem : segment ∈ view.segments) {filter : Option Expr}
    (hText : OptionalFilterText Filter.readable segment.filter filter)
    (hSchema : before.schema = view.schema) (hInStep : before.InStep)
    (h : View.addFilter limits before segment.var filter = .ok after) :
    Restored view before after (· = segment.var) := by
  have hOwn := hView.spelled.inStep.filter?_of_mem hMem
  have hBound := hView.bound segment hMem
  cases hFilter : segment.filter with
  | none =>
      rw [hFilter] at hText hOwn
      cases filter with
      | some e => exact hText.elim
      | none =>
          cases h
          refine ⟨hSchema, hInStep, fun _ _ => rfl, ?_⟩
          rintro x rfl hNone
          rw [hNone, hOwn]
  | some f =>
      rw [hFilter] at hText hOwn hBound
      cases filter with
      | none => exact hText.elim
      | some e =>
          simp only [View.addFilter] at h
          split at h
          · obtain ⟨bound, hCompile, hSet⟩ := exists_of_bind_eq_ok h
            rw [hSchema] at hCompile
            have hChars := (hBound f rfl).chars_eq hText hCompile
            have hFilters := hInStep.setFilter_filter? hSet
            refine ⟨(setFilter_schema hSet).trans hSchema, hInStep.setFilter hSet,
              fun x hOther => (hFilters x).trans (if_neg hOther), ?_⟩
            rintro x rfl hNone
            rw [hFilters, if_pos rfl, hNone, hOwn]
            exact congrArg some hChars
          · cases h

theorem nodup_listed (hFields : ∀ c, (view.schema.var c).fields.Nodup) (v : VarId) :
    (view.listed v).Nodup := by
  unfold listed
  split
  · exact (hFields v).filter _
  · exact List.nodup_nil

/-- The clause of a variable attaches its filters if the clauses of the listed fields do. -/
theorem Rerunnable.restores (hView : view.Rerunnable limits)
    (hFields : ∀ c, (view.schema.var c).fields.Nodup) {segment : Segment}
    (hMem : segment ∈ view.segments) (hListed : view.Listed segment.var) {clauses : List Clause}
    {filter : Option Expr}
    (hClauses : List.Forall₂ (view.Restores limits) (view.listed segment.var) clauses)
    (hFilter : OptionalFilterText Filter.readable segment.filter filter) :
    view.Restores limits segment.var
      (.mk (.mk (view.clauseName segment.var) (rewrittenSlices segment.slices) none clauses)
        filter) := by
  intro before after hSchema hBefore h
  have hTree := hView.spelled.tree
  have hInStep := hView.spelled.inStep
  have hField {f : VarId} (hf : f ∈ view.listed segment.var) :=
    ((mem_listed hTree hInStep).mp hf).1
  have hResolve : before.schema.resolve (view.scope segment.var) (view.clauseName segment.var) =
      .ok segment.var := by
    rw [hSchema]
    exact Schema.resolve_of_denotes hTree (hView.spelled.name _ hListed).2
  rw [selectClause_list hResolve] at h
  obtain ⟨added, hAdd, h⟩ := exists_of_bind_eq_ok h
  obtain ⟨filled, hRun, h⟩ := exists_of_bind_eq_ok h
  have hAdded := (addVariable_schema hAdd).trans hSchema
  have hApart : (view.listed segment.var).Pairwise fun f g =>
      ∀ x, view.Shown f x → ¬view.Shown g x := by
    refine (nodup_listed hFields segment.var).pairwise_of_forall_ne fun f hf g hg hOther x => ?_
    exact Shown.apart hTree hOther (hTree.not_below_sibling (hField hf) (hField hg))
      (hTree.not_below_sibling (hField hg) (hField hf))
  have hSteps : List.Forall₂ (fun f clause => ∀ before after, before.schema = view.schema →
      before.InStep → selectClause limits before (some segment.var) clause = .ok after →
        Restored view before after (view.Shown f)) (view.listed segment.var) clauses :=
    ((List.forall₂_and_left _ _).mpr
      ⟨fun _ => scope_of_mem_listed hTree hInStep, hClauses⟩).imp fun _ _ hStep => hStep.1 ▸ hStep.2
  have hList := @Restored.all view added filled
    (fun r => selectClause limits r (some segment.var)) (fun r => selectFields limits r segment.var)
    (fun _ => rfl) (fun _ _ _ => rfl) _ _ hSteps hApart hAdded (hBefore.addVariable hAdd) hRun
  have hOwn := hView.addFilter_restored hMem hFilter hList.schema_eq hList.inStep h
  have hAll : Restored view added after (view.Shown segment.var) := by
    refine (hList.trans hOwn ?_).congr fun x => shown_listed hTree hInStep
    rintro x ⟨f, hf, hShown⟩ rfl
    have hAfter := hTree.after (hField hf)
    rcases hShown.eq_or_below with hSame | hBelow
    · rw [hSame] at hAfter
      exact Nat.lt_irrefl _ hAfter
    · exact Nat.lt_asymm hAfter (hTree.lt_of_below hBelow)
  have hKept := hBefore.addVariable_filter? hAdd
  refine ⟨hAll.schema_eq, hAll.inStep, fun x hNot => (hAll.kept x hNot).trans (hKept x), ?_⟩
  intro x hShown hNone
  exact hAll.attached x hShown ((hKept x).trans hNone)

/-- What is written for a listed variable is a clause that describes it and attaches its filters. -/
theorem Rerunnable.exists_restoring (hView : view.Rerunnable limits)
    (hFields : ∀ c, (view.schema.var c).fields.Nodup) {v : VarId} (hListed : view.Listed v) :
    ∃ clause, (view.Describes v clause ∧ view.Restores limits v clause) ∧
      ∀ rest, ClauseText Filter.readable clause (view.clauseChars v ++ rest) rest := by
  refine @Spelled.exists_clause view _ hView.spelled
    (fun v clause => view.Describes v clause ∧ view.Restores limits v clause) ?_ v hListed
  intro segment hMem hIn clauses filter hClauses hFilter
  refine ⟨hView.spelled.describes hMem (hView.spelled.name _ hIn).2 ?_ filter, ?_⟩
  · exact hClauses.imp fun _ _ h => h.1
  · exact hView.restores hFields hMem hIn (hClauses.imp fun _ _ h => h.2) hFilter

/-- The clauses of all top-level variables attach the filters of all that they mention. -/
theorem selectAll_restored (hTree : view.schema.Tree) (hNodup : view.vars.Nodup)
    {clauses : List Clause} (hClauses : List.Forall₂ (view.Restores limits) view.tops clauses)
    (hSchema : before.schema = view.schema) (hInStep : before.InStep)
    (h : selectAll limits before clauses = .ok after) :
    Restored view before after view.Mentioned := by
  have hSteps : List.Forall₂ (fun v clause => ∀ before after, before.schema = view.schema →
      before.InStep → selectClause limits before none clause = .ok after →
        Restored view before after (view.Shown v)) view.tops clauses :=
    ((List.forall₂_and_left _ _).mpr ⟨fun _ => scope_of_mem_tops, hClauses⟩).imp
      fun _ _ hStep => hStep.1 ▸ hStep.2
  have hApart : view.tops.Pairwise fun v w => ∀ x, view.Shown v x → ¬view.Shown w x := by
    have hOnce : view.tops.Nodup := hNodup.filter _
    have hBelow {v w : VarId} (hw : w ∈ view.tops) : ¬view.schema.Below v w := by
      intro hBelow
      have hTop := (mem_tops.mp hw).2
      rw [hTree.not_isTopLevel_of_below hBelow] at hTop
      cases hTop
    exact hOnce.pairwise_of_forall_ne fun v hv w hw hOther x =>
      Shown.apart hTree hOther (hBelow hw) (hBelow hv)
  exact @Restored.all view before after (fun r => selectClause limits r none)
    (fun r => selectAll limits r) (fun _ => rfl) (fun _ _ _ => rfl) _ _ hSteps hApart hSchema
    hInStep h

end View

end Hyperslab
