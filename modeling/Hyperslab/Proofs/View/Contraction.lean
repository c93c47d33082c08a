import Mathlib.Data.Finmap
import Hyperslab.Proofs.View.Coherent
import Hyperslab.Proofs.View.Whole

/-! The whole compounds, found with a memo. The question whether a variable is whole leads to the
same question for its fields, up to the first that is not, and no question is settled twice. The
fields may be visited in any order, and so may the selected variables. -/
namespace Hyperslab.View

/-- The variables for which it is settled whether they are whole, each with the answer. -/
abbrev Memo := Finmap fun _ : VarId => Bool

/-- The answer from the memo, or else the one that is found, which is then kept there. -/
def remembered (v : VarId) (ask : StateM Memo Bool) : StateM Memo Bool := do
  match (← get).lookup v with
  | some known => return known
  | none =>
    let found ← ask
    modify (Finmap.insert v found)
    return found

/-- Settle whether the variable is whole. Its fields are visited in the given order. -/
def settle (view : View) (order : VarId → List VarId) (v : VarId) : StateM Memo Bool :=
  remembered v <| (order v).allM fun field =>
    match view.segment? field with
    | none => return false
    | some segment =>
      if segment.filter.isNone && segment.slices.all (!·.constrained) then
        if v.index < field.index ∧ field.index < view.schema.vars.size then view.settle order field
        else return false
      else return false
termination_by view.schema.vars.size - v.index
decreasing_by omega

/-- The memo after these variables are settled, one after the other. -/
def settleAll (view : View) (order : VarId → List VarId) (starts : List VarId) (memo : Memo) :
    Memo :=
  starts.foldl (fun memo v => ((view.settle order v).run memo).2) memo

/-- The whole compounds among all variables that are settled on the way. -/
def contraction (view : View) (order : VarId → List VarId) (starts : List VarId) : Finset VarId :=
  let memo := view.settleAll order starts ∅
  memo.keys.filter fun v => (view.schema.var v).isCompound = true ∧ memo.lookup v = some true

/-- The answers in the memo are right, and they are about selected variables. -/
def Sound (view : View) (memo : Memo) : Prop :=
  ∀ v known, memo.lookup v = some known → v ∈ view.vars ∧ known = view.isWhole v

/-- Whatever sound memo the question is asked with, this is the answer. The memo stays sound, and
what is settled stays settled. -/
structure Answers (view : View) (ask : StateM Memo Bool) (answer : Bool) : Prop where
  eq : ∀ memo, view.Sound memo → (ask.run memo).1 = answer
  sound : ∀ memo, view.Sound memo → view.Sound (ask.run memo).2
  kept : ∀ memo v, v ∈ memo → v ∈ (ask.run memo).2

variable {view : View}

theorem sound_empty : view.Sound ∅ := by
  intro v known h
  rw [Finmap.lookup_empty] at h
  cases h

theorem Sound.insert {memo : Memo} (h : view.Sound memo) {v : VarId} (hv : v ∈ view.vars) :
    view.Sound (memo.insert v (view.isWhole v)) := by
  intro w known hw
  by_cases hSame : w = v
  · subst hSame
    rw [Finmap.lookup_insert] at hw
    exact ⟨hv, (Option.some.inj hw).symm⟩
  · rw [Finmap.lookup_insert_of_ne _ hSame] at hw
    exact h w known hw

theorem run_remembered (v : VarId) (ask : StateM Memo Bool) (memo : Memo) :
    (remembered v ask).run memo =
      match memo.lookup v with
      | some known => (known, memo)
      | none => ((ask.run memo).1, (ask.run memo).2.insert v (ask.run memo).1) := by
  show (match memo.lookup v with
    | some known => Pure.pure known
    | none => do
      let found ← ask
      modify (Finmap.insert v found)
      return found : StateM Memo Bool).run memo = _
  cases memo.lookup v <;> rfl

theorem mem_remembered (v : VarId) (ask : StateM Memo Bool) (memo : Memo) :
    v ∈ ((remembered v ask).run memo).2 := by
  rw [run_remembered]
  cases hKnown : memo.lookup v with
  | some known => exact Finmap.mem_of_lookup_eq_some hKnown
  | none => exact Finmap.mem_insert.mpr (Or.inl rfl)

theorem run_allM_cons (ask : VarId → StateM Memo Bool) (v : VarId) (vs : List VarId) (memo : Memo) :
    ((v :: vs).allM ask).run memo =
      if ((ask v).run memo).1 then (vs.allM ask).run ((ask v).run memo).2
      else (false, ((ask v).run memo).2) := by
  rw [List.allM_cons]
  show (if ((ask v).run memo).1 then vs.allM ask else Pure.pure false).run ((ask v).run memo).2 = _
  split <;> rfl

namespace Answers

theorem pure (answer : Bool) : view.Answers (Pure.pure answer) answer :=
  ⟨fun _ _ => rfl, fun _ h => h, fun _ _ h => h⟩

/-- What is found stays right as the answer from the memo. -/
theorem remembered {ask : StateM Memo Bool} {v : VarId} (hv : v ∈ view.vars)
    (h : view.Answers ask (view.isWhole v)) :
    view.Answers (View.remembered v ask) (view.isWhole v) := by
  constructor
  · intro memo hMemo
    rw [run_remembered]
    cases hKnown : memo.lookup v with
    | some known => exact (hMemo v known hKnown).2
    | none => exact h.eq memo hMemo
  · intro memo hMemo
    rw [run_remembered]
    cases memo.lookup v with
    | some known => exact hMemo
    | none =>
        rw [h.eq memo hMemo]
        exact (h.sound memo hMemo).insert hv
  · intro memo w hw
    rw [run_remembered]
    cases memo.lookup v with
    | some known => exact hw
    | none => exact Finmap.mem_insert.mpr (Or.inr (h.kept memo w hw))

/-- Those after the first no are not asked, and this makes no difference. -/
theorem allM {ask : VarId → StateM Memo Bool} {answer : VarId → Bool} {vs : List VarId}
    (h : ∀ v ∈ vs, view.Answers (ask v) (answer v)) :
    view.Answers (vs.allM ask) (vs.all answer) := by
  induction vs with
  | nil => exact .pure true
  | cons v vs ih =>
      have hFirst := h v (by simp)
      have hOthers := ih fun w hw => h w (by simp [hw])
      constructor
      · intro memo hMemo
        rw [run_allM_cons, hFirst.eq memo hMemo, List.all_cons]
        cases answer v with
        | false => rfl
        | true => exact hOthers.eq _ (hFirst.sound memo hMemo)
      · intro memo hMemo
        rw [run_allM_cons]
        split
        · exact hOthers.sound _ (hFirst.sound memo hMemo)
        · exact hFirst.sound memo hMemo
      · intro memo w hw
        rw [run_allM_cons]
        split
        · exact hOthers.kept _ w (hFirst.kept memo w hw)
        · exact hFirst.kept memo w hw

end Answers

section Order

variable {order : VarId → List VarId}

theorem mem_settle (v : VarId) (memo : Memo) : v ∈ ((view.settle order v).run memo).2 := by
  rw [settle]
  exact mem_remembered v _ memo

variable (hInStep : view.InStep) (hOrder : ∀ c f, f ∈ order c ↔ f ∈ (view.schema.var c).fields)
include hOrder

theorem all_fields (v : VarId) (check : VarId → Bool) :
    (view.schema.var v).fields.all check = (order v).all check := by
  rw [Bool.eq_iff_iff, List.all_eq_true, List.all_eq_true]
  simp only [hOrder]

include hInStep

/-- The order makes no difference to the answer, but only to what is settled on the way. -/
theorem answers_settle {v : VarId} (hv : v ∈ view.vars) :
    view.Answers (view.settle order v) (view.isWhole v) := by
  rw [settle]
  apply Answers.remembered hv
  rw [isWhole, all_fields hOrder]
  apply Answers.allM
  intro field _
  cases hFind : view.segment? field with
  | none => exact .pure false
  | some segment =>
      obtain ⟨hMem, rfl⟩ := hInStep.segment?_eq_some hFind
      dsimp only
      split
      · next hFree =>
          rw [hFree, Bool.true_and]
          split
          · exact answers_settle (hInStep.mem_vars hMem)
          · exact .pure false
      · next hBound =>
          rw [Bool.eq_false_of_not_eq_true hBound, Bool.false_and]
          exact .pure false
termination_by view.schema.vars.size - v.index

theorem settleAll_spec {starts : List VarId} {memo : Memo} (hStarts : ∀ v ∈ starts, v ∈ view.vars)
    (hMemo : view.Sound memo) : view.Sound (view.settleAll order starts memo) ∧
      ∀ v, v ∈ memo ∨ v ∈ starts → v ∈ view.settleAll order starts memo := by
  induction starts generalizing memo with
  | nil => exact ⟨hMemo, fun v hv => hv.resolve_right List.not_mem_nil⟩
  | cons start starts ih =>
      have hFirst := answers_settle hInStep hOrder (hStarts start (by simp))
      obtain ⟨hSound, hKept⟩ := ih (fun v hv => hStarts v (by simp [hv])) (hFirst.sound memo hMemo)
      refine ⟨hSound, fun v hv => hKept v ?_⟩
      rcases hv with hOld | hStart
      · exact Or.inl (hFirst.kept memo v hOld)
      · rcases List.mem_cons.mp hStart with rfl | hOther
        · exact Or.inl (mem_settle v memo)
        · exact Or.inr hOther

theorem mem_contraction {starts : List VarId} (hStarts : ∀ v, v ∈ starts ↔ v ∈ view.vars)
    (v : VarId) : v ∈ view.contraction order starts ↔
      v ∈ view.vars ∧ (view.schema.var v).isCompound = true ∧ view.isWhole v = true := by
  obtain ⟨hSound, hSettled⟩ :=
    settleAll_spec hInStep hOrder (fun v hv => (hStarts v).mp hv) sound_empty
  rw [contraction, Finset.mem_filter, Finmap.mem_keys]
  constructor
  · rintro ⟨_, hCompound, hKnown⟩
    obtain ⟨hv, hWhole⟩ := hSound v true hKnown
    exact ⟨hv, hCompound, hWhole.symm⟩
  · rintro ⟨hv, hCompound, hWhole⟩
    have hMem := hSettled v (Or.inr ((hStarts v).mpr hv))
    obtain ⟨known, hKnown⟩ := Finmap.mem_iff.mp hMem
    obtain ⟨_, rfl⟩ := hSound v known hKnown
    exact ⟨hMem, hCompound, hWhole ▸ hKnown⟩

end Order

/-- Whatever was done to a view, in whatever order its variables and their fields are visited, the
search with the memo finds the selected compounds below which all is selected and nothing is
restricted, and no other variables. They are those that are found without a memo. -/
theorem contraction_exact {schema : Schema} (hSchema : schema.Declared) (edits : List Edit)
    (order : VarId → List VarId) (hOrder : ∀ c f, f ∈ order c ↔ f ∈ (schema.var c).fields)
    (starts : List VarId) (hStarts : ∀ v, v ∈ starts ↔ v ∈ ((empty schema).applyAll edits).vars) :
    (∀ v, v ∈ ((empty schema).applyAll edits).contraction order starts ↔
      v ∈ ((empty schema).applyAll edits).vars ∧ (schema.var v).isCompound = true ∧
        ((empty schema).applyAll edits).Whole v) ∧
    ((empty schema).applyAll edits).contraction order starts =
      ((empty schema).applyAll edits).wholeCompounds.toFinset := by
  obtain ⟨hSame, hCoherent, _⟩ := reached_coherent hSchema edits
  generalize (empty schema).applyAll edits = view at *
  subst hSame
  have hMem := mem_contraction hCoherent.toInStep hOrder hStarts
  constructor
  · intro v
    rw [hMem, isWhole_iff hSchema.tree hCoherent.toInStep]
  · ext v
    rw [hMem, List.mem_toFinset, wholeCompounds, List.mem_filter, Bool.and_eq_true]

/-- All of the structure is selected, but only one field of the sequence. -/
def wholeStructureEdits : List Edit :=
  [.addVariable ⟨0⟩ [], .addVariable ⟨5⟩ [], .expand, .finish]

/-- The same is found where the search starts from the end. -/
theorem contraction_exact_sample : Schema.sample.Declared ∧
    ((empty .sample).applyAll wholeStructureEdits).contraction
      (fun c => (Schema.sample.var c).fields.reverse)
      ((empty .sample).applyAll wholeStructureEdits).vars.reverse = {⟨0⟩, ⟨2⟩} := by
  have hFound := (contraction_exact Schema.sample_declared wholeStructureEdits
    (fun c => (Schema.sample.var c).fields.reverse) (fun _ _ => List.mem_reverse)
    ((empty .sample).applyAll wholeStructureEdits).vars.reverse fun _ => List.mem_reverse).2
  have hWhole : ((empty .sample).applyAll wholeStructureEdits).wholeCompounds = [⟨0⟩, ⟨2⟩] := by
    decide +kernel
  rw [hWhole] at hFound
  exact ⟨Schema.sample_declared, hFound⟩

end Hyperslab.View
