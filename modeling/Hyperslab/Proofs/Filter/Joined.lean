import Hyperslab.Proofs.Filter.Evaluation
import Hyperslab.Proofs.Filter.Reread
import Hyperslab.Proofs.View.Edit

/-! The filter of a sequence that several filters are attached to. Each of them is joined to those
before it, so the filter is a conjunction that leans to the left. -/
namespace Hyperslab

open SameResult (bind_eq_ok_iff)

namespace View

/-- The filter of a segment after some more are attached, one after the other. -/
def joinAll (earlier : Option Filter) (filters : List Filter) : Option Filter :=
  filters.foldl (fun earlier filter => some (joinFilter earlier filter)) earlier

@[simp] theorem joinAll_nil (earlier : Option Filter) : joinAll earlier [] = earlier := rfl

@[simp] theorem joinAll_cons (earlier : Option Filter) (filter : Filter) (filters : List Filter) :
    joinAll earlier (filter :: filters) = joinAll (some (joinFilter earlier filter)) filters := rfl

theorem joinAll_append (earlier : Option Filter) (filters more : List Filter) :
    joinAll earlier (filters ++ more) = joinAll (joinAll earlier filters) more :=
  List.foldl_append

theorem joinAll_eq_none {filters : List Filter} : joinAll none filters = none ↔ filters = [] := by
  have hSome (filters : List Filter) : ∀ first, ∃ filter,
      joinAll (some first) filters = some filter := by
    induction filters with
    | nil => exact fun first => ⟨first, rfl⟩
    | cons filter filters ih => exact fun first => ih (.conj first filter)
  cases filters with
  | nil => simp
  | cons filter filters =>
      obtain ⟨joined, hJoined⟩ := hSome filters filter
      rw [joinAll_cons, joinFilter, hJoined]
      simp

end View

namespace Filter

variable {schema : Schema} {row : Row}

theorem accepts_conj_eq_ok {a b : Filter} {passes : Bool} :
    (conj a b).accepts schema row = .ok passes ↔ ∃ left, a.accepts schema row = .ok left ∧
      ∃ right, b.accepts schema row = .ok right ∧ (left && right) = passes := by
  rw [accepts_conj]
  simp only [bind_eq_ok_iff]
  refine exists_congr fun left => and_congr_right fun _ => exists_congr fun right =>
    and_congr_right fun _ => ?_
  exact ⟨Except.ok.inj, congrArg Except.ok⟩

/-- All filters can be evaluated, and `passes` says whether all of them let the row pass. -/
def AllAccept (schema : Schema) (row : Row) (filters : List Filter) (passes : Bool) : Prop :=
  (∀ filter ∈ filters, ∃ accepted, filter.accepts schema row = .ok accepted) ∧
    (passes = true ↔ ∀ filter ∈ filters, filter.accepts schema row = .ok true)

/-- A joined filter lets a row pass if all that it is joined from do, and is evaluated if all of
these are. -/
theorem accepts_joinAll {filters : List Filter} {first filter : Filter} {passes : Bool}
    (h : View.joinAll (some first) filters = some filter) :
    filter.accepts schema row = .ok passes ↔ AllAccept schema row (first :: filters) passes := by
  induction filters generalizing first with
  | nil =>
      cases h
      simp only [AllAccept, List.mem_singleton, forall_eq]
      constructor
      · intro hAccepts
        rw [hAccepts]
        exact ⟨⟨passes, rfl⟩, by simp⟩
      · rintro ⟨⟨accepted, hAccepts⟩, hPasses⟩
        rw [hAccepts] at hPasses ⊢
        rw [Except.ok.injEq] at hPasses ⊢
        rw [Bool.eq_iff_iff, hPasses]
  | cons next filters ih =>
      have hEvaluated : (∃ accepted, (conj first next).accepts schema row = .ok accepted) ↔
          (∃ accepted, first.accepts schema row = .ok accepted) ∧
            ∃ accepted, next.accepts schema row = .ok accepted := by
        simp only [accepts_conj_eq_ok]
        constructor
        · rintro ⟨_, left, hLeft, right, hRight, _⟩
          exact ⟨⟨left, hLeft⟩, right, hRight⟩
        · rintro ⟨⟨left, hLeft⟩, right, hRight⟩
          exact ⟨_, left, hLeft, right, hRight, rfl⟩
      have hTrue : (conj first next).accepts schema row = .ok true ↔
          first.accepts schema row = .ok true ∧ next.accepts schema row = .ok true := by
        simp only [accepts_conj_eq_ok, Bool.and_eq_true]
        constructor
        · rintro ⟨_, hLeft, _, hRight, rfl, rfl⟩
          exact ⟨hLeft, hRight⟩
        · rintro ⟨hLeft, hRight⟩
          exact ⟨true, hLeft, true, hRight, rfl, rfl⟩
      have hRest := @ih (conj first next) h
      rw [hRest]
      simp only [AllAccept, List.forall_mem_cons, hEvaluated, hTrue, and_assoc]

theorem AllAccept.perm {filters others : List Filter} {passes : Bool} (hPerm : filters.Perm others)
    (h : AllAccept schema row filters passes) : AllAccept schema row others passes := by
  obtain ⟨hEvaluated, hPasses⟩ := h
  refine ⟨fun filter hMem => hEvaluated filter (hPerm.mem_iff.mpr hMem), ?_⟩
  rw [hPasses]
  exact forall_congr' fun filter => imp_congr_left hPerm.mem_iff

/-- In which order filters are attached shows in faults only. -/
theorem accepts_joinAll_perm {filters others : List Filter} {filter other : Filter}
    (hPerm : filters.Perm others) (h : View.joinAll none filters = some filter)
    (h' : View.joinAll none others = some other) :
    SameResult (filter.accepts schema row) (other.accepts schema row) := by
  cases filters with
  | nil => cases h
  | cons first filters =>
      cases others with
      | nil => cases h'
      | cons first' others =>
          intro passes
          rw [accepts_joinAll h, accepts_joinAll h']
          exact ⟨.perm hPerm, .perm hPerm.symm⟩

end Filter

end Hyperslab
