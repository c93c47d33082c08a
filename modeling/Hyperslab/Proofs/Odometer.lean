import Hyperslab.Odometer
import Mathlib.Algebra.BigOperators.Ring.List
import Mathlib.Algebra.Ring.Nat
import Mathlib.Data.List.Forall2

/-! The odometer counts in mixed radix. Its counters are the digits of the number of tuples that are
out, so a run ends after as many tuples as there are index combinations. -/
namespace Hyperslab.Odometer

/-- The number of index combinations, not held at any word. -/
def volume (slices : List Slice) : Nat := (slices.map (·.count.toNat)).prod

/-- Each counter points at an index of its slice. -/
def Within (slices : List Slice) (counters : List UInt64) : Prop :=
  List.Forall₂ (fun slice counter => counter < slice.count) slices counters

/-- The number that the counters stand for, the last digit being the lowest. -/
def place : List Slice → List UInt64 → Nat
  | _ :: slices, counter :: counters => counter.toNat * volume slices + place slices counters
  | _, _ => 0

theorem volume_cons (slice : Slice) (slices : List Slice) :
    volume (slice :: slices) = slice.count.toNat * volume slices := by
  simp [volume]

theorem place_lt {slices : List Slice} {counters : List UInt64} (h : Within slices counters) :
    place slices counters < volume slices := by
  induction h with
  | nil => simp [place, volume]
  | @cons slice counter slices counters hLt _ ih =>
      have hDigit := UInt64.lt_iff_toNat_lt.mp hLt
      have hUpTo := Nat.mul_le_mul_right (volume slices) hDigit
      rw [place, volume_cons]
      rw [Nat.succ_mul] at hUpTo
      omega

theorem place_zero {α : Type} (slices : List Slice) (entries : List α) :
    place slices (entries.map fun _ => 0) = 0 := by
  induction entries generalizing slices with
  | nil => cases slices <;> rfl
  | cons entry entries ih =>
      cases slices with
      | nil => rfl
      | cons slice slices => rw [List.map_cons, place, ih, UInt64.toNat_zero, Nat.zero_mul]

theorem within_zero {slices : List Slice} {counters : List UInt64} (h : Within slices counters) :
    Within slices (counters.map fun _ => 0) := by
  induction h with
  | nil => exact .nil
  | cons hLt _ ih =>
      refine .cons ?_ ih
      rw [UInt64.lt_iff_toNat_lt] at hLt ⊢
      simp only [UInt64.toNat_zero]
      omega

/-- Advancing counts one up, unless the counters have reached the last combination. -/
theorem advance_spec {slices : List Slice} {counters : List UInt64} (h : Within slices counters) :
    (∀ counters', advance slices counters = some counters' →
      Within slices counters' ∧ place slices counters' = place slices counters + 1) ∧
      (advance slices counters = none → place slices counters + 1 = volume slices) := by
  induction h with
  | nil => simp [advance, place, volume]
  | @cons slice counter slices counters hLt hRest ih =>
      obtain ⟨hSome, hNone⟩ := ih
      have hDigit := UInt64.lt_iff_toNat_lt.mp hLt
      have hBound := slice.count.toNat_lt
      have hNext : (counter + 1).toNat = counter.toNat + 1 := by
        rw [UInt64.toNat_add, UInt64.toNat_one]
        omega
      rw [advance]
      cases hAdvance : advance slices counters with
      | some counters' =>
          obtain ⟨hWithin, hPlace⟩ := hSome counters' hAdvance
          simp only [Option.some.injEq, forall_eq', reduceCtorEq, false_implies, and_true]
          refine ⟨.cons hLt hWithin, ?_⟩
          rw [place, place, hPlace]
          omega
      | none =>
          -- The lower digits are at their last combination, so there is a carry into this one.
          have hCarry := hNone hAdvance
          simp only
          by_cases hRoom : counter + 1 < slice.count
          · simp only [if_pos hRoom, Option.some.injEq, forall_eq', reduceCtorEq, false_implies,
              and_true]
            refine ⟨.cons hRoom (within_zero hRest), ?_⟩
            rw [place, place, place_zero, hNext, Nat.succ_mul]
            omega
          · simp only [if_neg hRoom, reduceCtorEq, false_implies, implies_true, true_and,
              forall_const]
            have hLast : slice.count.toNat = counter.toNat + 1 := by
              rw [UInt64.lt_iff_toNat_lt, hNext] at hRoom
              omega
            rw [place, volume_cons, hLast, Nat.succ_mul]
            omega

theorem length_take_of_done {o : Odometer} (h : o.done = true) (n : Nat) :
    (o.take n).1.length = 0 := by
  cases n with
  | zero => rfl
  | succ n => simp [take, next, h]

/-- The tuples that a running odometer still has are those behind its place. -/
theorem length_take_of_within {slices : List Slice} {counters : List UInt64}
    (h : Within slices counters) (n : Nat) :
    (take ⟨slices, counters, false⟩ n).1.length =
      min n (volume slices - place slices counters) := by
  induction n generalizing counters with
  | zero => simp [take]
  | succ n ih =>
      obtain ⟨hSome, hNone⟩ := advance_spec h
      have hLt := place_lt h
      simp only [take, next, Bool.false_eq_true, if_false]
      cases hAdvance : advance slices counters with
      | some counters' =>
          obtain ⟨hWithin, hPlace⟩ := hSome counters' hAdvance
          have hRest := ih hWithin
          simp only [List.length_cons, hRest, hPlace]
          omega
      | none =>
          have hLast := hNone hAdvance
          have hRest := @length_take_of_done ⟨slices, slices.map fun _ => 0, true⟩ rfl n
          simp only [List.length_cons, hRest]
          omega

theorem volume_eq_zero {slices : List Slice} (h : slices.any (·.count = 0) = true) :
    volume slices = 0 := by
  obtain ⟨slice, hMem, hCount⟩ := List.any_eq_true.mp h
  rw [volume, List.prod_eq_zero_iff]
  exact List.mem_map.mpr ⟨slice, hMem, congrArg UInt64.toNat (by simpa using hCount)⟩

theorem within_start {slices : List Slice} (h : slices.any (·.count = 0) = false) :
    Within slices (slices.map fun _ => 0) := by
  rw [Within, List.forall₂_map_right_iff, List.forall₂_same]
  intro slice hMem
  have hCount := List.any_eq_false.mp h slice hMem
  exact UInt64.pos_iff_ne_zero.mpr (by simpa using hCount)

/-- A run from the start gives as many tuples as there are index combinations. -/
theorem length_take_start (slices : List Slice) (n : Nat) :
    ((start slices).take n).1.length = min n (volume slices) := by
  cases hEmpty : slices.any (·.count = 0) with
  | true => rw [length_take_of_done hEmpty, volume_eq_zero hEmpty, Nat.min_zero]
  | false =>
      rw [start, hEmpty, length_take_of_within (within_start hEmpty), place_zero, Nat.sub_zero]

end Hyperslab.Odometer
