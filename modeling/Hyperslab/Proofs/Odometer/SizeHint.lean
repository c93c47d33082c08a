import Hyperslab.Proofs.Odometer.Tuples

/-! What an odometer promises of the tuples that it still has. Its total and the number of tuples
that are out are each held at the largest word, and the promise is their difference. That is never
too much. It is too little as an upper bound wherever the total is held and a tuple is left. -/
namespace Hyperslab.Odometer

variable {slices : List Slice} {counters : List UInt64} {o : Odometer}

/-- Where every counter points at an index of its slice, there is a tuple. -/
theorem volume_pos (h : Within slices counters) : 0 < volume slices :=
  Nat.lt_of_le_of_lt (Nat.zero_le _) (place_lt h)

/-- Holding each step of the mixed radix at the largest word comes to holding the place there. -/
theorem toNat_foldl_consumed (h : Within slices counters) (first : UInt64) :
    ((slices.zip counters).foldl (fun n (s, c) => addClamped (mulClamped n s.count) c)
        first).toNat = min (first.toNat * volume slices + place slices counters) maxWord := by
  induction h generalizing first with
  | nil =>
      have hFirst : first.toNat ≤ maxWord := Nat.le_sub_one_of_lt first.toNat_lt
      simp only [List.zip_nil_left, List.foldl_nil, volume, List.map_nil, List.prod_nil, place,
        Nat.mul_one, Nat.add_zero, Nat.min_eq_left hFirst]
  | @cons slice counter slices counters _ hRest ih =>
      have hSplit : (first.toNat * slice.count.toNat + counter.toNat) * volume slices =
          first.toNat * (slice.count.toNat * volume slices) + counter.toNat * volume slices := by
        rw [Nat.add_mul, Nat.mul_assoc]
      have hPos := volume_pos hRest
      rw [List.zip_cons_cons, List.foldl_cons, ih, toNat_addClamped, toNat_mulClamped, volume_cons,
        place, ← Nat.add_assoc, ← hSplit]
      generalize hDigits : first.toNat * slice.count.toNat + counter.toNat = digits
      rcases Nat.le_total digits maxWord with hSmall | hLarge
      · -- Nothing is held up to this digit.
        have hProduct : first.toNat * slice.count.toNat ≤ maxWord := by omega
        rw [Nat.min_eq_left hProduct, hDigits, Nat.min_eq_left hSmall]
      · -- What is held here stays at the largest word, since no later radix is zero.
        have hHeld : min (min (first.toNat * slice.count.toNat) maxWord + counter.toNat) maxWord =
            maxWord := by omega
        have hLeft := Nat.le_mul_of_pos_right maxWord hPos
        have hRight := hLarge.trans (Nat.le_mul_of_pos_right digits hPos)
        rw [hHeld, Nat.min_eq_right (Nat.le_add_right_of_le hLeft),
          Nat.min_eq_right (Nat.le_add_right_of_le hRight)]

theorem toNat_consumed (h : Within slices counters) (done : Bool) :
    (consumed ⟨slices, counters, done⟩).toNat = min (place slices counters) maxWord := by
  rw [consumed, toNat_foldl_consumed h, UInt64.toNat_zero, Nat.zero_mul, Nat.zero_add]

theorem toNat_total (slices : List Slice) (counters : List UInt64) (done : Bool) :
    (total ⟨slices, counters, done⟩).toNat = min (volume slices) maxWord := by
  rw [total, toNat_productClamped, List.map_map]
  rfl

/-- From where it stands an odometer gives the tuples behind the ones that are out. -/
theorem Stands.take {n : Nat} (h : Stands slices n o) (k : Nat) :
    (o.take k).1 = ((tuples slices).drop n).take k := by
  induction k generalizing n o with
  | zero => rfl
  | succ k ih =>
      obtain ⟨hTuple, hNext⟩ := h.next
      have hRest := ih hNext
      rw [Odometer.take]
      cases hStep : o.next with
      | mk given after =>
          rw [hStep] at hTuple hRest
          cases given with
          | none =>
              have hAll := List.getElem?_eq_none_iff.mp hTuple.symm
              rw [List.drop_eq_nil_of_le hAll, List.take_nil]
          | some tuple =>
              obtain ⟨hLt, hEq⟩ := List.getElem?_eq_some_iff.mp hTuple.symm
              rw [List.drop_eq_getElem_cons hLt, List.take_succ_cons, hEq, ← hRest]

/-- The promise of an odometer, as the number that it stands for. -/
theorem Stands.toNat_remaining {n : Nat} (h : Stands slices n o) :
    o.remaining.toNat =
      if volume slices ≤ n then 0 else min (volume slices) maxWord - min n maxWord := by
  cases h with
  | @before counters hWithin =>
      have hLt := place_lt hWithin
      rw [remaining, if_neg Bool.false_ne_true, toNat_subClamped, toNat_total,
        toNat_consumed hWithin, if_neg (by omega)]
  | behind hAll => rw [remaining, if_pos rfl, if_pos hAll, UInt64.toNat_zero]

/-- The tuples that are still to come after calls. -/
def toCome (slices : List Slice) (calls : List Call) : List (List UInt64) :=
  (tuples slices).drop (asked calls)

/-- The lower bound holds at every tuple of every run. The upper bound holds if and only if all
tuples of a run can be counted in a word or none is to come, and where they can be counted both
bounds are the number of tuples to come. -/
theorem sizeHint_bounds (slices : List Slice) (calls : List Call) :
    (∀ n, (((start slices).run calls).take n).1 = (toCome slices calls).take n) ∧
      ((start slices).run calls).sizeHint.1.toNat ≤ (toCome slices calls).length ∧
      (∃ upper, ((start slices).run calls).sizeHint.2 = some upper ∧
        ((toCome slices calls).length ≤ upper.toNat ↔
          (tuples slices).length ≤ maxWord ∨ toCome slices calls = [])) ∧
      ((tuples slices).length ≤ maxWord →
        ((start slices).run calls).sizeHint.1.toNat = (toCome slices calls).length ∧
          ((start slices).run calls).sizeHint.2 = some ((start slices).run calls).sizeHint.1) := by
  have hStands := stands_run slices calls
  have hRemaining := hStands.toNat_remaining
  have hNone : toCome slices calls = [] ↔ volume slices ≤ asked calls := by
    rw [toCome, List.drop_eq_nil_iff, length_tuples]
  have hLength : (toCome slices calls).length = volume slices - asked calls := by
    rw [toCome, List.length_drop, length_tuples]
  refine ⟨hStands.take, ?_, ⟨_, rfl, ?_⟩, fun hWord => ⟨?_, rfl⟩⟩
  · simp only [sizeHint, hRemaining, hLength]
    split <;> omega
  · simp only [hRemaining, hNone, hLength, length_tuples]
    split <;> omega
  · rw [length_tuples] at hWord
    simp only [sizeHint, hRemaining, hLength]
    split <;> omega

/-- Twice the largest number of tuples that a word can count. Both bounds are that number, before
the first of them. -/
theorem sizeHint_understates :
    (start [.full 18446744073709551615, .full 2]).sizeHint =
        (18446744073709551615, some 18446744073709551615) ∧
      (18446744073709551615 : UInt64).toNat <
        (tuples [.full 18446744073709551615, .full 2]).length := by
  constructor
  · decide
  · rw [length_tuples]
    decide

end Hyperslab.Odometer
