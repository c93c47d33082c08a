import Hyperslab.Proofs.Count
import Hyperslab.Proofs.Slice

/-! Which indices a slice selects, in which order, and that counting and listing them never leaves
the range of a word. -/
namespace Hyperslab.Slice

variable {s : Slice} {i k : UInt64}

/-- Strides from the start lead to the index before the stop is reached. A slice that is open, or
does not move on, selects nothing. -/
structure Selects (s : Slice) (i : UInt64) : Prop where
  stride : s.stride ≠ 0
  stop : ∃ stop, s.stop = some stop ∧ i < stop
  start : s.start ≤ i
  dvd : s.stride.toNat ∣ i.toNat - s.start.toNat

/-- The `k`-th index is the `k`-th selected one. -/
theorem getElem?_indices (hk : k < s.count) : s.indices[k.toNat]? = some (s.nth k) := by
  have hk' := UInt64.lt_iff_toNat_lt.mp hk
  simp [indices, firstIndices, List.getElem?_range hk']

theorem mem_indices_iff_nth : i ∈ s.indices ↔ ∃ k < s.count, s.nth k = i := by
  rw [List.mem_iff_getElem?]
  constructor
  · rintro ⟨n, hn⟩
    obtain ⟨hLt, -⟩ := List.getElem?_eq_some_iff.mp hn
    rw [length_indices] at hLt
    have hk := ofNat_lt_count hLt
    have hNth := getElem?_indices hk
    rw [toNat_ofNat_of_lt_count hLt, hn] at hNth
    exact ⟨_, hk, (Option.some.inj hNth).symm⟩
  · rintro ⟨k, hk, rfl⟩
    exact ⟨k.toNat, getElem?_indices hk⟩

/-- The indices are those that strides from the start lead to. -/
theorem mem_indices : i ∈ s.indices ↔ s.Selects i := by
  rw [mem_indices_iff_nth]
  constructor
  · rintro ⟨k, hk, rfl⟩
    obtain ⟨stop, hStop, hLt, hStride⟩ := exists_stop_of_lt_count hk
    obtain ⟨hNth, hBefore⟩ := toNat_nth hStop hLt hStride hk
    refine ⟨hStride, ⟨stop, hStop, hBefore⟩, ?_, ?_⟩
    · rw [UInt64.le_iff_toNat_le, hNth]
      exact Nat.le_add_right _ _
    · rw [hNth, Nat.add_sub_cancel_left]
      exact Nat.dvd_mul_left _ _
  · rintro ⟨hStride, ⟨stop, hStop, hBefore⟩, hStart, steps, hSteps⟩
    have hLt := UInt64.lt_of_le_of_lt hStart hBefore
    have hCount := toNat_count hStop hLt hStride
    have hBefore' := UInt64.lt_iff_toNat_lt.mp hBefore
    have hStart' := UInt64.le_iff_toNat_le.mp hStart
    have hPos : 0 < s.stride.toNat :=
      UInt64.lt_iff_toNat_lt.mp (UInt64.pos_iff_ne_zero.mpr hStride)
    -- The index lies before the stop, so it is reached in fewer strides than are counted.
    have hUpTo : steps < s.count.toNat := by
      rw [hCount, Nat.lt_succ_iff, Nat.le_div_iff_mul_le hPos, Nat.mul_comm, ← hSteps]
      omega
    have hk := ofNat_lt_count hUpTo
    refine ⟨_, hk, UInt64.toNat_inj.mp ?_⟩
    rw [(toNat_nth hStop hLt hStride hk).1, toNat_ofNat_of_lt_count hUpTo, Nat.mul_comm, ← hSteps]
    omega

theorem pairwise_indices (s : Slice) : s.indices.Pairwise (· < ·) := by
  rw [List.pairwise_iff_getElem]
  intro m n hm hn hLt
  rw [length_indices] at hm hn
  obtain ⟨stop, hStop, hBefore, hStride⟩ := exists_stop_of_lt_count (ofNat_lt_count hn)
  have hPos : 0 < s.stride.toNat := UInt64.lt_iff_toNat_lt.mp (UInt64.pos_iff_ne_zero.mpr hStride)
  have hMul := Nat.mul_lt_mul_of_pos_right hLt hPos
  simp only [indices, firstIndices, Nat.min_self, List.getElem_map, List.getElem_range]
  rw [UInt64.lt_iff_toNat_lt, (toNat_nth hStop hBefore hStride (ofNat_lt_count hm)).1,
    (toNat_nth hStop hBefore hStride (ofNat_lt_count hn)).1, toNat_ofNat_of_lt_count hm,
    toNat_ofNat_of_lt_count hn]
  omega

/-- The count, with every operation checked, as the distance to the stop divided by the stride and
rounded up. -/
def countChecked (s : Slice) : Option UInt64 :=
  match s.stop with
  | none => some 0
  | some stop =>
    if s.start < stop ∧ 0 < s.stride then do
      let distance ← subChecked stop s.start
      if distance % s.stride = 0 then some (distance / s.stride)
      else addChecked (distance / s.stride) 1
    else some 0

theorem countChecked_eq (s : Slice) : s.countChecked = some s.count := by
  unfold countChecked
  split
  · next hOpen => rw [count, hOpen]
  · next stop hStop =>
      by_cases hSome : s.start < stop ∧ 0 < s.stride
      · obtain ⟨hLt, hPos⟩ := hSome
        have hLe := UInt64.le_of_lt hLt
        have hCount := toNat_count hStop hLt (UInt64.pos_iff_ne_zero.mp hPos)
        have hLt' := UInt64.lt_iff_toNat_lt.mp hLt
        have hDistance : (stop - s.start).toNat = stop.toNat - s.start.toNat - 1 + 1 := by
          rw [UInt64.toNat_sub_of_le _ _ hLe]
          omega
        rw [if_pos ⟨hLt, hPos⟩, subChecked, if_pos hLe, Option.bind_eq_bind, Option.bind_some]
        split
        · next hEven =>
            have hDvd : s.stride.toNat ∣ stop.toNat - s.start.toNat - 1 + 1 := by
              rw [← hDistance, Nat.dvd_iff_mod_eq_zero, ← UInt64.toNat_mod, hEven]
              rfl
            refine congrArg some (UInt64.toNat_inj.mp ?_)
            rw [UInt64.toNat_div, hDistance, Nat.succ_div_of_dvd hDvd, hCount]
        · next hOdd =>
            have hNotDvd : ¬s.stride.toNat ∣ stop.toNat - s.start.toNat - 1 + 1 := by
              rw [← hDistance, Nat.dvd_iff_mod_eq_zero, ← UInt64.toNat_mod]
              exact fun hZero => hOdd (UInt64.toNat_inj.mp hZero)
            have hQuotient : ((stop - s.start) / s.stride).toNat + 1 = s.count.toNat := by
              rw [UInt64.toNat_div, hDistance, Nat.succ_div_of_not_dvd hNotDvd, hCount]
            have hWord : s.count.toNat ≤ maxWord := Nat.le_sub_one_of_lt s.count.toNat_lt
            rw [addChecked, UInt64.toNat_one, hQuotient, if_pos hWord]
            refine congrArg some (UInt64.toNat_inj.mp ?_)
            rw [UInt64.toNat_add, UInt64.toNat_one, hQuotient, Nat.mod_eq_of_lt s.count.toNat_lt]
      · simp [count, hStop, hSome]

/-- The `k`-th index, with every operation checked. -/
def nthChecked (s : Slice) (k : UInt64) : Option UInt64 := do
  addChecked s.start (← mulChecked k s.stride)

theorem nthChecked_eq (hk : k < s.count) : s.nthChecked k = some (s.nth k) := by
  obtain ⟨stop, hStop, hLt, hStride⟩ := exists_stop_of_lt_count hk
  have hNth := (toNat_nth hStop hLt hStride hk).1
  have hWord : (s.nth k).toNat ≤ maxWord := Nat.le_sub_one_of_lt (s.nth k).toNat_lt
  have hMul : k.toNat * s.stride.toNat ≤ maxWord := by omega
  have hProduct : (k * s.stride).toNat = k.toNat * s.stride.toNat := by
    rw [UInt64.toNat_mul, Nat.mod_eq_of_lt (Nat.lt_of_le_of_lt hMul (by decide))]
  have hAdd : s.start.toNat + (k * s.stride).toNat ≤ maxWord := by omega
  rw [nthChecked, mulChecked, if_pos hMul, Option.bind_eq_bind, Option.bind_some, addChecked,
    if_pos hAdd, nth]

end Hyperslab.Slice
