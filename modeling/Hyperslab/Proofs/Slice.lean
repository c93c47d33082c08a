import Hyperslab.Slice

/-! Counting the indices of a slice, and the slice that its text stands for. The text names the last
selected index, so the stop may come out smaller; the selected indices stay the same. -/
namespace Hyperslab.Slice

variable {s f g : Slice} {size stop : UInt64}

/-- What a slice that fits has become, and what has been checked of it. -/
theorem fit_ok (h : s.fit size = .ok f) :
    f = s.resolve size ∧ s.stride ≠ 0 ∧ s.start ≤ s.stop.getD size ∧ s.stop.getD size ≤ size ∧
      (s.constrained = true → s.start < s.stop.getD size ∨ size = 0) := by
  simp only [fit] at h
  split at h
  · cases h
  · next hStride =>
      split at h
      · cases h
      · next hStart =>
          split at h
          · cases h
          · next hSize =>
              split at h
              · cases h
              · next hSome =>
                  cases h
                  refine ⟨rfl, hStride, UInt64.not_lt.mp hStart, UInt64.not_lt.mp hSize, ?_⟩
                  intro hC
                  simp only [hC, true_and, not_and, UInt64.not_lt] at hSome
                  by_cases hLt : s.start < s.stop.getD size
                  · exact Or.inl hLt
                  · apply Or.inr
                    have := hSome (UInt64.not_lt.mp hLt)
                    rw [UInt64.le_iff_toNat_le] at this
                    apply UInt64.toNat_inj.mp
                    simpa using this

/-- What has been checked of a slice that fits is all that is asked for. -/
theorem fit_of_bounds (hStride : s.stride ≠ 0) (hStart : s.start ≤ s.stop.getD size)
    (hStop : s.stop.getD size ≤ size)
    (hSome : s.constrained = true → s.start < s.stop.getD size ∨ size = 0) :
    s.fit size = .ok (s.resolve size) := by
  simp only [fit]
  rw [if_neg hStride, if_neg (UInt64.not_lt.mpr hStart), if_neg (UInt64.not_lt.mpr hStop), if_neg]
  rintro ⟨hConstrained, hLe, hPos⟩
  rcases hSome hConstrained with hLt | rfl
  · exact UInt64.not_lt.mpr hLe hLt
  · exact UInt64.lt_irrefl 0 hPos

/-- What has been fitted fits. -/
theorem fit_self (h : s.fit size = .ok f) : f.fit size = .ok f := by
  obtain ⟨rfl, hStride, hStart, hStop, hSome⟩ := fit_ok h
  exact fit_of_bounds (s := s.resolve size) hStride hStart hStop hSome

theorem whole_fits (size : UInt64) : ∃ g, whole.fit size = .ok g :=
  ⟨_, fit_of_bounds (by decide) UInt64.zero_le UInt64.le_rfl nofun⟩

theorem toNat_count (hStop : s.stop = some stop) (hLt : s.start < stop) (hStride : s.stride ≠ 0) :
    s.count.toNat = (stop.toNat - s.start.toNat - 1) / s.stride.toNat + 1 := by
  have hPos : 0 < s.stride := UInt64.pos_iff_ne_zero.mpr hStride
  have hLt' := UInt64.lt_iff_toNat_lt.mp hLt
  have hDiv := Nat.div_le_self (stop.toNat - s.start.toNat - 1) s.stride.toNat
  have hBound := stop.toNat_lt
  simp only [count, hStop, hLt, hPos, and_self, if_true]
  rw [UInt64.toNat_add, UInt64.toNat_div, UInt64.toNat_sub_of_le, UInt64.toNat_sub_of_le]
  · simp
    omega
  · exact UInt64.le_of_lt hLt
  · rw [UInt64.le_iff_toNat_le, UInt64.toNat_sub_of_le _ _ (UInt64.le_of_lt hLt)]
    simp
    omega

/-- The slice that the text of a slice stands for. -/
def rewritten (s : Slice) : Slice :=
  if s.constrained then
    match s.last? with
    | some last => if last = s.start then .index s.start else .range s.start s.stride (some last)
    | none => .range s.start s.stride none
  else .whole

theorem rewritten_constrained (s : Slice) : s.rewritten.constrained = s.constrained := by
  cases hConstrained : s.constrained with
  | false => simp [rewritten, hConstrained, whole]
  | true =>
      simp only [rewritten, hConstrained, if_true]
      split
      · split <;> rfl
      · rfl

/-- Slices select the same indices where they start and count alike, and step alike if they step. -/
theorem indices_congr (hStart : f.start = g.start) (hCount : f.count = g.count)
    (hStride : f.stride = g.stride ∨ f.count.toNat ≤ 1) : f.indices = g.indices := by
  simp only [indices, firstIndices, Nat.min_self, ← hCount]
  apply List.map_congr_left
  intro k hk
  rcases hStride with hStride | hOne
  · rw [nth, nth, hStart, hStride]
  · have hZero : k = 0 := by
      have := List.mem_range.mp hk
      omega
    simp [nth, hZero, hStart]

/-- An index within the count lies before the stop, a number of strides behind the start. -/
theorem toNat_nth (hStop : s.stop = some stop) (hLt : s.start < stop) (hStride : s.stride ≠ 0)
    {k : UInt64} (hk : k < s.count) :
    (s.nth k).toNat = s.start.toNat + k.toNat * s.stride.toNat ∧ s.nth k < stop := by
  have hCount := toNat_count hStop hLt hStride
  have hLt' := UInt64.lt_iff_toNat_lt.mp hLt
  have hBound := stop.toNat_lt
  have hUpTo := UInt64.lt_iff_toNat_lt.mp hk
  have hMul := Nat.div_mul_le_self (stop.toNat - s.start.toNat - 1) s.stride.toNat
  have hSteps : k.toNat * s.stride.toNat ≤
      (stop.toNat - s.start.toNat - 1) / s.stride.toNat * s.stride.toNat :=
    Nat.mul_le_mul_right _ (by omega)
  have hNth : (s.nth k).toNat = s.start.toNat + k.toNat * s.stride.toNat := by
    rw [nth, UInt64.toNat_add, UInt64.toNat_mul, Nat.mod_eq_of_lt (a := _ * _) (by omega),
      Nat.mod_eq_of_lt (by omega)]
  refine ⟨hNth, ?_⟩
  rw [UInt64.lt_iff_toNat_lt, hNth]
  omega

/-- Only a slice with a stop behind its start and a stride selects anything. -/
theorem exists_stop_of_count (h : s.count ≠ 0) :
    ∃ stop, s.stop = some stop ∧ s.start < stop ∧ s.stride ≠ 0 := by
  unfold count at h
  split at h
  · next stop hStop =>
      split at h
      · next hSome => exact ⟨stop, hStop, hSome.1, UInt64.pos_iff_ne_zero.mp hSome.2⟩
      · exact absurd rfl h
  · exact absurd rfl h

@[simp] theorem length_indices (s : Slice) : s.indices.length = s.count.toNat := by
  simp [indices, firstIndices]

/-- What is within the count shows that something is selected. -/
theorem exists_stop_of_lt_count {k : UInt64} (hk : k < s.count) :
    ∃ stop, s.stop = some stop ∧ s.start < stop ∧ s.stride ≠ 0 :=
  exists_stop_of_count (UInt64.pos_iff_ne_zero.mp (UInt64.lt_of_le_of_lt UInt64.zero_le hk))

/-- A number within the count is that of a word. -/
theorem toNat_ofNat_of_lt_count {n : Nat} (h : n < s.count.toNat) : (UInt64.ofNat n).toNat = n :=
  UInt64.toNat_ofNat_of_lt' (Nat.lt_trans h s.count.toNat_lt)

theorem ofNat_lt_count {n : Nat} (h : n < s.count.toNat) : UInt64.ofNat n < s.count := by
  rw [UInt64.lt_iff_toNat_lt, toNat_ofNat_of_lt_count h]
  exact h

theorem lt_stop_of_mem_indices (hStop : s.stop = some stop) {i : UInt64} (h : i ∈ s.indices) :
    i < stop := by
  simp only [indices, firstIndices, Nat.min_self, List.mem_map, List.mem_range] at h
  obtain ⟨k, hk, rfl⟩ := h
  have hUpTo := ofNat_lt_count hk
  obtain ⟨stop', hStop', hLt, hStride⟩ := exists_stop_of_lt_count hUpTo
  obtain rfl : stop' = stop := Option.some.inj (hStop'.symm.trans hStop)
  exact (toNat_nth hStop hLt hStride hUpTo).2

/-- No more indices are selected than lie before the stop. -/
theorem count_le_stop (hStop : s.stop = some stop) : s.count ≤ stop := by
  by_cases hNonzero : s.count = 0
  · rw [hNonzero]
    exact UInt64.zero_le
  · obtain ⟨stop', hStop', hLt, hStride⟩ := exists_stop_of_count hNonzero
    obtain rfl : stop' = stop := Option.some.inj (hStop'.symm.trans hStop)
    have hCount := toNat_count hStop hLt hStride
    have hLt' := UInt64.lt_iff_toNat_lt.mp hLt
    have hSteps := Nat.div_le_self (stop'.toNat - s.start.toNat - 1) s.stride.toNat
    rw [UInt64.le_iff_toNat_le]
    omega

/-- The last index lies before the stop, a number of strides behind the start. -/
theorem last?_eq (hStop : s.stop = some stop) (hLt : s.start < stop) (hStride : s.stride ≠ 0) :
    ∃ last, s.last? = some last ∧ last.toNat =
      s.start.toNat + (stop.toNat - s.start.toNat - 1) / s.stride.toNat * s.stride.toNat ∧
        last < stop := by
  have hCount := toNat_count hStop hLt hStride
  have hNonzero : s.count ≠ 0 := by
    intro hZero
    rw [hZero] at hCount
    simp at hCount
  have hOne : (1 : UInt64) ≤ s.count := by
    rw [UInt64.le_iff_toNat_le, hCount]
    simp
  have hLast : (s.count - 1).toNat = (stop.toNat - s.start.toNat - 1) / s.stride.toNat := by
    rw [UInt64.toNat_sub_of_le _ _ hOne, hCount, UInt64.toNat_one, Nat.add_sub_cancel]
  have hUpTo : s.count - 1 < s.count := by
    rw [UInt64.lt_iff_toNat_lt, hLast, hCount]
    exact Nat.lt_succ_self _
  obtain ⟨hNat, hBefore⟩ := toNat_nth hStop hLt hStride hUpTo
  exact ⟨s.nth (s.count - 1), by simp [last?, hNonzero], hLast ▸ hNat, hBefore⟩

/-- A slice that stops right behind `last` counts the strides up to there. -/
theorem toNat_count_upTo {last : UInt64} (hStop : s.stop = some (addClamped last 1))
    (hNext : (addClamped last 1).toNat = last.toNat + 1) (hLe : s.start ≤ last)
    (hStride : s.stride ≠ 0) :
    s.count.toNat = (last.toNat - s.start.toNat) / s.stride.toNat + 1 := by
  have hLe' := UInt64.le_iff_toNat_le.mp hLe
  have hLt : s.start < addClamped last 1 := by
    rw [UInt64.lt_iff_toNat_lt, hNext]
    omega
  have hSteps : last.toNat + 1 - s.start.toNat - 1 = last.toNat - s.start.toNat := by omega
  rw [toNat_count hStop hLt hStride, hNext, hSteps]

/-- A slice that selects something is written with its last index. -/
theorem rewritten_of_lt (hConstrained : s.constrained = true) (hStop : s.stop = some stop)
    (hLt : s.start < stop) (hStride : s.stride ≠ 0) :
    s.rewritten.isResolved = true ∧ s.rewritten.indices = s.indices ∧
      s.rewritten.count = s.count := by
  obtain ⟨last, hLast, hNat, hBefore⟩ := last?_eq hStop hLt hStride
  have hCount := toNat_count hStop hLt hStride
  have hLast' := UInt64.lt_iff_toNat_lt.mp hBefore
  have hBound := stop.toNat_lt
  have hNext : (addClamped last 1).toNat = last.toNat + 1 := by
    simp [maxWord, UInt64.size]
    omega
  have hPos : 0 < s.stride.toNat := UInt64.lt_iff_toNat_lt.mp (UInt64.pos_iff_ne_zero.mpr hStride)
  have hSteps : last.toNat - s.start.toNat =
      (stop.toNat - s.start.toNat - 1) / s.stride.toNat * s.stride.toNat := by omega
  simp only [rewritten, hConstrained, if_true, hLast]
  split
  · next hSame =>
      subst hSame
      have hOne : s.count.toNat = 1 := by
        rw [Nat.sub_self, eq_comm, Nat.mul_eq_zero] at hSteps
        omega
      have hIndex : (Slice.index s.start).count = s.count := by
        apply UInt64.toNat_inj.mp
        rw [toNat_count_upTo (s := .index s.start) rfl hNext UInt64.le_rfl (by simp [index]), hOne]
        simp [index]
      have hShort : (Slice.index s.start).count.toNat ≤ 1 := Nat.le_of_eq (by rw [hIndex, hOne])
      exact ⟨rfl, indices_congr rfl hIndex (Or.inr hShort), hIndex⟩
  · have hRange : (Slice.range s.start s.stride (some last)).count = s.count := by
      apply UInt64.toNat_inj.mp
      have hLe : s.start ≤ last := UInt64.le_iff_toNat_le.mpr (by omega)
      rw [toNat_count_upTo (s := .range s.start s.stride (some last)) rfl hNext hLe hStride, hCount]
      simp only [range]
      rw [hSteps, Nat.mul_div_cancel _ hPos]
    exact ⟨rfl, indices_congr rfl hRange (Or.inl rfl), hRange⟩

theorem rewritten_of_not_lt (hConstrained : s.constrained = true) (hStop : s.stop = some stop)
    (h : ¬s.start < stop) : s.rewritten = .range s.start s.stride none := by
  have hCount : s.count = 0 := by simp [count, hStop, h]
  simp [rewritten, hConstrained, last?, hCount]

theorem getLast?_indices (s : Slice) : s.indices.getLast? = s.last? := by
  rw [indices, firstIndices, Nat.min_self, List.getLast?_map, List.getLast?_range, last?]
  by_cases hNone : s.count = 0
  · simp [hNone]
  · have hCount : s.count.toNat ≠ 0 := fun hZero => hNone (UInt64.toNat_inj.mp hZero)
    have hOne : (1 : UInt64) ≤ s.count := by
      rw [UInt64.le_iff_toNat_le, UInt64.toNat_one]
      omega
    have hLast : UInt64.ofNat (s.count.toNat - 1) = s.count - 1 := by
      apply UInt64.toNat_inj.mp
      rw [UInt64.toNat_sub_of_le _ _ hOne, UInt64.toNat_ofNat_of_lt', UInt64.toNat_one]
      exact Nat.lt_of_le_of_lt (Nat.sub_le _ _) s.count.toNat_lt
    rw [if_neg hCount, if_neg hNone, Option.map_some, hLast]

/-- A slice that selects the same indices when it is written and read is written in the same way
again. -/
theorem chars_rewritten (h : s.rewritten.indices = s.indices) : s.rewritten.chars = s.chars := by
  have hLast : s.rewritten.last? = s.last? := by
    rw [← getLast?_indices, h, getLast?_indices]
  simp only [chars, rewritten_constrained, hLast]
  cases hConstrained : s.constrained with
  | false => rfl
  | true =>
      cases hFound : s.last? with
      | none =>
          have hOpen : s.rewritten = .range s.start s.stride none := by
            simp [rewritten, hConstrained, hFound]
          rw [hOpen]
          rfl
      | some last =>
          by_cases hPoint : last = s.start
          · have hIndex : s.rewritten = .index s.start := by
              simp [rewritten, hConstrained, hFound, hPoint]
            simp [hIndex, hPoint, index]
          · have hRange : s.rewritten = .range s.start s.stride (some last) := by
              simp [rewritten, hConstrained, hFound, hPoint]
            rw [hRange]
            rfl

theorem resolve_of_isResolved (h : s.isResolved = true) (size : UInt64) : s.resolve size = s := by
  obtain ⟨start, stride, stop, constrained⟩ := s
  obtain ⟨stop, rfl⟩ := Option.isSome_iff_exists.mp h
  rfl

/-- Where a slice fits and selects nothing, the dimension is empty and an open end is as good as the
stop. -/
theorem stop_eq_of_not_lt (hStop : s.stop.getD size ≤ size)
    (hSome : s.start < s.stop.getD size ∨ size = 0) (h : ¬s.start < s.stop.getD size) :
    size = 0 ∧ s.stop.getD size = size := by
  have hZero := hSome.resolve_left h
  refine ⟨hZero, ?_⟩
  rw [hZero] at hStop ⊢
  exact UInt64.le_antisymm hStop UInt64.zero_le

/-- A constrained slice that fits is written as one that fits. -/
theorem rewritten_fits (h : s.fit size = .ok f) (hConstrained : s.constrained = true) :
    ∃ g, f.rewritten.fit size = .ok g := by
  obtain ⟨rfl, hStride, hStart, hStop, hSome⟩ := fit_ok h
  by_cases hLt : s.start < s.stop.getD size
  · obtain ⟨last, hLast, hNat, hBefore⟩ :=
      last?_eq (s := s.resolve size) rfl hLt hStride
    have hLt' := UInt64.lt_iff_toNat_lt.mp hBefore
    have hBound := (s.stop.getD size).toNat_lt
    have hNext : (addClamped last 1).toNat = last.toNat + 1 := by
      simp [maxWord, UInt64.size]
      omega
    have hStop' : addClamped last 1 ≤ size := by
      refine UInt64.le_trans ?_ hStop
      rw [UInt64.le_iff_toNat_le, hNext]
      exact hLt'
    have hStart' : s.start < addClamped last 1 := by
      rw [UInt64.lt_iff_toNat_lt, hNext, hNat]
      exact Nat.lt_succ_of_le (Nat.le_add_right _ _)
    simp only [rewritten, resolve, hConstrained, if_true] at hLast ⊢
    rw [hLast]
    simp only
    split
    · next hSame =>
        subst hSame
        exact ⟨_, fit_of_bounds (by simp [index]) (UInt64.le_of_lt hStart') hStop'
          fun _ => Or.inl hStart'⟩
    · exact ⟨_, fit_of_bounds hStride (UInt64.le_of_lt hStart') hStop' fun _ => Or.inl hStart'⟩
  · obtain ⟨hZero, hEnd⟩ := stop_eq_of_not_lt hStop (hSome hConstrained) hLt
    rw [rewritten_of_not_lt (s := s.resolve size) hConstrained rfl hLt]
    exact ⟨_, fit_of_bounds hStride (hEnd ▸ hStart) UInt64.le_rfl fun _ => Or.inr hZero⟩

/-- A constrained slice that fits selects the same indices when it is written and read again, and is
written as before. -/
theorem rewritten_fit (h : s.fit size = .ok f) (hConstrained : s.constrained = true)
    (h' : f.rewritten.fit size = .ok g) :
    g.indices = f.indices ∧ g.count = f.count ∧ g.chars = f.chars := by
  obtain ⟨rfl, hStride, hStart, hStop, hSome⟩ := fit_ok h
  obtain ⟨rfl, _⟩ := fit_ok h'
  by_cases hLt : s.start < s.stop.getD size
  · obtain ⟨hResolved, hIndices, hCount⟩ :=
      rewritten_of_lt (s := s.resolve size) hConstrained rfl hLt hStride
    rw [resolve_of_isResolved hResolved]
    exact ⟨hIndices, hCount, chars_rewritten hIndices⟩
  · have hSize := (stop_eq_of_not_lt hStop (hSome hConstrained) hLt).2
    rw [rewritten_of_not_lt (s := s.resolve size) hConstrained rfl hLt]
    have hSame : (range (s.resolve size).start (s.resolve size).stride none).resolve size =
        s.resolve size := by
      simp [range, resolve, hSize, hConstrained]
    rw [hSame]
    exact ⟨rfl, rfl, rfl⟩

end Hyperslab.Slice
