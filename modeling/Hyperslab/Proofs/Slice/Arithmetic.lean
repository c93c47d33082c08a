import Hyperslab.Proofs.Slice.Indices

/-! The arithmetic of slices is exact: what is counted and listed is what is selected, and nothing
wraps round on the way. A slice is fitted into every dimension that has room for it, and stays what
it is. -/
namespace Hyperslab.Slice

variable {s f : Slice} {size : UInt64}

/-- The last selected index, with every operation checked. -/
def lastChecked (s : Slice) : Option (Option UInt64) := do
  let count ← s.countChecked
  if count = 0 then some none
  else some (some (← s.nthChecked (← subChecked count 1)))

theorem lastChecked_eq (s : Slice) : s.lastChecked = some s.last? := by
  rw [lastChecked, countChecked_eq, Option.bind_eq_bind, Option.bind_some, last?]
  by_cases hNone : s.count = 0
  · rw [if_pos hNone, if_pos hNone]
  · have hPos : 0 < s.count := UInt64.pos_iff_ne_zero.mpr hNone
    have hOne : 1 ≤ s.count := UInt64.le_iff_toNat_le.mpr (UInt64.lt_iff_toNat_lt.mp hPos)
    have hLast : s.count - 1 < s.count := UInt64.sub_lt (by decide) hOne
    rw [if_neg hNone, if_neg hNone, subChecked, if_pos hOne, Option.bind_some,
      nthChecked_eq hLast, Option.bind_some]

/-- All selected indices, with every operation checked. -/
def indicesChecked (s : Slice) : Option (List UInt64) := do
  let count ← s.countChecked
  (List.range count.toNat).mapM fun k => s.nthChecked (.ofNat k)

/-- As many indices as are selected can be listed one after the other. -/
theorem nthChecked_upTo {n : Nat} (h : n ≤ s.count.toNat) :
    (List.range n).mapM (fun k => s.nthChecked (.ofNat k)) =
      some ((List.range n).map fun k => s.nth (.ofNat k)) := by
  induction n with
  | zero => rfl
  | succ n ih =>
      rw [List.range_succ, List.mapM_append, ih (Nat.le_of_succ_le h), List.map_append]
      simp [nthChecked_eq (ofNat_lt_count h)]

theorem indicesChecked_eq (s : Slice) : s.indicesChecked = some s.indices := by
  rw [indicesChecked, countChecked_eq, Option.bind_eq_bind, Option.bind_some,
    nthChecked_upTo (Nat.le_refl _), indices, firstIndices, Nat.min_self]

/-- A dimension of `size` elements has room for the slice: it ends there, and if it is constrained
it selects something where there is something. An open slice ends with the dimension. -/
structure FitsIn (s : Slice) (size : UInt64) : Prop where
  stride : 1 ≤ s.stride
  start : s.start ≤ s.stop.getD size
  stop : s.stop.getD size ≤ size
  some : s.constrained = true → 0 < size → s.start < s.stop.getD size

theorem exists_fit_iff : (∃ f, s.fit size = .ok f) ↔ s.FitsIn size := by
  constructor
  · rintro ⟨f, hFit⟩
    obtain ⟨-, hStride, hStart, hStop, hSome⟩ := fit_ok hFit
    have hPos : 0 < s.stride := UInt64.pos_iff_ne_zero.mpr hStride
    refine ⟨UInt64.le_iff_toNat_le.mpr (UInt64.lt_iff_toNat_lt.mp hPos), hStart, hStop, ?_⟩
    intro hConstrained hSize
    exact (hSome hConstrained).resolve_right (UInt64.pos_iff_ne_zero.mp hSize)
  · intro h
    have hStride : s.stride ≠ 0 := by
      intro hZero
      have hOne := h.stride
      rw [hZero] at hOne
      exact absurd hOne (by decide)
    refine ⟨_, fit_of_bounds hStride h.start h.stop fun hConstrained => ?_⟩
    by_cases hSize : size = 0
    · exact Or.inr hSize
    · exact Or.inl (h.some hConstrained (UInt64.pos_iff_ne_zero.mpr hSize))

/-- `f` is the slice `s` where it is known how many elements the dimension has. -/
structure Settled (s f : Slice) (size : UInt64) : Prop where
  start : f.start = s.start
  stride : f.stride = s.stride
  constrained : f.constrained = s.constrained
  stop : ∀ stop, s.stop = some stop → f.stop = some stop
  again : f.fit size = .ok f
  inside : ∀ i ∈ f.indices, i < size
  some : s.constrained = true → 0 < size → f.indices ≠ []

theorem settled_of_fit (h : s.fit size = .ok f) : s.Settled f size := by
  have hFits : s.FitsIn size := exists_fit_iff.mp ⟨f, h⟩
  have hAgain := fit_self h
  obtain ⟨rfl, hStride, -⟩ := fit_ok h
  refine ⟨rfl, rfl, rfl, ?_, hAgain, ?_, ?_⟩
  · intro stop hStop
    rw [resolve, hStop, Option.getD_some]
  · intro i hi
    have hBefore : i < s.stop.getD size := lt_stop_of_mem_indices (s := s.resolve size) rfl hi
    exact UInt64.lt_of_lt_of_le hBefore hFits.stop
  · -- The first index of a slice that has room for one is its start.
    intro hConstrained hSize hNone
    have hStart : s.start ∈ (s.resolve size).indices := by
      refine mem_indices.mpr ⟨hStride, ⟨_, rfl, hFits.some hConstrained hSize⟩, UInt64.le_rfl, ?_⟩
      rw [resolve, Nat.sub_self]
      exact Nat.dvd_zero _
    rw [hNone] at hStart
    exact List.not_mem_nil hStart

/-- The indices of a slice are all those that strides from its start lead to before its stop, in
ascending order. Counting them, the last one and each single one are exact for all words. A slice is
fitted exactly where there is room for it, and then selects what is in the dimension. -/
theorem arithmetic_exact (s : Slice) (size : UInt64) :
    (∀ i, i ∈ s.indices ↔ s.Selects i) ∧ s.indices.Pairwise (· < ·) ∧
      s.count.toNat = s.indices.length ∧ s.last? = s.indices.getLast? ∧
      s.countChecked = some s.count ∧ s.lastChecked = some s.last? ∧
      s.indicesChecked = some s.indices ∧
      (∀ k, k < s.count →
        s.nthChecked k = some (s.nth k) ∧ s.indices[k.toNat]? = some (s.nth k)) ∧
      ((∃ f, s.fit size = .ok f) ↔ s.FitsIn size) ∧
      ∀ f, s.fit size = .ok f → s.Settled f size := by
  refine ⟨fun i => mem_indices, pairwise_indices s, s.length_indices.symm,
    s.getLast?_indices.symm, s.countChecked_eq, s.lastChecked_eq, s.indicesChecked_eq,
    fun k hk => ⟨nthChecked_eq hk, getElem?_indices hk⟩, exists_fit_iff, fun f => settled_of_fit⟩

/-- Three indices at the end of the largest dimension. There is no word a stride behind the last. -/
def outermost : Slice := ⟨18446744073709551606, 4, some 18446744073709551615, true⟩

theorem arithmetic_exact_outermost : outermost.nthChecked 3 = none ∧ 2 < outermost.count ∧
    outermost.nthChecked 2 = some 18446744073709551614 ∧
      outermost.last? = some 18446744073709551614 ∧
      outermost.indicesChecked =
        some [18446744073709551606, 18446744073709551610, 18446744073709551614] ∧
      outermost.fit 18446744073709551615 = .ok outermost ∧
      outermost.Settled outermost 18446744073709551615 := by
  obtain ⟨-, -, -, hLast, -, -, hIndices, hNth, -, hSettled⟩ :=
    arithmetic_exact outermost 18446744073709551615
  have hListed : outermost.indices =
      [18446744073709551606, 18446744073709551610, 18446744073709551614] := by decide +kernel
  have hCount : 2 < outermost.count := by decide
  have hFit : outermost.fit 18446744073709551615 = .ok outermost := by decide
  refine ⟨by decide, hCount, (hNth 2 hCount).1, ?_, ?_, hFit, hSettled outermost hFit⟩
  · rw [hLast, hListed]
    rfl
  · rw [hIndices, hListed]

end Hyperslab.Slice
