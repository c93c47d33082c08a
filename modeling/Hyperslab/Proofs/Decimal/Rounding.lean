import Hyperslab.Decimal.Shortest
import Mathlib

/-! Rounding to double precision. A mantissa with a round bit and a sticky bit stands for the exact
number, through every shift; rounded, it gives the float whose interval the number lies in. -/
namespace Hyperslab.Decimal

open Float.Model Float.Model.UnpackedFloat

/-- The number that the bits of an extended mantissa write, the sticky bit apart. -/
def anchor (em : ExtendedMantissa) : ℚ := em.mantissa + if em.roundBit then 1 / 2 else 0

/-- An extended mantissa stands for `r`. The sticky bit says that something is left behind the round
bit. -/
def Holds (r : ℚ) (em : ExtendedMantissa) : Prop :=
  if em.stickyBit then anchor em < r ∧ r < anchor em + 1 / 2 else r = anchor em

theorem Holds.floor {r : ℚ} {em : ExtendedMantissa} (h : Holds r em) :
    (em.mantissa : ℚ) ≤ r ∧ r < em.mantissa + 1 := by
  unfold Holds anchor at h
  split at h
  · split at h <;> constructor <;> linarith
  · split at h <;> constructor <;> linarith

theorem anchor_shiftRightOne (em : ExtendedMantissa) :
    anchor em.shiftRightOne = em.mantissa / 2 := by
  have hParts : (em.mantissa : ℚ) = 2 * (em.mantissa / 2 : Nat) + (em.mantissa % 2 : Nat) := by
    exact_mod_cast (Nat.div_add_mod em.mantissa 2).symm
  rw [anchor, ExtendedMantissa.shiftRightOne]
  rcases Nat.mod_two_eq_zero_or_one em.mantissa with hParity | hParity
  · rw [hParity, Nat.cast_zero] at hParts
    simp only [hParity, bne_self_eq_false, Bool.false_eq_true, if_false]
    linarith
  · rw [hParity, Nat.cast_one] at hParts
    simp only [hParity, Nat.reduceBNe, if_true]
    linarith

theorem Holds.shiftRightOne {r : ℚ} {em : ExtendedMantissa} (h : Holds r em) :
    Holds (r / 2) em.shiftRightOne := by
  have hFloor := h.floor
  rw [Holds, anchor_shiftRightOne]
  rw [Holds, anchor] at h
  cases hRound : em.roundBit with
  | true =>
      simp only [ExtendedMantissa.shiftRightOne, hRound, Bool.true_or, if_true] at h ⊢
      have hHalf : (em.mantissa : ℚ) < r := by
        split at h <;> linarith
      constructor <;> linarith
  | false =>
      cases hSticky : em.stickyBit with
      | true =>
          simp only [ExtendedMantissa.shiftRightOne, hRound, hSticky, Bool.or_true, if_true,
            Bool.false_eq_true, if_false, add_zero] at h ⊢
          constructor <;> linarith
      | false =>
          simp only [ExtendedMantissa.shiftRightOne, hRound, hSticky, Bool.or_false,
            Bool.false_eq_true, if_false, add_zero] at h ⊢
          rw [h]

theorem Holds.shiftRight {r : ℚ} {em : ExtendedMantissa} (h : Holds r em) (n : Nat) :
    Holds (r / 2 ^ n) (em >>> n) := by
  induction n with
  | zero =>
      rw [pow_zero, div_one]
      exact h
  | succ n ih =>
      rw [pow_succ, ← div_div]
      exact ih.shiftRightOne

/-- Rounding gives the number that is at most a half away. Where two numbers are, it is the even
one. -/
theorem Holds.roundedMantissa {r : ℚ} {em : ExtendedMantissa} (h : Holds r em) {n : Nat}
    (hLower : (n : ℚ) - 1 / 2 ≤ r) (hUpper : r ≤ n + 1 / 2)
    (hOdd : n % 2 = 1 → (n : ℚ) - 1 / 2 < r ∧ r < n + 1 / 2) : em.roundedMantissa = n := by
  obtain ⟨m, round, sticky⟩ := em
  cases round <;> cases sticky
  all_goals
    simp only [Holds, anchor, Bool.false_eq_true, if_false, if_true, add_zero] at h
    simp only [ExtendedMantissa.roundedMantissa, ExtendedMantissa.accuracy,
      Accuracy.roundToNearestEven]
  · have hBelow : n < m + 1 := by
      exact_mod_cast (by linarith : (n : ℚ) < m + 1)
    have hAbove : m < n + 1 := by
      exact_mod_cast (by linarith : (m : ℚ) < n + 1)
    omega
  · have hBelow : n < m + 1 := by
      exact_mod_cast (by linarith : (n : ℚ) < m + 1)
    have hAbove : m < n + 1 := by
      exact_mod_cast (by linarith : (m : ℚ) < n + 1)
    omega
  · have hBelow : n ≤ m + 1 := by
      exact_mod_cast (by linarith : (n : ℚ) ≤ m + 1)
    have hAbove : m ≤ n := by
      exact_mod_cast (by linarith : (m : ℚ) ≤ n)
    have hEven : n % 2 = 0 := by
      by_contra hNotEven
      have hStrict := hOdd (by omega)
      have hBelow' : n < m + 1 := by
        exact_mod_cast (by linarith : (n : ℚ) < m + 1)
      have hAbove' : m < n := by
        exact_mod_cast (by linarith : (m : ℚ) < n)
      omega
    omega
  · have hBelow : n < m + 2 := by
      exact_mod_cast (by linarith : (n : ℚ) < m + 2)
    have hAbove : m < n := by
      exact_mod_cast (by linarith : (m : ℚ) < n)
    omega

theorem holds_exact (m : Nat) : Holds m (ExtendedMantissa.ofMantissaAndAccuracy m .exact) := by
  simp [Holds, anchor, ExtendedMantissa.ofMantissaAndAccuracy]

/-- A quotient stands for itself when its remainder is compared with half of the divisor. -/
theorem holds_fraction (m : Nat) {num den : Nat} (h : num < den) :
    Holds (m + num / den)
      (ExtendedMantissa.ofMantissaAndAccuracy m (accuracyOfFraction num den)) := by
  have hDen : (0 : ℚ) < den := by exact_mod_cast Nat.zero_lt_of_lt h
  have hOne : (num : ℚ) / den < 1 := (div_lt_one hDen).mpr (by exact_mod_cast h)
  unfold accuracyOfFraction
  split
  · next hZero =>
      rw [hZero, Nat.cast_zero, zero_div, add_zero]
      exact holds_exact m
  · next hSome =>
      have hPos : (0 : ℚ) < num / den :=
        div_pos (by exact_mod_cast Nat.pos_of_ne_zero hSome) hDen
      rcases Nat.lt_trichotomy (2 * num) den with hLt | hEq | hGt
      · have hHalf : (num : ℚ) / den < 1 / 2 := by
          rw [div_lt_div_iff₀ hDen two_pos]
          exact_mod_cast (by omega : num * 2 < 1 * den)
        rw [Nat.compare_eq_lt.mpr hLt]
        simp only [Holds, anchor, ExtendedMantissa.ofMantissaAndAccuracy, Bool.false_eq_true,
          if_false, if_true]
        constructor <;> linarith
      · have hHalf : (num : ℚ) / den = 1 / 2 := by
          rw [div_eq_div_iff hDen.ne' two_ne_zero]
          exact_mod_cast (by omega : num * 2 = 1 * den)
        rw [Nat.compare_eq_eq.mpr hEq, hHalf]
        simp only [Holds, anchor, ExtendedMantissa.ofMantissaAndAccuracy, Bool.false_eq_true,
          if_false, if_true]
      · have hHalf : 1 / 2 < (num : ℚ) / den := by
          rw [div_lt_div_iff₀ two_pos hDen]
          exact_mod_cast (by omega : 1 * den < num * 2)
        rw [Nat.compare_eq_gt.mpr hGt]
        simp only [Holds, anchor, ExtendedMantissa.ofMantissaAndAccuracy, if_true]
        constructor <;> linarith

theorem targetExponent_eq (total : Int) :
    Format.binary64.targetExponent total = max (total - 53) (-1074) := by
  rfl

namespace Binary

/-- A mantissa and a power as a finite float other than zero has them. -/
structure Canonical (b : Binary) : Prop where
  pos : 0 < b.mantissa
  lt : b.mantissa < 2 * hiddenBit
  least : -1074 ≤ b.power
  most : b.power ≤ 971
  full : hiddenBit ≤ b.mantissa ∨ b.power = -1074
  narrow : b.narrowBelow = true ↔ b.mantissa = hiddenBit ∧ -1074 < b.power

/-- `q` is among the reals that round to the value: in units of the last place it is at most a half
away, and at most a quarter below where the next value below is nearer. -/
structure Encloses (b : Binary) (q : ℚ) : Prop where
  lower : (b.mantissa : ℚ) - 1 / 2 ≤ q / 2 ^ b.power
  upper : q / 2 ^ b.power ≤ b.mantissa + 1 / 2
  odd : b.mantissa % 2 = 1 →
    (b.mantissa : ℚ) - 1 / 2 < q / 2 ^ b.power ∧ q / 2 ^ b.power < b.mantissa + 1 / 2
  narrow : b.narrowBelow = true → (b.mantissa : ℚ) - 1 / 4 ≤ q / 2 ^ b.power

end Binary

/-- A number is rounded to an exponent that leaves it 53 bits, or to the least exponent. -/
theorem Holds.targetExponent {q : ℚ} {m : Nat} {e : Int} {em : ExtendedMantissa}
    (hm : em.mantissa = m) (h : Holds (q / 2 ^ e) em) (hBits : hiddenBit ≤ m ∨ e ≤ -1074)
    {t : Int} (ht : t = Format.binary64.targetExponent (totalExponent m e)) :
    e ≤ t ∧ -1074 ≤ t ∧ (-1074 < t → (2 : ℚ) ^ (t + 52) ≤ q) ∧ q < 2 ^ (t + 53) := by
  subst hm
  obtain ⟨hLower, hUpper⟩ := h.floor
  have hPos : (0 : ℚ) < 2 ^ e := by positivity
  rw [le_div_iff₀ hPos] at hLower
  rw [div_lt_iff₀ hPos] at hUpper
  rw [targetExponent_eq, totalExponent] at ht
  have hLog : hiddenBit ≤ em.mantissa → 52 ≤ em.mantissa.log2 := by
    intro hFull
    exact (Nat.le_log2 (Nat.ne_of_gt (Nat.lt_of_lt_of_le (by decide) hFull))).mpr hFull
  refine ⟨by omega, by omega, fun hNormal => ?_, ?_⟩
  · have hSome : em.mantissa ≠ 0 := by
      intro hZero
      have hNone : em.mantissa.log2 = 0 := by rw [hZero]; rfl
      omega
    have hLeading : (2 : ℚ) ^ em.mantissa.log2 ≤ em.mantissa := by
      exact_mod_cast Nat.log2_self_le hSome
    have hExponent : t + 52 = em.mantissa.log2 + e := by omega
    calc (2 : ℚ) ^ (t + 52) = 2 ^ em.mantissa.log2 * 2 ^ e := by
          rw [hExponent, zpow_add₀ two_ne_zero, zpow_natCast]
      _ ≤ em.mantissa * 2 ^ e := by gcongr
      _ ≤ q := hLower
  · have hNext : (em.mantissa + 1 : ℚ) ≤ 2 ^ (em.mantissa.log2 + 1) := by
      exact_mod_cast Nat.lt_log2_self
    have hExponent : (em.mantissa.log2 + 1 : Nat) + e ≤ t + 53 := by
      push_cast
      omega
    calc q < (em.mantissa + 1) * 2 ^ e := hUpper
      _ ≤ 2 ^ (em.mantissa.log2 + 1) * 2 ^ e := by gcongr
      _ = 2 ^ ((em.mantissa.log2 + 1 : Nat) + e : Int) := by
          rw [zpow_add₀ two_ne_zero, zpow_natCast]
      _ ≤ 2 ^ (t + 53) := zpow_le_zpow_right₀ one_le_two hExponent

variable {b : Binary} {q : ℚ}

theorem lt_of_two_zpow {i j : Int} (hLower : (2 : ℚ) ^ i ≤ q) (hUpper : q < 2 ^ j) : i < j :=
  (zpow_lt_zpow_iff_right₀ one_lt_two).mp (lt_of_le_of_lt hLower hUpper)

namespace Binary.Encloses

theorem lt_two_zpow (h : b.Encloses q) (hCanonical : b.Canonical) : q < 2 ^ (b.power + 53) := by
  have hPos : (0 : ℚ) < 2 ^ b.power := by positivity
  have hMantissa : (b.mantissa : ℚ) + 1 ≤ 2 ^ (53 : Int) := by
    exact_mod_cast hCanonical.lt
  calc q ≤ (b.mantissa + 1 / 2) * 2 ^ b.power := (div_le_iff₀ hPos).mp h.upper
    _ < (b.mantissa + 1) * 2 ^ b.power := by gcongr; norm_num
    _ ≤ 2 ^ (53 : Int) * 2 ^ b.power := by gcongr
    _ = 2 ^ (b.power + 53) := by rw [← zpow_add₀ two_ne_zero, add_comm]

/-- What rounds to a value that is not the least of its power has the same power. -/
theorem two_zpow_le (h : b.Encloses q) (hInside : hiddenBit < b.mantissa) :
    (2 : ℚ) ^ (b.power + 52) ≤ q := by
  have hPos : (0 : ℚ) < 2 ^ b.power := by positivity
  have hMantissa : (2 : ℚ) ^ (52 : Int) ≤ b.mantissa - 1 / 2 := by
    have hNext : 4503599627370497 ≤ b.mantissa := hInside
    have hNext' : (4503599627370497 : ℚ) ≤ b.mantissa := by exact_mod_cast hNext
    norm_num
    linarith
  calc (2 : ℚ) ^ (b.power + 52) = 2 ^ (52 : Int) * 2 ^ b.power := by
        rw [← zpow_add₀ two_ne_zero, add_comm]
    _ ≤ (b.mantissa - 1 / 2) * 2 ^ b.power := by gcongr
    _ ≤ q := (le_div_iff₀ hPos).mp h.lower

/-- What rounds to the least value of a power can have the power below. -/
theorem two_zpow_le_of_narrow (h : b.Encloses q) (hEdge : b.mantissa = hiddenBit)
    (hNarrow : b.narrowBelow = true) : (2 : ℚ) ^ (b.power + 51) ≤ q := by
  have hPos : (0 : ℚ) < 2 ^ b.power := by positivity
  have hQuarter := (le_div_iff₀ hPos).mp (h.narrow hNarrow)
  rw [hEdge] at hQuarter
  calc (2 : ℚ) ^ (b.power + 51) = 2 ^ (51 : Int) * 2 ^ b.power := by
        rw [← zpow_add₀ two_ne_zero, add_comm]
    _ ≤ (hiddenBit - 1 / 4) * 2 ^ b.power := by
        gcongr
        norm_num [hiddenBit]
    _ ≤ q := hQuarter

/-- What rounds to a value is rounded at its power, or one below where it is less than the least
value of that power. -/
theorem power (h : b.Encloses q) (hCanonical : b.Canonical) {t : Int} (hLeast : -1074 ≤ t)
    (hLower : -1074 < t → (2 : ℚ) ^ (t + 52) ≤ q) (hUpper : q < 2 ^ (t + 53)) :
    t = b.power ∨ t + 1 = b.power ∧ b.mantissa = hiddenBit ∧ b.narrowBelow = true := by
  have hAtMost : t ≤ b.power := by
    have := hCanonical.least
    by_contra hGt
    have := lt_of_two_zpow (hLower (by omega)) (h.lt_two_zpow hCanonical)
    omega
  rcases hCanonical.full with hFull | hSubnormal
  · rcases Nat.eq_or_lt_of_le hFull with hEdge | hInside
    · by_cases hSame : t = b.power
      · exact Or.inl hSame
      · have hNarrow := hCanonical.narrow.mpr ⟨hEdge.symm, by omega⟩
        have := lt_of_two_zpow (h.two_zpow_le_of_narrow hEdge.symm hNarrow) hUpper
        exact Or.inr ⟨by omega, hEdge.symm, hNarrow⟩
    · have := lt_of_two_zpow (h.two_zpow_le hInside) hUpper
      left
      omega
  · left
    omega

end Binary.Encloses

@[simp] theorem mantissa_ofMantissaAndAccuracy (m : Nat) (accuracy : Accuracy) :
    (ExtendedMantissa.ofMantissaAndAccuracy m accuracy).mantissa = m := by
  unfold ExtendedMantissa.ofMantissaAndAccuracy
  split <;> rfl

/-- Shifting to an exponent that leaves 53 bits keeps what is stood for, between the bounds that
the exponent sets. -/
theorem Holds.shiftToTargetExponent {m : Nat} {e : Int} {accuracy : Accuracy}
    (h : Holds (q / 2 ^ e) (ExtendedMantissa.ofMantissaAndAccuracy m accuracy))
    (hBits : hiddenBit ≤ m ∨ e ≤ -1074) : ∃ em t,
      UnpackedFloat.shiftToTargetExponent Format.binary64 m e accuracy = (em, t) ∧
        Holds (q / 2 ^ t) em ∧ -1074 ≤ t ∧ (-1074 < t → (2 : ℚ) ^ (t + 52) ≤ q) ∧
          q < 2 ^ (t + 53) := by
  obtain ⟨hShift, hBounds⟩ := h.targetExponent (mantissa_ofMantissaAndAccuracy m accuracy) hBits rfl
  refine ⟨ExtendedMantissa.ofMantissaAndAccuracy m accuracy >>>
    (Format.binary64.targetExponent (totalExponent m e) - e).toNat,
      Format.binary64.targetExponent (totalExponent m e), ?_, ?_, hBounds⟩
  · rw [UnpackedFloat.shiftToTargetExponent, shiftToExponent]
    congr 1
    omega
  · have hShifted := h.shiftRight (Format.binary64.targetExponent (totalExponent m e) - e).toNat
    generalize Format.binary64.targetExponent (totalExponent m e) = t at *
    have hExponent : ((t - e).toNat : Int) = t - e := by omega
    rw [div_div, ← zpow_natCast, hExponent, ← zpow_add₀ two_ne_zero, add_sub_cancel] at hShifted
    exact hShifted

/-- Shifting a mantissa that has no bits to spare does nothing. -/
theorem shiftToTargetExponent_self {m : Nat} {e : Int}
    (h : Format.binary64.targetExponent (totalExponent m e) ≤ e) :
    shiftToTargetExponent Format.binary64 m e .exact = (⟨m, false, false⟩, e) := by
  have hNone : (Format.binary64.targetExponent (totalExponent m e) - e).toNat = 0 := by omega
  rw [shiftToTargetExponent, shiftToExponent, hNone]
  simp only [Nat.cast_zero, add_zero]
  rfl

theorem Binary.Canonical.targetExponent_le (h : b.Canonical) :
    Format.binary64.targetExponent (totalExponent b.mantissa b.power) ≤ b.power := by
  have hLeast := h.least
  have hShort : b.mantissa.log2 < 53 :=
    (Nat.log2_lt (Nat.ne_of_gt h.pos)).mpr (show b.mantissa < 2 ^ 53 from h.lt)
  rw [targetExponent_eq, totalExponent]
  omega

/-- A mantissa with 54 bits is shifted once more. -/
theorem shiftToTargetExponent_carry {t : Int} (h : -1074 ≤ t) :
    shiftToTargetExponent Format.binary64 (2 * hiddenBit) t .exact =
      (⟨hiddenBit, false, false⟩, t + 1) := by
  have hOne : (Format.binary64.targetExponent (totalExponent (2 * hiddenBit) t) - t).toNat = 1 := by
    rw [targetExponent_eq, totalExponent, show (2 * hiddenBit).log2 = 53 by decide]
    omega
  rw [shiftToTargetExponent, shiftToExponent, hOne]
  rfl

/-- Just below the least value of a power the mantissa of the power below is rounded up to all that
it can be. -/
theorem Holds.roundedMantissa_carry {em : ExtendedMantissa} {t : Int} (h : Holds (q / 2 ^ t) em)
    (hEncloses : b.Encloses q) (hUpper : q < 2 ^ (t + 53)) (hNext : t + 1 = b.power)
    (hEdge : b.mantissa = hiddenBit) (hNarrow : b.narrowBelow = true) :
    em.roundedMantissa = 2 * hiddenBit := by
  have hTwice : q / 2 ^ t = 2 * (q / 2 ^ b.power) := by
    rw [← hNext, zpow_add₀ two_ne_zero, zpow_one]
    ring
  have hQuarter := hEncloses.narrow hNarrow
  have hBelow : q / 2 ^ t < 2 ^ 53 := by
    rw [div_lt_iff₀ (by positivity), ← zpow_natCast, ← zpow_add₀ two_ne_zero, add_comm]
    exact hUpper
  rw [hEdge] at hQuarter
  refine h.roundedMantissa ?_ ?_ fun hOdd => absurd hOdd (by decide)
  · rw [hTwice]
    push_cast
    linarith
  · refine hBelow.le.trans ?_
    norm_num [hiddenBit]

/-- Rounding what rounds to a value gives the value. -/
theorem roundWithAccuracy_eq {m : Nat} {e : Int} {accuracy : Accuracy}
    (hCanonical : b.Canonical) (hEncloses : b.Encloses q)
    (hHolds : Holds (q / 2 ^ e) (ExtendedMantissa.ofMantissaAndAccuracy m accuracy))
    (hBits : hiddenBit ≤ m ∨ e ≤ -1074) (s : Sign) :
    roundWithAccuracy Format.binary64 s m e accuracy =
      .finite s b.mantissa b.power hCanonical.pos := by
  obtain ⟨em, t, hFirst, hShifted, hLeast, hLower, hUpper⟩ := hHolds.shiftToTargetExponent hBits
  have hFinal {n : Nat} (hn : em.roundedMantissa = n)
      (hSecond : shiftToTargetExponent Format.binary64 n t .exact =
        (⟨b.mantissa, false, false⟩, b.power)) :
      roundWithAccuracy Format.binary64 s m e accuracy =
        .finite s b.mantissa b.power hCanonical.pos := by
    simp only [roundWithAccuracy, hFirst, hn, hSecond]
    rw [dif_neg (Nat.ne_of_gt hCanonical.pos)]
  rcases hEncloses.power hCanonical hLeast hLower hUpper with rfl | ⟨hNext, hEdge, hNarrow⟩
  · exact hFinal (hShifted.roundedMantissa hEncloses.lower hEncloses.upper hEncloses.odd)
      (shiftToTargetExponent_self hCanonical.targetExponent_le)
  · -- The number lies above the last value of its binade, and rounding carries into the next one.
    refine hFinal (hShifted.roundedMantissa_carry hEncloses hUpper hNext hEdge hNarrow) ?_
    rw [shiftToTargetExponent_carry hLeast, hEdge, hNext]

end Hyperslab.Decimal
