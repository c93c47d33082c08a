import Hyperslab.Proofs.Decimal
import Hyperslab.Proofs.Decimal.Scientific
import Mathlib.Data.Nat.Digits.Defs

/-! Floats survive being written and read. The digits that are written lie among the reals that
round to the float, whichever grid they were found on, and reading them rounds them. -/
namespace Hyperslab.Decimal

open Float.Model Float.Model.UnpackedFloat

namespace Binary

variable {b : Binary}

/-- The step of a grid, as a fraction of the last place. -/
theorem gridStep_ratio (b : Binary) (e : Int) :
    ((b.gridStep e).1 / (b.gridStep e).2 : ℚ) = 4 * (10 ^ e / 2 ^ b.power) := by
  have hUnit : (2 : ℚ) ^ b.power = 2 ^ (b.power - 2) * 4 := by
    rw [show (4 : ℚ) = 2 ^ (2 : Int) by norm_num, ← zpow_add₀ two_ne_zero, sub_add_cancel]
  rw [hUnit, zpow_eq_div two_ne_zero (b.power - 2), zpow_eq_div (by norm_num : (10 : ℚ) ≠ 0) e]
  simp only [gridStep, Nat.pow_eq]
  push_cast
  field_simp

theorem gridStep_pos (b : Binary) (e : Int) : 0 < (b.gridStep e).2 := by
  simp only [gridStep, Nat.pow_eq]
  positivity

/-- Comparing a point of a grid with a multiple of a quarter of the last place. -/
theorem gridPoint_compare (b : Binary) (e : Int) (k n : Nat) :
    (n * (b.gridStep e).2 ≤ k * (b.gridStep e).1 ↔ (n : ℚ) ≤ 4 * (k * 10 ^ e / 2 ^ b.power)) ∧
      (k * (b.gridStep e).1 ≤ n * (b.gridStep e).2 ↔
        4 * (k * 10 ^ e / 2 ^ b.power : ℚ) ≤ n) := by
  have hDen : (0 : ℚ) < (b.gridStep e).2 := by exact_mod_cast b.gridStep_pos e
  have hRatio : (k * (b.gridStep e).1 : ℚ) =
      4 * (k * 10 ^ e / 2 ^ b.power) * (b.gridStep e).2 := by
    have hStep := b.gridStep_ratio e
    rw [div_eq_iff hDen.ne'] at hStep
    rw [hStep]
    ring
  constructor
  all_goals
    rw [← mul_le_mul_iff_left₀ hDen, ← hRatio]
    exact_mod_cast Iff.rfl

theorem lowerEnd_eq (hPos : 0 < b.mantissa) :
    (b.lowerEnd : ℚ) = 4 * b.mantissa - if b.narrowBelow then 1 else 2 := by
  unfold lowerEnd
  rw [Nat.cast_sub (by split <;> omega)]
  split <;> push_cast <;> rfl

theorem upperEnd_eq (b : Binary) : (b.upperEnd : ℚ) = 4 * b.mantissa + 2 := by
  unfold upperEnd
  push_cast
  rfl

/-- A point of a grid that identifies a value rounds to it. -/
theorem encloses_of_identifiedBy (hPos : 0 < b.mantissa) {e : Int} {k : Nat}
    (h : b.identifiedBy e k = true) : b.Encloses (k * 10 ^ e) := by
  have hLower := b.gridPoint_compare e k b.lowerEnd
  have hUpper := b.gridPoint_compare e k b.upperEnd
  rw [lowerEnd_eq hPos] at hLower
  rw [upperEnd_eq] at hUpper
  unfold identifiedBy at h
  simp only at h
  split at h
  · next hEven =>
      simp only [Bool.and_eq_true, decide_eq_true_eq] at h
      have hFrom := hLower.1.mp h.1
      have hTo := hUpper.2.mp h.2
      refine ⟨?_, by linarith, by omega, fun hNarrow => ?_⟩
      · split at hFrom <;> linarith
      · rw [if_pos hNarrow] at hFrom
        linarith
  · next hOdd =>
      simp only [Bool.and_eq_true, decide_eq_true_eq] at h
      have hFrom := lt_of_not_ge fun hLe => Nat.not_le.mpr h.1 (hLower.2.mpr hLe)
      have hTo := lt_of_not_ge fun hLe => Nat.not_le.mpr h.2 (hUpper.1.mpr hLe)
      have hHalf : (b.mantissa : ℚ) - 1 / 2 < k * 10 ^ e / 2 ^ b.power := by
        split at hFrom <;> linarith
      refine ⟨hHalf.le, by linarith, fun _ => ⟨hHalf, by linarith⟩, fun hNarrow => ?_⟩
      rw [if_pos hNarrow] at hFrom
      linarith

/-- The value itself rounds to the value. -/
theorem encloses_self (b : Binary) : b.Encloses (b.mantissa * 2 ^ b.power) := by
  have hSelf : (b.mantissa * 2 ^ b.power / 2 ^ b.power : ℚ) = b.mantissa :=
    mul_div_cancel_right₀ _ (by positivity)
  refine ⟨?_, ?_, fun _ => ⟨?_, ?_⟩, fun _ => ?_⟩
  all_goals
    rw [hSelf]
    linarith

theorem exact_value (b : Binary) :
    (b.exact.digits * 10 ^ b.exact.exponent : ℚ) = b.mantissa * 2 ^ b.power := by
  unfold exact
  split
  · next hNonneg =>
      rw [zpow_zero, mul_one, Nat.pow_eq, Nat.cast_mul, Nat.cast_pow, Nat.cast_ofNat,
        ← zpow_natCast, Int.toNat_of_nonneg hNonneg]
  · next hNegative =>
      have hTen : (10 : ℚ) ^ b.power = 2 ^ b.power * 5 ^ b.power := by
        rw [← mul_zpow]
        norm_num
      have hFive : (5 : ℚ) ^ (-b.power).toNat * 5 ^ b.power = 1 := by
        rw [← zpow_natCast, Int.toNat_of_nonneg (by omega), ← zpow_add₀ (by norm_num),
          neg_add_cancel, zpow_zero]
      simp only [Nat.pow_eq, hTen]
      push_cast
      calc (b.mantissa * 5 ^ (-b.power).toNat * (2 ^ b.power * 5 ^ b.power) : ℚ) =
            b.mantissa * 2 ^ b.power * (5 ^ (-b.power).toNat * 5 ^ b.power) := by ring
        _ = b.mantissa * 2 ^ b.power := by rw [hFive, mul_one]

/-- The shortest decimal rounds to the value. -/
theorem encloses_shortest (hPos : 0 < b.mantissa) :
    b.Encloses (b.shortest.digits * 10 ^ b.shortest.exponent) := by
  unfold shortest
  simp only
  cases hFound : (List.range 20).findSome? fun (n : Nat) => b.onGrid? (b.ceilingExponent - n) with
  | none =>
      rw [Option.getD_none, exact_value]
      exact b.encloses_self
  | some d =>
      obtain ⟨n, _, hGrid⟩ := List.exists_of_findSome?_eq_some hFound
      have hExponent : d.exponent = b.ceilingExponent - n := by
        unfold onGrid? at hGrid
        simp only at hGrid
        repeat' split at hGrid
        all_goals cases hGrid
        all_goals rfl
      rw [Option.getD_some, hExponent]
      exact encloses_of_identifiedBy hPos (identifiedBy_of_onGrid? hGrid)

end Binary

theorem ofDigits_lt {digits : List Char} (h : ∀ c ∈ digits, isDigit c = true) :
    ofDigits digits < 10 ^ digits.length := by
  induction digits with
  | nil => decide
  | cons c digits ih =>
      have hDigit : c.toNat - '0'.toNat ≤ 9 := by
        have hc := h c (by simp)
        simp only [isDigit, Bool.and_eq_true, decide_eq_true_eq, Char.le_def,
          UInt32.le_iff_toNat_le] at hc
        change c.toNat - 48 ≤ 9
        have : c.toNat ≤ 57 := hc.2
        omega
      have hTail := ih fun c hc => h c (by simp [hc])
      rw [ofDigits, Nat.ofDigitChars_cons, Nat.ofDigitChars_eq_ofDigitChars_zero, Nat.mul_zero,
        Nat.zero_add, List.length_cons, Nat.pow_succ]
      calc 10 ^ digits.length * (c.toNat - '0'.toNat) + ofDigits digits
          < 10 ^ digits.length * (c.toNat - '0'.toNat) + 10 ^ digits.length :=
            Nat.add_lt_add_left hTail _
        _ = 10 ^ digits.length * (c.toNat - '0'.toNat + 1) := by ring
        _ ≤ 10 ^ digits.length * 10 := Nat.mul_le_mul_left _ (Nat.succ_le_succ hDigit)

theorem lt_pow_length_toDigits (n : Nat) : n < 10 ^ (Nat.toDigits 10 n).length := by
  have h := ofDigits_lt (isDigit_of_mem_toDigits (n := n))
  rwa [ofDigits_toDigits] at h

theorem pow_length_toDigits_le {n : Nat} (hn : n ≠ 0) :
    10 ^ ((Nat.toDigits 10 n).length - 1) ≤ n := by
  by_contra hLt
  rcases Nat.eq_zero_or_pos ((Nat.toDigits 10 n).length - 1) with hOne | hMore
  · rw [hOne] at hLt
    omega
  · have := Nat.toDigits_length 10 n _ hMore (Nat.lt_of_not_le hLt)
    omega

/-- The powers of ten that are computed reach beyond the floats on both sides. -/
theorem two_zpow_le_ten_zpow : (2 : ℚ) ^ (1200 : Int) ≤ 10 ^ (400 : Int) := by
  calc (2 : ℚ) ^ (1200 : Int) = (2 ^ (3 : Int)) ^ (400 : Int) := zpow_mul 2 3 400
    _ ≤ 10 ^ (400 : Int) := zpow_le_zpow_left₀ (by decide) (by norm_num) (by norm_num)

/-- Decimals that are taken for zero without a computation are rounded to zero. -/
theorem lt_two_zpow_of_length {n : Nat} {e : Int}
    (h : e + (Nat.toDigits 10 n).length < -400) : (n * 10 ^ e : ℚ) < 2 ^ (-1075 : Int) := by
  have hDigits : (n : ℚ) ≤ 10 ^ ((Nat.toDigits 10 n).length : Int) := by
    exact_mod_cast (lt_pow_length_toDigits n).le
  calc (n * 10 ^ e : ℚ) ≤ 10 ^ ((Nat.toDigits 10 n).length : Int) * 10 ^ e := by gcongr
    _ = 10 ^ (e + (Nat.toDigits 10 n).length) := by
        rw [← zpow_add₀ (by norm_num), add_comm]
    _ ≤ 10 ^ (-400 : Int) := zpow_le_zpow_right₀ (by norm_num) h.le
    _ = (10 ^ (400 : Int))⁻¹ := zpow_neg 10 400
    _ ≤ (2 ^ (1200 : Int))⁻¹ := inv_anti₀ (by positivity) two_zpow_le_ten_zpow
    _ = 2 ^ (-1200 : Int) := (zpow_neg 2 1200).symm
    _ < 2 ^ (-1075 : Int) := zpow_lt_zpow_right₀ one_lt_two (by decide)

/-- Decimals that are taken for infinity without a computation lie beyond the floats. -/
theorem two_zpow_le_of_length {n : Nat} {e : Int} (hn : n ≠ 0)
    (h : 400 < e + (Nat.toDigits 10 n).length) : (2 : ℚ) ^ (1024 : Int) ≤ n * 10 ^ e := by
  have hLength := List.length_pos_iff.mpr (Nat.toDigits_ne_nil (b := 10) (n := n))
  have hDigits : (10 : ℚ) ^ ((Nat.toDigits 10 n).length - 1 : Int) ≤ n := by
    rw [show ((Nat.toDigits 10 n).length : Int) - 1 = ((Nat.toDigits 10 n).length - 1 : Nat) by
      omega, zpow_natCast]
    exact_mod_cast pow_length_toDigits_le hn
  calc (2 : ℚ) ^ (1024 : Int) ≤ 2 ^ (1200 : Int) := zpow_le_zpow_right₀ one_le_two (by decide)
    _ ≤ 10 ^ (400 : Int) := two_zpow_le_ten_zpow
    _ ≤ 10 ^ ((Nat.toDigits 10 n).length - 1 + e) :=
      zpow_le_zpow_right₀ (by norm_num) (by omega)
    _ = 10 ^ ((Nat.toDigits 10 n).length - 1 : Int) * 10 ^ e := zpow_add₀ (by norm_num) _ _
    _ ≤ n * 10 ^ e := by gcongr

variable {b : Binary}

/-- What rounds to a value is neither too large nor too small to be read. -/
theorem nearest_eq (hCanonical : b.Canonical) {n : Nat} {e : Int}
    (hEncloses : b.Encloses (n * 10 ^ e)) :
    nearest n e =
      .ofModel (Float.Model.pack (.finite .positive b.mantissa b.power hCanonical.pos)) := by
  obtain ⟨hSmall, hLarge⟩ := hEncloses.range hCanonical
  have hSome : n ≠ 0 := by
    rintro rfl
    rw [Nat.cast_zero, zero_mul] at hSmall
    exact absurd hSmall (not_le.mpr (by positivity))
  have hNotSmall : ¬e + (Nat.toDigits 10 n).length < -400 := fun hLt =>
    absurd hSmall (not_le.mpr (lt_two_zpow_of_length hLt))
  have hNotLarge : ¬400 < e + (Nat.toDigits 10 n).length := fun hGt =>
    absurd hLarge (not_lt.mpr (two_zpow_le_of_length hSome hGt))
  unfold nearest
  simp only [hSome, hNotSmall, hNotLarge, or_self, if_false]
  exact ofScientific_float hCanonical hSome hEncloses

/-- Negating a float of either sign turns its sign. -/
theorem neg_pack (hCanonical : b.Canonical) :
    -Float.ofModel (Float.Model.pack (.finite .positive b.mantissa b.power hCanonical.pos)) =
      .ofModel (Float.Model.pack (.finite .negative b.mantissa b.power hCanonical.pos)) := by
  have hUnpack := hCanonical.unpack_pack .positive
  change Float.ofModel (Float.Model.pack (UnpackedFloat.neg (Float.Model.pack
    (.finite .positive b.mantissa b.power hCanonical.pos)).unpack)) = _
  rw [hUnpack]
  rfl

variable {x : Float}

/-- A zero is known by its sign. -/
theorem eq_zero (h : magnitude x = 0) : x = if isNegative x then -0 else 0 := by
  apply eq_of_toBits
  rw [toNat_toBits, h, signOf]
  split
  · decide +kernel
  · decide +kernel

theorem Literal.toFloat_eq {l : Literal} (hFinite : isFinite x = true)
    (hSign : l.negative = isNegative x) (hValue : l.absolute = written x) : l.toFloat = x := by
  unfold written Literal.absolute at hValue
  split at hValue
  · next hZero =>
      have hDigits : ofDigits (l.whole ++ l.fraction) = 0 := by
        have hPos : (10 : ℚ) ^ (l.exponent - l.fraction.length) ≠ 0 := by positivity
        exact_mod_cast (mul_eq_zero.mp hValue).resolve_right hPos
      have hNearest (e : Int) : nearest 0 e = 0 := by simp [nearest]
      rw [toFloat, hDigits, hSign, hNearest]
      exact (eq_zero hZero).symm
  · next hSome =>
      have hCanonical := canonical_ofFloat hFinite hSome
      have hEncloses := Binary.encloses_shortest hCanonical.pos
      rw [← hValue] at hEncloses
      rw [toFloat, nearest_eq hCanonical hEncloses, hSign, neg_pack hCanonical]
      have hPack := pack_ofFloat hFinite hSome
      rw [signOf] at hPack
      split
      · next hNegative =>
          simpa [hNegative] using hPack
      · next hPositive =>
          simpa [hPositive] using hPack

/-- A finite float is read back from its text. -/
theorem readFloat?_chars_finite (h : isFinite x = true) : readFloat? (chars x) = some x := by
  obtain ⟨n, hValid, hChars, hSign, hValue⟩ := chars_numeral h
  rw [hChars, readFloat?_chars hValid]
  exact congrArg some (Literal.toFloat_eq h hSign hValue)

end Hyperslab.Decimal
