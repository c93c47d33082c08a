import Hyperslab.Proofs.Decimal.Packing
import Mathlib.Tactic.FieldSimp

/-! Reading a decimal as a float. The product or the quotient of the digits and a power of ten is
rounded once, so a decimal is read as the float whose interval it lies in. -/
namespace Hyperslab.Decimal

open Float.Model Float.Model.UnpackedFloat

variable {b : Binary} {q : ℚ}

/-- Multiplying rounds the product. -/
theorem mul_eq (hCanonical : b.Canonical) {m₁ m₂ : Nat} {e₁ e₂ : Int} (h₁ : 0 < m₁) (h₂ : 0 < m₂)
    (hEncloses : b.Encloses (m₁ * 2 ^ e₁ * (m₂ * 2 ^ e₂))) (hBits : hiddenBit ≤ m₁) :
    UnpackedFloat.mul Format.binary64 (.finite .positive m₁ e₁ h₁) (.finite .positive m₂ e₂ h₂) =
      .finite .positive b.mantissa b.power hCanonical.pos := by
  have hRatio : (m₁ * 2 ^ e₁ * (m₂ * 2 ^ e₂) : ℚ) / 2 ^ (e₁ + e₂) = (m₁ * m₂ : Nat) := by
    rw [zpow_add₀ two_ne_zero, div_eq_iff (by positivity)]
    push_cast
    ring
  refine roundWithAccuracy_eq hCanonical hEncloses ?_ (Or.inl ?_) .positive
  · rw [hRatio]
    exact holds_exact _
  · exact Nat.le_mul_of_pos_right m₁ h₂ |>.trans' hBits

/-- Dividing computes enough bits of the quotient and rounds it. -/
theorem div_eq (hCanonical : b.Canonical) {m₁ m₂ : Nat} {e₁ e₂ : Int} (h₁ : 0 < m₁) (h₂ : 0 < m₂)
    (hEncloses : b.Encloses (m₁ * 2 ^ e₁ / (m₂ * 2 ^ e₂))) :
    UnpackedFloat.div Format.binary64 (.finite .positive m₁ e₁ h₁) (.finite .positive m₂ e₂ h₂) =
      .finite .positive b.mantissa b.power hCanonical.pos := by
  simp only [UnpackedFloat.div, divCore]
  obtain ⟨e, he⟩ : ∃ e, e = min (e₁ - e₂) (Format.binary64.targetExponent
    (totalExponent m₁ e₁ - totalExponent m₂ e₂)) := ⟨_, rfl⟩
  rw [← he]
  rw [targetExponent_eq, totalExponent, totalExponent] at he
  obtain ⟨k, hk⟩ : ∃ k : Nat, (e₁ - e₂ - e).toNat = k := ⟨_, rfl⟩
  rw [hk, Nat.shiftLeft_eq]
  refine roundWithAccuracy_eq hCanonical hEncloses ?_ ?_ .positive
  · have hPower : (2 : ℚ) ^ e₁ = 2 ^ e₂ * 2 ^ e * 2 ^ k := by
      rw [← zpow_natCast, ← zpow_add₀ two_ne_zero, ← zpow_add₀ two_ne_zero]
      congr 1
      omega
    have hDen : (m₂ : ℚ) ≠ 0 := by exact_mod_cast Nat.ne_of_gt h₂
    have hParts : (m₁ * 2 ^ k : ℚ) =
        m₂ * (m₁ * 2 ^ k / m₂ : Nat) + (m₁ * 2 ^ k % m₂ : Nat) := by
      exact_mod_cast (Nat.div_add_mod (m₁ * 2 ^ k) m₂).symm
    have hRatio : (m₁ * 2 ^ e₁ / (m₂ * 2 ^ e₂) : ℚ) / 2 ^ e =
        (m₁ * 2 ^ k / m₂ : Nat) + (m₁ * 2 ^ k % m₂ : Nat) / m₂ := by
      rw [hPower, div_div, div_eq_iff (by positivity)]
      calc (m₁ * (2 ^ e₂ * 2 ^ e * 2 ^ k) : ℚ) = m₁ * 2 ^ k * (2 ^ e₂ * 2 ^ e) := by ring
        _ = _ := by
          rw [hParts]
          field_simp
    rw [hRatio]
    exact holds_fraction _ (Nat.mod_lt _ h₂)
  · by_cases hLeast : e ≤ -1074
    · exact Or.inr hLeast
    · left
      have hBits : 52 + (m₂.log2 + 1) ≤ m₁.log2 + k := by omega
      rw [Nat.le_div_iff_mul_le h₂]
      calc hiddenBit * m₂ ≤ 2 ^ 52 * 2 ^ (m₂.log2 + 1) :=
            Nat.mul_le_mul (by decide) (Nat.le_of_lt Nat.lt_log2_self)
        _ = 2 ^ (52 + (m₂.log2 + 1)) := (Nat.pow_add ..).symm
        _ ≤ 2 ^ (m₁.log2 + k) := Nat.pow_le_pow_right (by decide) hBits
        _ = 2 ^ m₁.log2 * 2 ^ k := Nat.pow_add ..
        _ ≤ m₁ * 2 ^ k := Nat.mul_le_mul_right _ (Nat.log2_self_le (Nat.ne_of_gt h₁))

/-- What rounds to a value lies within the range of floats. -/
theorem Binary.Encloses.range (h : b.Encloses q) (hCanonical : b.Canonical) :
    (2 : ℚ) ^ (-1075 : Int) ≤ q ∧ q < 2 ^ (1024 : Int) := by
  have hPos : (0 : ℚ) < 2 ^ b.power := by positivity
  have hOne : (1 : ℚ) ≤ b.mantissa := by exact_mod_cast hCanonical.pos
  have hMost : (b.mantissa : ℚ) + 1 ≤ 2 ^ (53 : Int) := by exact_mod_cast hCanonical.lt
  constructor
  · have hHalf : (2 : ℚ) ^ (-1 : Int) ≤ b.mantissa - 1 / 2 := by
      norm_num
      linarith
    calc (2 : ℚ) ^ (-1075 : Int) = 2 ^ (-1 : Int) * 2 ^ (-1074 : Int) := by
          rw [← zpow_add₀ two_ne_zero]
          rfl
      _ ≤ (b.mantissa - 1 / 2) * 2 ^ b.power := by
        gcongr
        · exact one_le_two
        · exact hCanonical.least
      _ ≤ q := (le_div_iff₀ hPos).mp h.lower
  · calc q ≤ (b.mantissa + 1 / 2) * 2 ^ b.power := (div_le_iff₀ hPos).mp h.upper
      _ < 2 ^ (53 : Int) * 2 ^ b.power := by
        gcongr
        linarith
      _ ≤ 2 ^ (53 : Int) * 2 ^ (971 : Int) := by
        gcongr
        · exact one_le_two
        · exact hCanonical.most
      _ = 2 ^ (1024 : Int) := by
        rw [← zpow_add₀ two_ne_zero]
        rfl

/-- Exponents that are too large for the exact reading are those of numbers beyond the floats. -/
theorem two_zpow_le_of_exponent {n : Nat} {e : Int} (hn : n ≠ 0) (h : e > 2 ^ 11) :
    (2 : ℚ) ^ (1024 : Int) ≤ n * 10 ^ e := by
  have hOne : (1 : ℚ) ≤ n := by exact_mod_cast Nat.pos_of_ne_zero hn
  calc (2 : ℚ) ^ (1024 : Int) ≤ 2 ^ e := zpow_le_zpow_right₀ one_le_two (by omega)
    _ ≤ 10 ^ e := zpow_le_zpow_left₀ (by omega) (by norm_num) (by norm_num)
    _ ≤ n * 10 ^ e := le_mul_of_one_le_left (by positivity) hOne

/-- Exponents that are too small for it are those of numbers that are rounded to zero. -/
theorem lt_two_zpow_of_exponent {n : Nat} {e : Int} (h : e < -(2 ^ 11 + (n.log2 : Int))) :
    n * (10 : ℚ) ^ e < 2 ^ (-1075 : Int) := by
  have hNext : (n : ℚ) < 2 ^ ((n.log2 : Int) + 1) := by
    exact_mod_cast (Nat.lt_log2_self : n < 2 ^ (n.log2 + 1))
  have hBase : (2 : ℚ) ^ (-e) ≤ 10 ^ (-e) :=
    zpow_le_zpow_left₀ (by omega) (by norm_num) (by norm_num)
  calc n * (10 : ℚ) ^ e = n * (10 ^ (-e))⁻¹ := by rw [zpow_neg, inv_inv]
    _ ≤ n * (2 ^ (-e))⁻¹ := by gcongr
    _ = n * 2 ^ e := by rw [zpow_neg, inv_inv]
    _ < 2 ^ ((n.log2 : Int) + 1) * 2 ^ e := by gcongr
    _ = 2 ^ ((n.log2 : Int) + 1 + e) := (zpow_add₀ two_ne_zero _ _).symm
    _ ≤ 2 ^ (-1075 : Int) := zpow_le_zpow_right₀ one_le_two (by omega)

/-- The exact reading of a decimal gives the value that it rounds to. -/
theorem ofScientific_eq (hCanonical : b.Canonical) {n : Nat} {e : Int} (hn : n ≠ 0)
    (hEncloses : b.Encloses (n * 10 ^ e)) :
    UnpackedFloat.ofScientific Format.binary64 n e =
      .finite .positive b.mantissa b.power hCanonical.pos := by
  obtain ⟨hSmall, hLarge⟩ := hEncloses.range hCanonical
  have hNotLarge : ¬e > 2 ^ 11 := fun hGt =>
    absurd hLarge (not_lt.mpr (two_zpow_le_of_exponent hn hGt))
  have hNotSmall : ¬e < -(2 ^ 11 + (n.log2 : Int)) := fun hLt =>
    absurd hSmall (not_le.mpr (lt_two_zpow_of_exponent hLt))
  unfold UnpackedFloat.ofScientific
  rw [dif_neg hn, if_neg hNotLarge, if_neg hNotSmall]
  split
  · next hNonneg =>
      have hValue : ((n <<< Format.binary64.mantissaBits : Nat) : ℚ) *
          2 ^ (-(Format.binary64.mantissaBits : Int)) * ((10 ^ e.toNat : Nat) * 2 ^ (0 : Int)) =
            n * 10 ^ e := by
        have hTen : (10 : ℚ) ^ e = 10 ^ e.toNat := by
          rw [← zpow_natCast, Int.toNat_of_nonneg hNonneg]
        rw [Nat.shiftLeft_eq, hTen, zpow_neg, zpow_natCast, zpow_zero, mul_one]
        push_cast
        field_simp
      apply mul_eq hCanonical
      · rw [hValue]
        exact hEncloses
      · rw [Nat.shiftLeft_eq]
        exact Nat.le_trans (by decide) (Nat.le_mul_of_pos_left _ (Nat.pos_of_ne_zero hn))
  · next hNegative =>
      have hValue : (n : ℚ) * 2 ^ (0 : Int) / ((10 ^ (-e).toNat : Nat) * 2 ^ (0 : Int)) =
          n * 10 ^ e := by
        have hTen : (10 : ℚ) ^ e = (10 ^ (-e).toNat)⁻¹ := by
          rw [← zpow_natCast, Int.toNat_of_nonneg (by omega), zpow_neg, inv_inv]
        rw [hTen, zpow_zero, mul_one, mul_one, div_eq_mul_inv]
        push_cast
        rfl
      apply div_eq hCanonical
      rw [hValue]
      exact hEncloses

theorem roundWithAccuracy_self (h : b.Canonical) (s : Sign) :
    roundWithAccuracy Format.binary64 s b.mantissa b.power .exact =
      .finite s b.mantissa b.power h.pos := by
  have hSame := shiftToTargetExponent_self h.targetExponent_le
  have hRounded : ExtendedMantissa.roundedMantissa ⟨b.mantissa, false, false⟩ = b.mantissa := rfl
  simp only [roundWithAccuracy, hSame, hRounded]
  rw [dif_neg (Nat.ne_of_gt h.pos)]

/-- An integer below 2⁵³ as the float that it is. -/
def Binary.ofNat (n : Nat) : Binary :=
  let mantissa := n * 2 ^ (52 - n.log2)
  ⟨mantissa, n.log2 - 52, mantissa = hiddenBit⟩

namespace Binary

variable {n : Nat} (hn : n ≠ 0) (hLt : n < 2 ^ 53)
include hn hLt

theorem hiddenBit_le_ofNat : hiddenBit ≤ (ofNat n).mantissa := by
  have hLog : n.log2 < 53 := (Nat.log2_lt hn).mpr hLt
  calc hiddenBit = 2 ^ n.log2 * 2 ^ (52 - n.log2) := by
        rw [← Nat.pow_add, show n.log2 + (52 - n.log2) = 52 by omega]
        rfl
    _ ≤ n * 2 ^ (52 - n.log2) := Nat.mul_le_mul_right _ (Nat.log2_self_le hn)

theorem canonical_ofNat : (ofNat n).Canonical := by
  have hLog : n.log2 < 53 := (Nat.log2_lt hn).mpr hLt
  have hFull := hiddenBit_le_ofNat hn hLt
  have hFits : n * 2 ^ (52 - n.log2) < 2 * hiddenBit := by
    calc n * 2 ^ (52 - n.log2) < 2 ^ (n.log2 + 1) * 2 ^ (52 - n.log2) :=
          Nat.mul_lt_mul_of_pos_right Nat.lt_log2_self (Nat.two_pow_pos _)
      _ = 2 * hiddenBit := by
          rw [← Nat.pow_add, show n.log2 + 1 + (52 - n.log2) = 53 by omega]
          rfl
  refine ⟨Nat.lt_of_lt_of_le (by decide) hFull, hFits, ?_, ?_, Or.inl hFull, ?_⟩
  all_goals
    simp only [ofNat, decide_eq_true_eq]
    omega

theorem ofNat_value : ((ofNat n).mantissa * 2 ^ (ofNat n).power : ℚ) = n := by
  have hLog : n.log2 < 53 := (Nat.log2_lt hn).mpr hLt
  have hPower : (n.log2 - 52 : Int) = -(52 - n.log2 : Nat) := by omega
  simp only [ofNat, hPower, zpow_neg, zpow_natCast]
  push_cast
  field_simp

end Binary

/-- An integer that fits a mantissa is a float. -/
theorem unpack_toFloat {n : Nat} (hn : n ≠ 0) (hLt : n < 2 ^ 53) :
    n.toUInt64.toFloat.toModel.unpack = .finite .positive (Binary.ofNat n).mantissa
      (Binary.ofNat n).power (Binary.canonical_ofNat hn hLt).pos := by
  have hCanonical := Binary.canonical_ofNat hn hLt
  have hLog : n.log2 < 53 := (Nat.log2_lt hn).mpr hLt
  have hWord : n.toUInt64.toNat = n := UInt64.toNat_ofNat_of_lt' (Nat.lt_trans hLt (by decide))
  have hGt : compare (n : Int) 0 = .gt := Int.compare_eq_gt.mpr (by omega)
  have hShift : (-Format.binary64.targetExponent (totalExponent n 0)).toNat = 52 - n.log2 := by
    rw [targetExponent_eq, totalExponent]
    omega
  have hPower : -((52 - n.log2 : Nat) : Int) = n.log2 - 52 := by omega
  have hRound : UnpackedFloat.ofUInt64 Format.binary64 n.toUInt64 =
      .finite .positive (Binary.ofNat n).mantissa (Binary.ofNat n).power hCanonical.pos := by
    rw [UnpackedFloat.ofUInt64, UnpackedFloat.ofNat, UnpackedFloat.ofInt, UnpackedFloat.normalize,
      hWord, hGt]
    simp only [Int.toNat_natCast, UnpackedFloat.round, decreaseExponent, Int.zero_sub,
      hShift, hPower, Nat.shiftLeft_eq]
    exact roundWithAccuracy_self hCanonical .positive
  rw [← hCanonical.unpack_pack .positive, ← hRound]
  rfl

theorem zpow_eq_div {x : ℚ} (hx : x ≠ 0) (p : Int) : x ^ p = x ^ p.toNat / x ^ (-p).toNat := by
  rw [eq_div_iff (pow_ne_zero _ hx), ← zpow_natCast, ← zpow_natCast, ← zpow_add₀ hx]
  congr 1
  omega

/-- The powers of ten that are kept in a table are exact. -/
theorem powers_exact : ∀ e : Fin Float.exactlyRepresentablePowersOfTen.size,
    let x := Float.exactlyRepresentablePowersOfTen[e]
    isFinite x = true ∧ magnitude x ≠ 0 ∧ isNegative x = false ∧
      (Binary.ofFloat x).mantissa * 2 ^ (Binary.ofFloat x).power.toNat =
        10 ^ e.val * 2 ^ (-(Binary.ofFloat x).power).toNat := by
  decide +kernel

theorem unpack_power {e : Nat} (h : e < Float.exactlyRepresentablePowersOfTen.size) :
    ∃ (m : Nat) (p : Int) (hm : 0 < m),
      Float.exactlyRepresentablePowersOfTen[e].toModel.unpack = .finite .positive m p hm ∧
        (m : ℚ) * 2 ^ p = 10 ^ e := by
  obtain ⟨hFinite, hSome, hSign, hExact⟩ := powers_exact ⟨e, h⟩
  have hUnpack := unpack_toModel hFinite hSome
  rw [signOf, hSign] at hUnpack
  refine ⟨_, _, _, hUnpack, ?_⟩
  rw [zpow_eq_div two_ne_zero, mul_div_assoc', div_eq_iff (by positivity)]
  exact_mod_cast hExact

/-- The exponent from its sign and its absolute value. -/
theorem signedExponent_eq (e : Int) :
    (if decide (e < 0) = true then Int.negOfNat e.natAbs else Int.ofNat e.natAbs) = e := by
  split
  · next hNegative =>
      have hLt : e < 0 := of_decide_eq_true hNegative
      rw [Int.negOfNat_eq]
      change -(e.natAbs : Int) = e
      omega
  · next hNonneg =>
      have hLe : ¬e < 0 := by simpa using hNonneg
      exact Int.natAbs_of_nonneg (by omega)

/-- Reading a decimal that rounds to a value gives the value. -/
theorem ofScientific_float (hCanonical : b.Canonical) {n : Nat} {e : Int} (hn : n ≠ 0)
    (hEncloses : b.Encloses (n * 10 ^ e)) :
    Float.ofScientific n (e < 0) e.natAbs =
      .ofModel (Float.Model.pack (.finite .positive b.mantissa b.power hCanonical.pos)) := by
  unfold Float.ofScientific
  split
  · next hFast =>
      have hFloat := Binary.canonical_ofNat hn hFast.1
      have hUnpack := unpack_toFloat hn hFast.1
      have hValue := Binary.ofNat_value hn hFast.1
      obtain ⟨m, p, hm, hUnpack', hValue'⟩ :=
        unpack_power (e := e.natAbs) (Nat.lt_succ_of_le hFast.2)
      have hAbs : (10 : ℚ) ^ e.natAbs = 10 ^ (e.natAbs : Int) := (zpow_natCast _ _).symm
      simp only
      split
      · next hNegative =>
          have hLt : e < 0 := of_decide_eq_true hNegative
          have hQuotient : ((Binary.ofNat n).mantissa * 2 ^ (Binary.ofNat n).power /
              (m * 2 ^ p) : ℚ) = n * 10 ^ e := by
            rw [hValue, hValue', hAbs, div_eq_mul_inv, ← zpow_neg,
              show -(e.natAbs : Int) = e by omega]
          have hDiv := div_eq hCanonical hFloat.pos hm (hQuotient ▸ hEncloses)
          rw [← hUnpack, ← hUnpack'] at hDiv
          exact congrArg (fun f => Float.ofModel (Float.Model.pack f)) hDiv
      · next hNonneg =>
          have hLe : ¬e < 0 := by simpa using hNonneg
          have hProduct : ((Binary.ofNat n).mantissa * 2 ^ (Binary.ofNat n).power *
              (m * 2 ^ p) : ℚ) = n * 10 ^ e := by
            rw [hValue, hValue', hAbs, show (e.natAbs : Int) = e by omega]
          have hMul := mul_eq hCanonical hFloat.pos hm (hProduct ▸ hEncloses)
            (Binary.hiddenBit_le_ofNat hn hFast.1)
          rw [← hUnpack, ← hUnpack'] at hMul
          exact congrArg (fun f => Float.ofModel (Float.Model.pack f)) hMul
  · simp only [signedExponent_eq]
    rw [Float.Model.ofScientific, ofScientific_eq hCanonical hn hEncloses]

end Hyperslab.Decimal
