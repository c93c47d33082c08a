import Hyperslab.Proofs.Decimal.Rounding

/-! Canonical floats in their 64 bits. What a float is unpacked to is its mantissa and its power,
and packing these gives the float back. -/
namespace Hyperslab.Decimal

open Float.Model Float.Model.UnpackedFloat

theorem toNat_packComponents (s : Sign) (e : BitVec 11) (m : BitVec 52) :
    (packComponents Format.binary64 s e m).toNat =
      s.toBitVec.toNat * 2 ^ 63 + e.toNat * 2 ^ 52 + m.toNat := by
  have he := e.isLt
  have hm := m.isLt
  rw [packComponents, BitVec.toNat_append, BitVec.toNat_append,
    ← Nat.shiftLeft_add_eq_or_of_lt hm, ← Nat.shiftLeft_add_eq_or_of_lt he, Nat.shiftLeft_eq,
    Nat.shiftLeft_eq]
  ring

@[simp] theorem unpackSign_packComponents (s : Sign) (e : BitVec 11) (m : BitVec 52) :
    Sign.ofBitVec (unpackSign (packComponents Format.binary64 s e m)) = s := by
  have hSign : unpackSign (packComponents Format.binary64 s e m) = s.toBitVec := by
    apply BitVec.eq_of_toNat_eq
    have hs := s.toBitVec.isLt
    have he := e.isLt
    have hm := m.isLt
    simp only [unpackSign, BitVec.toNat_cast, BitVec.extractLsb_toNat, toNat_packComponents]
    rw [Nat.shiftRight_eq_div_pow]
    norm_num at *
    omega
  rw [hSign]
  cases s <;> rfl

namespace Binary

variable {b : Binary}

/-- The exponent bits of a value. -/
def exponentBits (b : Binary) : BitVec 11 :=
  if hiddenBit ≤ b.mantissa then BitVec.ofNat 11 (b.power + 1075).toNat else 0#11

theorem Canonical.pack (h : b.Canonical) (s : Sign) :
    UnpackedFloat.pack Format.binary64 (.finite s b.mantissa b.power h.pos) =
      packComponents Format.binary64 s b.exponentBits (BitVec.ofNat 52 b.mantissa) := by
  have hMost := h.most
  have hLeast := h.least
  have hBias : b.power + ((Format.binary64.exponentBias : Nat) : Int) +
      ((Format.binary64.mantissaBitsWithoutImplicit : Nat) : Int) = b.power + 1075 := by
    change b.power + (1023 : Nat) + (52 : Nat) = b.power + 1075
    omega
  have hLog : b.mantissa.log2 + 1 = Format.binary64.mantissaBits ↔ hiddenBit ≤ b.mantissa := by
    have hLt : b.mantissa.log2 < 53 :=
      (Nat.log2_lt (Nat.ne_of_gt h.pos)).mpr (show b.mantissa < 2 ^ 53 from h.lt)
    have hFull : 52 ≤ b.mantissa.log2 ↔ 2 ^ 52 ≤ b.mantissa := Nat.le_log2 (Nat.ne_of_gt h.pos)
    rw [show Format.binary64.mantissaBits = 53 from rfl, show hiddenBit = 2 ^ 52 from rfl]
    omega
  simp only [UnpackedFloat.pack, hBias, hLog]
  rw [if_neg (by simp only [Nat.reducePow]; omega), exponentBits]
  split <;> rfl

/-- The exponent bits of a normal value are neither all zero nor all one. -/
theorem Canonical.toNat_exponentBits (h : b.Canonical) (hFull : hiddenBit ≤ b.mantissa) :
    (b.exponentBits.toNat : Int) = b.power + 1075 ∧ b.exponentBits ≠ 0#11 ∧
      b.exponentBits ≠ -1#11 := by
  have hMost := h.most
  have hLeast := h.least
  have hBits : (b.exponentBits.toNat : Int) = b.power + 1075 := by
    rw [exponentBits, if_pos hFull, BitVec.toNat_ofNat]
    omega
  refine ⟨hBits, fun hZero => ?_, fun hOnes => ?_⟩
  · rw [hZero] at hBits
    change (0 : Int) = b.power + 1075 at hBits
    omega
  · rw [hOnes] at hBits
    change (2047 : Int) = b.power + 1075 at hBits
    omega

/-- The fraction bits and the bit that is not stored make up a normal mantissa. -/
theorem Canonical.toNat_mantissa_of_full (h : b.Canonical) (hFull : hiddenBit ≤ b.mantissa) :
    (1#1 ++ BitVec.ofNat 52 b.mantissa).toNat = b.mantissa := by
  have hLt := h.lt
  rw [BitVec.toNat_append, ← Nat.shiftLeft_add_eq_or_of_lt (BitVec.isLt _), BitVec.toNat_ofNat,
    Nat.shiftLeft_eq]
  simp only [hiddenBit] at hFull hLt
  norm_num
  omega

theorem toNat_mantissa_of_not_full (hFull : ¬hiddenBit ≤ b.mantissa) :
    (BitVec.ofNat 52 b.mantissa).toNat = b.mantissa := by
  rw [BitVec.toNat_ofNat]
  simp only [hiddenBit] at hFull
  omega

/-- Unpacking a packed value gives the value. -/
theorem Canonical.unpack_pack (h : b.Canonical) (s : Sign) :
    (Float.Model.pack (.finite s b.mantissa b.power h.pos)).unpack =
      .finite s b.mantissa b.power h.pos := by
  rw [Float.Model.unpack, Float.Model.pack]
  simp only [h.pack, UnpackedFloat.unpack, unpackMantissa_packComponents,
    unpackExponent_packComponents, unpackSign_packComponents]
  by_cases hFull : hiddenBit ≤ b.mantissa
  · obtain ⟨hBits, hNormal, hFinite⟩ := h.toNat_exponentBits hFull
    have hPower : (b.exponentBits.toNat : Int) -
        ((Format.binary64.exponentBias : Nat) + (52 : Nat)) = b.power := by
      change (b.exponentBits.toNat : Int) - ((1023 : Nat) + (52 : Nat)) = b.power
      omega
    rw [if_neg hFinite, if_neg hNormal]
    simp only [h.toNat_mantissa_of_full hFull, hPower]
  · have hPower := h.full.resolve_left hFull
    have hBits : b.exponentBits = 0#11 := by rw [exponentBits, if_neg hFull]
    have hMantissa := toNat_mantissa_of_not_full hFull
    have hSome : BitVec.ofNat 52 b.mantissa ≠ 0#52 := by
      intro hZero
      have hPos := h.pos
      rw [← hMantissa, hZero] at hPos
      exact absurd hPos (by decide)
    have hFinite : 0#11 ≠ -1#11 := by decide
    have hLeastPower : ((0#11).toNat : Int) - ((Format.binary64.exponentBias : Nat) + (52 : Nat)) +
        1 = b.power := hPower.symm
    simp only [hBits, hFinite, hSome, ↓reduceIte, ↓reduceDIte, hMantissa, hLeastPower]

end Binary

theorem eq_of_toBits {x y : Float} (h : x.toBits.toNat = y.toBits.toNat) : x = y := by
  obtain ⟨⟨bits, _⟩⟩ := x
  obtain ⟨⟨bits', _⟩⟩ := y
  obtain rfl : bits = bits' := UInt64.toNat_inj.mp h
  rfl

/-- The sign of a float. -/
def signOf (x : Float) : Sign := if isNegative x then .negative else .positive

theorem toNat_toBits (x : Float) :
    x.toBits.toNat = (signOf x).toBitVec.toNat * 2 ^ 63 + magnitude x := by
  have hBound := x.toBits.toNat_lt
  have hMagnitude : magnitude x = x.toBits.toNat % 2 ^ 63 := by
    rw [magnitude, UInt64.toNat_and]
    exact Nat.and_two_pow_sub_one_eq_mod x.toBits.toNat 63
  have hShift : (x.toBits >>> 63).toNat = x.toBits.toNat / 2 ^ 63 := by
    rw [UInt64.toNat_shiftRight, Nat.shiftRight_eq_div_pow]
    rfl
  have hSign : (signOf x).toBitVec.toNat = x.toBits.toNat / 2 ^ 63 := by
    rw [signOf, isNegative, ← hShift]
    split
    · next hNegative =>
        have hOne : x.toBits >>> 63 = 1 := by simpa using hNegative
        rw [hOne]
        rfl
    · next hPositive =>
        have hNotOne : (x.toBits >>> 63).toNat ≠ 1 := by
          intro hOne
          apply hPositive
          have hEq : x.toBits >>> 63 = 1 := UInt64.toNat_inj.mp hOne
          simp [hEq]
        have hZero : (x.toBits >>> 63).toNat = 0 := by omega
        rw [hZero]
        rfl
  rw [hSign, hMagnitude]
  omega

variable {x : Float}

/-- The fields of a finite float, and what they say of its value. -/
theorem exists_fields (hFinite : isFinite x = true) : ∃ exponent fraction : Nat,
    magnitude x = hiddenBit * exponent + fraction ∧ fraction < hiddenBit ∧ exponent < 2047 ∧
      Binary.ofFloat x = if exponent = 0 then ⟨fraction, -1074, false⟩
        else ⟨hiddenBit + fraction, (exponent : Int) - 1075, fraction = 0 && 1 < exponent⟩ := by
  have hMagnitude : magnitude x < hiddenBit * 2047 := of_decide_eq_true hFinite
  exact ⟨magnitude x / hiddenBit, magnitude x % hiddenBit, (Nat.div_add_mod _ _).symm,
    Nat.mod_lt _ (by decide), Nat.div_lt_of_lt_mul hMagnitude, rfl⟩

theorem canonical_ofFloat (hFinite : isFinite x = true) (hSome : magnitude x ≠ 0) :
    (Binary.ofFloat x).Canonical := by
  obtain ⟨exponent, fraction, hMagnitude, hFraction, hExponent, hEq⟩ := exists_fields hFinite
  rw [hEq]
  split
  · next hZero =>
      rw [hZero, Nat.mul_zero, Nat.zero_add] at hMagnitude
      refine ⟨?_, ?_, Int.le_refl _, ?_, Or.inr rfl, ?_⟩
      · exact Nat.pos_of_ne_zero (hMagnitude ▸ hSome)
      · simp only
        omega
      · simp only
        omega
      · simp
  · next hNormal =>
      refine ⟨?_, ?_, ?_, ?_, Or.inl (Nat.le_add_right _ _), ?_⟩
      · exact Nat.add_pos_left (by decide) _
      · simp only
        omega
      · simp only
        omega
      · simp only
        omega
      · simp only [Bool.and_eq_true, decide_eq_true_eq]
        omega

/-- A finite float is packed from its mantissa and its power. -/
theorem pack_ofFloat (hFinite : isFinite x = true) (hSome : magnitude x ≠ 0) :
    Float.ofModel (Float.Model.pack (.finite (signOf x) (Binary.ofFloat x).mantissa
      (Binary.ofFloat x).power (canonical_ofFloat hFinite hSome).pos)) = x := by
  have hCanonical := canonical_ofFloat hFinite hSome
  apply eq_of_toBits
  have hBits : (Float.ofModel (Float.Model.pack (.finite (signOf x) (Binary.ofFloat x).mantissa
      (Binary.ofFloat x).power hCanonical.pos))).toBits.toNat =
        (packComponents Format.binary64 (signOf x) (Binary.ofFloat x).exponentBits
          (BitVec.ofNat 52 (Binary.ofFloat x).mantissa)).toNat :=
    congrArg BitVec.toNat (hCanonical.pack (signOf x))
  rw [hBits, toNat_packComponents, toNat_toBits, Nat.add_assoc]
  obtain ⟨exponent, fraction, hMagnitude, hFraction, hExponent, hEq⟩ := exists_fields hFinite
  rw [hMagnitude, hEq]
  split
  · next hZero =>
      have hSubnormal : ¬hiddenBit ≤ fraction := by omega
      simp only [Binary.exponentBits, hSubnormal, if_false, BitVec.toNat_ofNat, hZero]
      simp only [hiddenBit] at hFraction ⊢
      omega
  · next hNormal =>
      have hFull : hiddenBit ≤ hiddenBit + fraction := Nat.le_add_right _ _
      simp only [Binary.exponentBits, hFull, if_true, BitVec.toNat_ofNat]
      simp only [hiddenBit] at hFraction ⊢
      omega

theorem unpack_toModel (hFinite : isFinite x = true) (hSome : magnitude x ≠ 0) :
    x.toModel.unpack = .finite (signOf x) (Binary.ofFloat x).mantissa (Binary.ofFloat x).power
      (canonical_ofFloat hFinite hSome).pos := by
  have hPack := congrArg Float.toModel (pack_ofFloat hFinite hSome)
  rw [← hPack]
  exact (canonical_ofFloat hFinite hSome).unpack_pack (signOf x)

end Hyperslab.Decimal
