import Hyperslab.Decimal.Literal
import Hyperslab.Decimal.Text
import Hyperslab.Proofs.Reading
import Mathlib.Algebra.Order.Field.Power
import Mathlib.Data.List.TakeWhile
import Mathlib.Tactic.FieldSimp
import Mathlib.Tactic.Ring

/-! Decimal digits and numerals. Every finite float is written as a numeral, and a numeral is read
as the literal with its digits. -/
namespace Hyperslab.Decimal

theorem isDigit_eq (c : Char) : isDigit c = c.isDigit := by
  rfl

/-- The decimal digits of a number are digits and write the number. -/
theorem isDigit_of_mem_toDigits {n : Nat} : ∀ c ∈ Nat.toDigits 10 n, isDigit c = true :=
  fun c h => by
    rw [isDigit_eq]
    exact Nat.isDigit_of_mem_toDigits (Nat.succ_pos 9) (Nat.le_refl 10) h

theorem ofDigits_toDigits (n : Nat) : ofDigits (Nat.toDigits 10 n) = n :=
  Nat.ofDigitChars_ten_toDigits

@[simp] theorem ofDigits_nil : ofDigits [] = 0 := by
  rfl

@[simp] theorem ofDigits_zero_cons (digits : List Char) :
    ofDigits ('0' :: digits) = ofDigits digits := by
  rfl

@[simp] theorem ofDigits_append (l l' : List Char) :
    ofDigits (l ++ l') = ofDigits l * 10 ^ l'.length + ofDigits l' := by
  rw [ofDigits, Nat.ofDigitChars_append, Nat.ofDigitChars_eq_ofDigitChars_zero, Nat.mul_comm]
  rfl

@[simp] theorem ofDigits_replicate_zero (n : Nat) : ofDigits (List.replicate n '0') = 0 := by
  rw [ofDigits, Nat.ofDigitChars_replicate_zero, Nat.mul_zero]

/-- The absolute value of a literal. -/
def Literal.absolute (l : Literal) : ℚ :=
  ofDigits (l.whole ++ l.fraction) * 10 ^ (l.exponent - l.fraction.length)

/-- A decimal numeral as it is written, with a point, an exponent or both. -/
structure Numeral where
  negative : Bool
  whole : List Char
  fraction : Option (List Char)
  exponent : Option Int

namespace Numeral

def fractionChars (n : Numeral) : List Char :=
  match n.fraction with
  | some digits => '.' :: digits
  | none => []

def exponentChars (n : Numeral) : List Char :=
  match n.exponent with
  | some e => 'e' :: (if e < 0 then ['-'] else []) ++ Nat.toDigits 10 e.natAbs
  | none => []

def chars (n : Numeral) : List Char :=
  (if n.negative then ['-'] else []) ++ (n.whole ++ (n.fractionChars ++ n.exponentChars))

def literal (n : Numeral) : Literal :=
  ⟨n.negative, n.whole, n.fraction.getD [], n.exponent.getD 0⟩

/-- The digits are digits, one at least is in front of the point, and the numeral is none of an
integer. -/
structure Valid (n : Numeral) : Prop where
  whole_ne_nil : n.whole ≠ []
  whole_digits : ∀ c ∈ n.whole, isDigit c = true
  fraction_digits : ∀ digits ∈ n.fraction, ∀ c ∈ digits, isDigit c = true
  marked : n.fraction.isSome ∨ n.exponent.isSome

/-- `text` is a numeral of `q` without a sign. -/
def Unsigned (text : List Char) (q : ℚ) : Prop :=
  ∃ n : Numeral, n.Valid ∧ n.negative = false ∧ text = n.chars ∧ n.literal.absolute = q

end Numeral

/-- A point of a grid that is chosen for a value identifies it. -/
theorem Binary.identifiedBy_of_onGrid? {b : Binary} {e : Int} {d : Scaled}
    (h : b.onGrid? e = some d) : b.identifiedBy e d.digits = true := by
  unfold onGrid? at h
  simp only at h
  split at h
  · next hBelow hAbove =>
      split at h
      · cases h
        exact hBelow
      · cases h
        exact hAbove
  · next hBelow _ =>
      cases h
      exact hBelow
  · next _ hAbove =>
      cases h
      exact hAbove
  · cases h

theorem Binary.not_identifiedBy_zero {b : Binary} (h : 0 < b.mantissa) (e : Int) :
    b.identifiedBy e 0 = false := by
  have hLower : 0 < b.lowerEnd := by
    unfold lowerEnd
    split <;> omega
  have hDen : 0 < (b.gridStep e).2 := by
    simp only [gridStep, Nat.pow_eq]
    exact Nat.mul_pos (Nat.pow_pos (by decide)) (Nat.pow_pos (by decide))
  have hPos := Nat.mul_pos hLower hDen
  unfold identifiedBy
  simp only [Nat.zero_mul]
  split
  · simp
    omega
  · simp

theorem Binary.shortest_pos {b : Binary} (h : 0 < b.mantissa) : 0 < b.shortest.digits := by
  have hExact : 0 < b.exact.digits := by
    unfold exact
    split
    · exact Nat.mul_pos h (Nat.pow_pos (by omega))
    · exact Nat.mul_pos h (Nat.pow_pos (by omega))
  unfold shortest
  simp only
  cases hFound : (List.range 20).findSome? fun (n : Nat) => b.onGrid? (b.ceilingExponent - n) with
  | none => exact hExact
  | some d =>
      obtain ⟨n, _, hGrid⟩ := List.exists_of_findSome?_eq_some hFound
      have hIdentified := identifiedBy_of_onGrid? hGrid
      rcases Nat.eq_zero_or_pos d.digits with hZero | hPos
      · rw [hZero, not_identifiedBy_zero h] at hIdentified
        cases hIdentified
      · exact hPos

theorem mantissa_pos {x : Float} (h : magnitude x ≠ 0) : 0 < (Binary.ofFloat x).mantissa := by
  unfold Binary.ofFloat
  simp only
  split
  · next hZero =>
      have hSmall : magnitude x < hiddenBit := by
        rcases Nat.div_eq_zero_iff.mp hZero with hHidden | hLt
        · cases hHidden
        · exact hLt
      simp only
      rw [Nat.mod_eq_of_lt hSmall]
      omega
  · simp only [hiddenBit]
    omega

/-- Zeros at the end are all that the significant digits leave out. -/
theorem exists_zeros (d : Scaled) :
    ∃ k, Nat.toDigits 10 d.digits = (significant d).1 ++ List.replicate k '0' := by
  have hZeros : ((Nat.toDigits 10 d.digits).reverse.takeWhile (· = '0')).reverse =
      List.replicate ((Nat.toDigits 10 d.digits).reverse.takeWhile (· = '0')).length '0' := by
    refine List.eq_replicate_iff.mpr ⟨List.length_reverse, fun c hc => ?_⟩
    simpa using List.mem_takeWhile_imp (List.mem_reverse.mp hc)
  refine ⟨((Nat.toDigits 10 d.digits).reverse.takeWhile (· = '0')).length, ?_⟩
  rw [← hZeros, significant, ← List.reverse_append, List.takeWhile_append_dropWhile,
    List.reverse_reverse]

theorem significant_ne_nil {d : Scaled} (h : 0 < d.digits) : (significant d).1 ≠ [] := by
  intro hNil
  obtain ⟨k, hk⟩ := exists_zeros d
  have hZero := congrArg ofDigits hk
  rw [ofDigits_toDigits, hNil, List.nil_append, ofDigits_replicate_zero] at hZero
  omega

/-- The significant digits and the place of their point write the value. -/
theorem significant_value (d : Scaled) :
    (ofDigits (significant d).1 * 10 ^ ((significant d).2 - (significant d).1.length) : ℚ) =
      d.digits * 10 ^ d.exponent := by
  obtain ⟨k, hk⟩ := exists_zeros d
  have hDigits := congrArg ofDigits hk
  rw [ofDigits_toDigits, ofDigits_append, ofDigits_replicate_zero, List.length_replicate,
    Nat.add_zero] at hDigits
  have hPoint : (significant d).2 - (significant d).1.length = k + d.exponent := by
    have hLength := congrArg List.length hk
    rw [List.length_append, List.length_replicate] at hLength
    simp only [significant] at hLength ⊢
    omega
  rw [hPoint, hDigits, zpow_add₀ (by norm_num), zpow_natCast]
  push_cast
  ring

theorem significant_digits (d : Scaled) : ∀ c ∈ (significant d).1, isDigit c = true := by
  intro c h
  simp only [significant, List.mem_reverse] at h
  have hAll := (List.dropWhile_suffix _).mem h
  exact isDigit_of_mem_toDigits c (List.mem_reverse.mp hAll)

theorem isDigit_of_mem_zeros {n : Nat} : ∀ c ∈ List.replicate n '0', isDigit c = true := by
  intro c h
  rw [(List.mem_replicate.mp h).2]
  decide

/-- Digits on both sides of a point are a numeral. -/
theorem Numeral.unsigned_point {whole fraction : List Char} (hSome : whole ≠ [])
    (h : ∀ c ∈ whole ++ fraction, isDigit c = true) :
    Numeral.Unsigned (whole ++ '.' :: fraction)
      (ofDigits (whole ++ fraction) * 10 ^ (-fraction.length : Int)) := by
  refine ⟨⟨false, whole, some fraction, none⟩, ⟨hSome, ?_, ?_, Or.inl rfl⟩, rfl, ?_, ?_⟩
  · exact fun c hc => h c (List.mem_append_left _ hc)
  · intro digits hDigits c hc
    cases hDigits
    exact h c (List.mem_append_right _ hc)
  · simp [chars, fractionChars, exponentChars]
  · simp [literal, Literal.absolute]

theorem positional_unsigned {digits : List Char} (point : Int)
    (h : ∀ c ∈ digits, isDigit c = true) :
    Numeral.Unsigned (positional digits point)
      (ofDigits digits * 10 ^ (point - digits.length)) := by
  have hAppend {l l' : List Char} (hl : ∀ c ∈ l, isDigit c = true)
      (hl' : ∀ c ∈ l', isDigit c = true) : ∀ c ∈ l ++ l', isDigit c = true :=
    fun c hc => (List.mem_append.mp hc).elim (hl c) (hl' c)
  have hZero : ∀ c ∈ ['0'], isDigit c = true := by decide
  unfold positional
  split
  · next hPoint =>
      have hNumeral := Numeral.unsigned_point (List.cons_ne_nil '0' [])
        (hAppend hZero (hAppend (isDigit_of_mem_zeros (n := (-point).toNat)) h))
      have hExponent : -(((-point).toNat + digits.length : Nat) : Int) = point - digits.length := by
        omega
      simpa only [List.cons_append, List.nil_append, ofDigits_zero_cons, ofDigits_append,
        ofDigits_replicate_zero, Nat.zero_mul, Nat.zero_add, List.length_append,
        List.length_replicate, hExponent] using hNumeral
  · next hPoint =>
      split
      · next hShort =>
          have hSome : digits ++ List.replicate (point.toNat - digits.length) '0' ≠ [] := by
            intro hNil
            have hLength := congrArg List.length hNil
            simp only [List.length_append, List.length_replicate, List.length_nil] at hLength
            omega
          have hNumeral := Numeral.unsigned_point hSome
            (hAppend (hAppend h isDigit_of_mem_zeros) hZero)
          have hExponent : point - digits.length = (point.toNat - digits.length : Nat) := by omega
          have hValue : (ofDigits (digits ++ List.replicate (point.toNat - digits.length) '0' ++
              ['0']) * 10 ^ (-(['0'] : List Char).length : Int) : ℚ) =
                ofDigits digits * 10 ^ (point - digits.length) := by
            rw [hExponent, zpow_natCast]
            simp [pow_succ, mul_assoc]
          rwa [hValue] at hNumeral
      · next hLong =>
          have hSome : digits.take point.toNat ≠ [] := by
            intro hNil
            have hLength := congrArg List.length hNil
            simp only [List.length_take, List.length_nil] at hLength
            omega
          have hDigits : ∀ c ∈ digits.take point.toNat ++ digits.drop point.toNat,
              isDigit c = true := by
            rwa [List.take_append_drop]
          have hNumeral := Numeral.unsigned_point hSome hDigits
          have hExponent : -((digits.length - point.toNat : Nat) : Int) =
              point - digits.length := by omega
          rwa [List.take_append_drop, List.length_drop, hExponent] at hNumeral

theorem scientific_unsigned {digits : List Char} (point : Int) (hDigits : digits ≠ [])
    (h : ∀ c ∈ digits, isDigit c = true) :
    Numeral.Unsigned (scientific digits point)
      (ofDigits digits * 10 ^ (point - digits.length)) := by
  have hFraction : (if (digits.drop 1).isEmpty then none else some (digits.drop 1)).getD [] =
      digits.drop 1 := by
    split
    · next hNone => exact (List.isEmpty_iff.mp hNone).symm
    · rfl
  refine ⟨⟨false, digits.take 1, if (digits.drop 1).isEmpty then none else some (digits.drop 1),
    some (point - 1)⟩, ?_, rfl, ?_, ?_⟩
  · refine ⟨by simpa using hDigits, fun c hc => h c (List.mem_of_mem_take hc), ?_, Or.inr rfl⟩
    intro fraction hFraction c hc
    simp only at hFraction
    split at hFraction
    · cases hFraction
    · cases hFraction
      exact h c (List.mem_of_mem_drop hc)
  · simp only [scientific, Numeral.chars, Numeral.fractionChars, Numeral.exponentChars]
    split <;> simp_all
  · have hExponent : point - 1 - (digits.length - 1 : Nat) = point - digits.length := by
      have hLength := List.length_pos_iff.mpr hDigits
      omega
    simp only [Numeral.literal, Literal.absolute, hFraction, Option.getD_some,
      List.take_append_drop, List.length_drop, hExponent]

/-- The absolute value that the text of a finite float writes. -/
def written (x : Float) : ℚ :=
  if magnitude x = 0 then 0
  else (Binary.ofFloat x).shortest.digits * 10 ^ (Binary.ofFloat x).shortest.exponent

theorem unsignedChars_unsigned (x : Float) : Numeral.Unsigned (unsignedChars x) (written x) := by
  unfold unsignedChars written
  split
  · simpa using @Numeral.unsigned_point ['0'] ['0'] (List.cons_ne_nil '0' []) (by decide)
  · next hZero =>
      have hDigits := significant_digits (Binary.ofFloat x).shortest
      have hSome := significant_ne_nil (Binary.shortest_pos (mantissa_pos hZero))
      rw [← significant_value]
      simp only
      split
      · exact positional_unsigned _ hDigits
      · exact scientific_unsigned _ hSome hDigits

/-- A finite float is written as a numeral, with its sign in front. -/
theorem chars_numeral {x : Float} (h : isFinite x = true) :
    ∃ n : Numeral, n.Valid ∧ chars x = n.chars ∧ n.negative = isNegative x ∧
      n.literal.absolute = written x := by
  have hNumber : isNumber x = true := by
    simp only [isFinite, isNumber, decide_eq_true_eq] at h ⊢
    omega
  obtain ⟨n, hValid, hSign, hChars, hValue⟩ := unsignedChars_unsigned x
  refine ⟨{ n with negative := isNegative x }, ⟨hValid.1, hValid.2, hValid.3, hValid.4⟩, ?_, rfl,
    hValue⟩
  simp only [chars, hNumber, h, hChars, Bool.not_true, Bool.false_eq_true, if_false, if_true]
  simp [Numeral.chars, hSign, Numeral.fractionChars, Numeral.exponentChars]

theorem readExponent?_chars (e : Int) :
    readExponent? ((if e < 0 then ['-'] else []) ++ Nat.toDigits 10 e.natAbs) = some e := by
  have hMagnitude : readExponent?.magnitude? (Nat.toDigits 10 e.natAbs) = some e.natAbs := by
    have hAll : (Nat.toDigits 10 e.natAbs).all isDigit = true :=
      List.all_eq_true.mpr isDigit_of_mem_toDigits
    rw [readExponent?.magnitude?, hAll, ofDigits_toDigits]
    simp [Nat.toDigits_ne_nil]
  by_cases hNeg : e < 0
  · have hValue : -(e.natAbs : Int) = e := by omega
    simp only [hNeg, if_true, List.singleton_append, readExponent?, hMagnitude]
    exact congrArg some hValue
  · have hValue : Int.ofNat e.natAbs = e := Int.natAbs_of_nonneg (by omega)
    simp only [hNeg, ↓reduceIte, List.nil_append]
    obtain ⟨c, cs, hCons⟩ :=
      List.exists_cons_of_ne_nil (Nat.toDigits_ne_nil (b := 10) (n := e.natAbs))
    have hc : isDigit c = true := isDigit_of_mem_toDigits c (by rw [hCons]; simp)
    rw [hCons] at hMagnitude ⊢
    unfold readExponent?
    split
    · next h => cases h; exact absurd hc (by decide)
    · next h => cases h; exact absurd hc (by decide)
    · rw [hMagnitude, Option.map_some, hValue]

/-- No digit begins the name of a value that is not finite. -/
theorem toLower_isDigit {c : Char} (h : isDigit c = true) : c.toLower ≠ 'n' ∧ c.toLower ≠ 'i' := by
  have hSame : c.toLower = c := by
    simp only [isDigit, Bool.and_eq_true, decide_eq_true_eq, Char.le_def] at h
    unfold Char.toLower
    rw [dif_neg]
    rintro ⟨hUpper, _⟩
    exact absurd (UInt32.le_trans hUpper h.2) (by decide)
  constructor
  · rintro hEq
    rw [← hSame, hEq] at h
    exact absurd h (by decide)
  · rintro hEq
    rw [← hSame, hEq] at h
    exact absurd h (by decide)

theorem Numeral.marks_head (n : Numeral) :
    ∀ c ∈ (n.fractionChars ++ n.exponentChars).head?, isDigit c = false := by
  intro c hc
  cases hFraction : n.fraction with
  | some digits =>
      simp [fractionChars, hFraction] at hc
      subst hc
      decide
  | none =>
      cases hExponent : n.exponent with
      | some e =>
          simp [fractionChars, hFraction, exponentChars, hExponent] at hc
          subst hc
          decide
      | none => simp [fractionChars, hFraction, exponentChars, hExponent] at hc

/-- A numeral is read as its literal. -/
theorem readFloat?_chars {n : Numeral} (h : n.Valid) :
    readFloat? n.chars = some n.literal.toFloat := by
  have hTail := Numeral.marks_head n
  obtain ⟨negative, whole, fraction, exponent⟩ := n
  obtain ⟨c, cs, rfl⟩ := List.exists_cons_of_ne_nil h.whole_ne_nil
  have hc : isDigit c = true := h.whole_digits c (by simp)
  obtain ⟨hN, hI⟩ := toLower_isDigit hc
  have hMinus : c ≠ '-' := by
    rintro rfl
    exact absurd hc (by decide)
  have hPlus : c ≠ '+' := by
    rintro rfl
    exact absurd hc (by decide)
  have hcs : ∀ d ∈ cs, isDigit d = true := fun d hd => h.whole_digits d (by simp [hd])
  obtain ⟨hTake, hDrop⟩ := Parser.takeWhile_append hcs hTail
  simp only [Numeral.fractionChars, Numeral.exponentChars] at hTake hDrop
  simp only [Numeral.chars, Numeral.literal, Numeral.fractionChars, Numeral.exponentChars]
  cases fraction with
  | none =>
      cases exponent with
      | none => exact absurd h.marked (by simp)
      | some e =>
          simp only [List.nil_append, List.cons_append] at hTake hDrop
          cases negative <;>
            simp [readFloat?, hc, hN, hI, hMinus, hPlus, hTake, hDrop, readExponent?_chars]
  | some digits =>
      have hDigits := h.fraction_digits digits rfl
      cases exponent with
      | none =>
          have hTake' : digits.takeWhile isDigit = digits := List.takeWhile_eq_self_iff.mpr hDigits
          have hDrop' : digits.dropWhile isDigit = [] := List.dropWhile_eq_nil_iff.mpr hDigits
          simp only [List.append_nil] at hTake hDrop
          cases negative <;>
            simp [readFloat?, hc, hN, hI, hMinus, hPlus, hTake, hDrop, hTake', hDrop']
      | some e =>
          have hHead : ∀ c ∈ ('e' :: ((if e < 0 then ['-'] else []) ++
              Nat.toDigits 10 e.natAbs)).head?, isDigit c = false := by simp [isDigit]
          obtain ⟨hTake', hDrop'⟩ := Parser.takeWhile_append hDigits hHead
          simp only [List.cons_append] at hTake hDrop
          cases negative <;>
            simp [readFloat?, hc, hN, hI, hMinus, hPlus, hTake, hDrop, hTake', hDrop',
              readExponent?_chars]

end Hyperslab.Decimal
