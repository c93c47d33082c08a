import Hyperslab.Count
import Mathlib.Algebra.BigOperators.Ring.List
import Mathlib.Algebra.Ring.Nat

/-! Counts that are held at the largest word, and arithmetic that is refused where it would leave
the range of a word. Where every operation of a computation is checked and none is refused, nothing
has wrapped round. -/
namespace Hyperslab

/-- Holding each product at the largest word comes to holding the last one there. -/
theorem toNat_foldl_mulClamped (counts : List UInt64) (first : UInt64) :
    (counts.foldl mulClamped first).toNat =
      min (first.toNat * (counts.map UInt64.toNat).prod) maxWord := by
  induction counts generalizing first with
  | nil =>
      have hFirst : first.toNat ≤ maxWord := Nat.le_sub_one_of_lt first.toNat_lt
      rw [List.foldl_nil, List.map_nil, List.prod_nil, Nat.mul_one, Nat.min_eq_left hFirst]
  | cons count counts ih =>
      rw [List.foldl_cons, ih, toNat_mulClamped, List.map_cons, List.prod_cons, ← Nat.mul_assoc]
      generalize first.toNat * count.toNat = product
      generalize (counts.map UInt64.toNat).prod = rest
      rcases Nat.eq_zero_or_pos rest with rfl | hRest
      · simp
      · rcases Nat.le_total product maxWord with hSmall | hLarge
        · rw [Nat.min_eq_left hSmall]
        · rw [Nat.min_eq_right hLarge, Nat.min_eq_right (Nat.le_mul_of_pos_right _ hRest),
            Nat.min_eq_right (hLarge.trans (Nat.le_mul_of_pos_right _ hRest))]

theorem toNat_productClamped (counts : List UInt64) :
    (productClamped counts).toNat = min (counts.map UInt64.toNat).prod maxWord := by
  rw [productClamped, toNat_foldl_mulClamped, UInt64.toNat_one, Nat.one_mul]

/-- The sum of two words, if it is a word. -/
def addChecked (a b : UInt64) : Option UInt64 :=
  if a.toNat + b.toNat ≤ maxWord then some (a + b) else none

/-- The product of two words, if it is a word. -/
def mulChecked (a b : UInt64) : Option UInt64 :=
  if a.toNat * b.toNat ≤ maxWord then some (a * b) else none

/-- The difference of two words, if it is a word. -/
def subChecked (a b : UInt64) : Option UInt64 :=
  if b ≤ a then some (a - b) else none

end Hyperslab
