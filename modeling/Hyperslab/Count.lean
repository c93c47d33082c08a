/-!
Element counts are 64-bit words. A product of sizes can pass the largest word; such a count is
held at the largest word instead of wrapping round to a small one.
-/

namespace Hyperslab

/-- The largest word. -/
def maxWord : Nat := UInt64.size - 1

/-- The sum of two counts, held at the largest word. -/
def addClamped (a b : UInt64) : UInt64 :=
  .ofNatClamp (a.toNat + b.toNat)

/-- The product of two counts, held at the largest word. -/
def mulClamped (a b : UInt64) : UInt64 :=
  .ofNatClamp (a.toNat * b.toNat)

/-- The difference of two counts, zero where the second is larger. -/
def subClamped (a b : UInt64) : UInt64 :=
  if b ≤ a then a - b else 0

/-- The product of a list of counts, held at the largest word. The empty product is one. -/
def productClamped (counts : List UInt64) : UInt64 :=
  counts.foldl mulClamped 1

theorem toNat_ofNatClamp (n : Nat) :
    (UInt64.ofNatClamp n).toNat = min n maxWord := by
  unfold UInt64.ofNatClamp
  split
  · rename_i h
    simp only [UInt64.toNat_ofNatLT]
    simp only [maxWord]
    omega
  · rename_i h
    simp only [UInt64.toNat_ofNatLT]
    simp only [maxWord]
    omega

@[simp] theorem toNat_addClamped (a b : UInt64) :
    (addClamped a b).toNat = min (a.toNat + b.toNat) maxWord :=
  toNat_ofNatClamp _

@[simp] theorem toNat_mulClamped (a b : UInt64) :
    (mulClamped a b).toNat = min (a.toNat * b.toNat) maxWord :=
  toNat_ofNatClamp _

@[simp] theorem toNat_subClamped (a b : UInt64) :
    (subClamped a b).toNat = a.toNat - b.toNat := by
  unfold subClamped
  split
  · rename_i h
    exact UInt64.toNat_sub_of_le _ _ h
  · rename_i h
    rw [UInt64.le_iff_toNat_le] at h
    simp
    omega

end Hyperslab
