/-!
Sets of characters as ascending closed ranges of code points. Every set that a pattern can write
down, and every property of characters that is kept as a table, is of this form.
-/

namespace Hyperslab

/-- A set of characters: closed ranges of code points, ascending, with gaps between them. -/
structure CharSet where
  ranges : List (Nat × Nat)
  deriving DecidableEq, Repr

namespace CharSet

/-- The largest code point. -/
def lastCodePoint : Nat := 0x10FFFF

def contains (s : CharSet) (c : Char) : Bool :=
  s.ranges.any fun (low, high) => low ≤ c.toNat && c.toNat ≤ high

def empty : CharSet := ⟨[]⟩

def all : CharSet := ⟨[(0, lastCodePoint)]⟩

/-- The characters from `low` to `high`, both included. -/
def range (low high : Char) : CharSet := ⟨[(low.toNat, high.toNat)]⟩

def single (c : Char) : CharSet := range c c

def isEmpty (s : CharSet) : Bool := s.ranges.isEmpty

/-- Does the set hold code points below 128 only? -/
def isAscii (s : CharSet) : Bool := s.ranges.all fun (_, high) => high < 128

/-- Join ranges that overlap or touch, in a list whose lower ends ascend. -/
def merge : List (Nat × Nat) → List (Nat × Nat)
  | [] => []
  | [r] => [r]
  | (low, high) :: (low', high') :: rest =>
    if low' ≤ high + 1 then merge ((low, max high high') :: rest)
    else (low, high) :: merge ((low', high') :: rest)
termination_by ranges => ranges.length

/-- The set of all code points in any of the given ranges. -/
def ofRanges (ranges : List (Nat × Nat)) : CharSet :=
  ⟨merge (ranges.mergeSort fun a b => a.1 ≤ b.1)⟩

/-- The code points in gaps between ranges, from `start` on. -/
def gaps (start : Nat) : List (Nat × Nat) → List (Nat × Nat)
  | [] => if start ≤ lastCodePoint then [(start, lastCodePoint)] else []
  | (low, high) :: rest =>
    if start < low then (start, low - 1) :: gaps (high + 1) rest else gaps (high + 1) rest

def complement (s : CharSet) : CharSet := ⟨gaps 0 s.ranges⟩

def union (s t : CharSet) : CharSet := ofRanges (s.ranges ++ t.ranges)

def unionAll (sets : List CharSet) : CharSet := ofRanges (sets.flatMap CharSet.ranges)

def inter (s t : CharSet) : CharSet := (s.complement.union t.complement).complement

def diff (s t : CharSet) : CharSet := s.inter t.complement

def symmDiff (s t : CharSet) : CharSet := (s.diff t).union (t.diff s)

end CharSet

end Hyperslab
