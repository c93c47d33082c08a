import Hyperslab.CharSet

/-!
The bytes that write the characters of a range, as sequences of byte ranges: a sequence stands for
all characters whose first byte lies in its first range, whose second byte lies in its second
range, and so on.
-/

namespace Hyperslab.Pattern

/-- For each byte of a character the range that it lies in. -/
abbrev ByteSequence := List (Nat × Nat)

/-- How many values a byte after the first one can take. -/
def tailValues : Nat := 64

/-- The first of the bytes that are not the first byte of a character. -/
def firstTail : Nat := 128

/-- Any `n` bytes after the first one. -/
def anyTails (n : Nat) : ByteSequence :=
  List.replicate n (firstTail, firstTail + tailValues - 1)

/-- The numbers from `low` to `high`, written with a leading byte that counts from `lead` and with
`n` bytes after it, in ascending order. -/
def sequencesFrom (lead : Nat) : Nat → Nat → Nat → List ByteSequence
  | 0, low, high => [[(lead + low, lead + high)]]
  | n + 1, low, high =>
    let unit := Nat.pow tailValues (n + 1)
    let (first, last) := (low / unit, high / unit)
    let inside (a from' upto : Nat) : List ByteSequence :=
      (sequencesFrom firstTail n from' upto).map ((lead + a, lead + a) :: ·)
    if first = last then inside first (low % unit) (high % unit)
    else
      let cutsFirst := low % unit ≠ 0
      let cutsLast := high % unit ≠ unit - 1
      let a := if cutsFirst then first + 1 else first
      let b := if cutsLast then last else last + 1
      (if cutsFirst then inside first (low % unit) (unit - 1) else []) ++
        (if a < b then [(lead + a, lead + b - 1) :: anyTails (n + 1)] else []) ++
        (if cutsLast then inside last 0 (high % unit) else [])

/-- The code points that are written with one to four bytes, and their leading bytes. Half of the
pairs of 16-bit units stand for no character. -/
def encodings : List (Nat × Nat × Nat × Nat) :=
  [(0, 0, 0x00, 0x7F), (0xC0, 1, 0x80, 0x7FF), (0xE0, 2, 0x800, 0xD7FF), (0xE0, 2, 0xE000, 0xFFFF),
    (0xF0, 3, 0x10000, 0x10FFFF)]

/-- The sequences of a range of code points, ascending. -/
def sequencesOf (low high : Nat) : List ByteSequence :=
  encodings.flatMap fun (lead, n, first, last) =>
    if max low first ≤ min high last then
      sequencesFrom lead n (max low first) (min high last)
    else []

/-- The sequences of a set of characters, ascending. -/
def sequences (s : CharSet) : List ByteSequence :=
  s.ranges.flatMap fun (low, high) => sequencesOf low high

/-- The bytes that write a character. -/
def bytesOf (c : Char) : List Nat :=
  ((sequencesOf c.toNat c.toNat).headD []).map Prod.fst

end Hyperslab.Pattern
