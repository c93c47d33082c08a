import Hyperslab.Unicode.BinaryProperty
import Hyperslab.Unicode.Category

/-!
What words are made of, as patterns take them.
-/

namespace Hyperslab.Unicode

def decimalDigits : CharSet := category "Nd"

/-- What words are made of: letters, marks, decimal digits, connecting punctuation, and the two
characters that join or part letters without showing. -/
def wordCharacters : CharSet :=
  .unionAll [alphabetic, category "M", decimalDigits, category "Pc", ⟨[(0x200C, 0x200D)]⟩]

/-- Is the character part of a word? The table is consulted beyond ASCII only. -/
def isWordCharacter (c : Char) : Bool :=
  if c.toNat < 128 then c.isAlphanum || c = '_' else wordCharacters.contains c

end Hyperslab.Unicode
