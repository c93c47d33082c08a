import Hyperslab.Pattern.Whole

/-!
Bounds on what a request may ask for.
-/

namespace Hyperslab

/-- How large a compiled pattern may be, how deep a filter may be nested, and how many elements may
be selected of one variable. -/
structure Limits where
  patternBytes : Nat := Pattern.defaultBytes
  filterDepth : Nat := 64
  elements? : Option UInt64 := none
  deriving DecidableEq, Repr

end Hyperslab
