import Hyperslab.Pattern.Automaton
import Hyperslab.Pattern.Reader

/-!
Patterns as filters use them. A pattern is held to the whole text by the conditions that are
written around it, so a pattern that closes the group around it can escape them.
-/

namespace Hyperslab.Pattern

/-- The bytes that a compiled pattern may take where nothing else is asked for. -/
def defaultBytes : Nat := 1048576

/-- The pattern between the start and the end of the text. -/
def anchored (pattern : String) : List Char :=
  "^(?:".toList ++ pattern.toList ++ ")$".toList

/-- Read a pattern that is to match whole texts. There is none if the pattern cannot be read, or if
its automata would take more than `limit` bytes. -/
def compile? (pattern : String) (limit : Nat) : Option Regex :=
  (Regex.read? (anchored pattern)).filter (·.size ≤ limit)

end Hyperslab.Pattern
