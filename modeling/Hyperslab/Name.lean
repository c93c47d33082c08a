import Hyperslab.Unicode.Alphanumeric
import Hyperslab.Decimal.Literal

/-!
Names as requests write them. Letters, digits and a few signs stand for themselves; a backslash
takes the next character as part of the name, whatever it is.
-/

namespace Hyperslab.Name

/-- May the character stand in a name without a backslash? -/
def isPlain (c : Char) : Bool :=
  Unicode.isAlphanumeric c || c ∈ ['_', '-', '+', '/', '@', '$', '%', '#']

/-- Would a filter take the start of the name for a literal? -/
def looksLiteral (name : List Char) : Bool :=
  name = "true".toList || name = "false".toList ||
    match name with
    | '-' :: c :: _ => Decimal.isDigit c
    | c :: _ => Decimal.isDigit c
    | [] => false

/-- The name with backslashes where they are needed. A name that looks like a literal has its first
character escaped too. -/
def escape (name : List Char) : List Char :=
  (if looksLiteral name then ['\\'] else []) ++
    name.flatMap fun c => if isPlain c then [c] else ['\\', c]

/-- The name as a request writes it. -/
def written (name : String) : String := .ofList (escape name.toList)

end Hyperslab.Name
