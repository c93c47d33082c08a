import Hyperslab.Decimal.Text

/-!
Scalar values: what a filter compares and what a row holds. A value has a literal form, in which
strings are quoted and floats keep a point or an exponent, and an unquoted form that patterns see.
-/

namespace Hyperslab

inductive Value where
  | bool (b : Bool)
  | int (n : Int64)
  | float (x : Float)
  | str (s : String)

namespace Value

instance : Inhabited Value := ⟨bool false⟩

/-- What reports call the kind of the value. -/
def kind : Value → String
  | bool _ => "boolean"
  | int _ => "integer"
  | float _ => "float"
  | str _ => "string"

def asBool? : Value → Option Bool
  | bool b => some b
  | _ => none

/-- An integer in decimal digits, with a minus sign below zero. -/
def integerChars (n : Int64) : List Char :=
  (if n.toInt < 0 then ['-'] else []) ++ Nat.toDigits 10 n.toInt.natAbs

def boolChars (b : Bool) : List Char := (if b then "true" else "false").toList

/-- A backslash in front of quotes and backslashes. -/
def escapeInString (c : Char) : List Char :=
  if c = '"' ∨ c = '\\' then ['\\', c] else [c]

/-- A string between quotes. -/
def quoted (s : List Char) : List Char := '"' :: s.flatMap escapeInString ++ ['"']

/-- The literal form, as a filter writes it. -/
def chars : Value → List Char
  | bool b => boolChars b
  | int n => integerChars n
  | float x => Decimal.chars x
  | str s => quoted s.toList

/-- The literal form, as a filter writes it. -/
def literal (v : Value) : String := .ofList v.chars

/-- The unquoted form. -/
def text : Value → String
  | str s => s
  | v => v.literal

/-- A number as a float. Integers that a float cannot hold are rounded. -/
def widen? : Value → Option Float
  | int n => some (.ofInt n.toInt)
  | float x => some x
  | _ => none

end Value

end Hyperslab
