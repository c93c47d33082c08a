import Hyperslab.CharSet

/-!
How tables of character properties are kept: as lengths of runs of code points, from code point
zero upwards, separated by blanks. A table of one property alternates between code points without
it and with it; a table of a classification names the class of each run.
-/

namespace Hyperslab.Unicode

/-- A run of code points of one class. -/
structure Run where
  label : String
  length : Nat

/-- The letters in front of a run's length, and the length. -/
def readRun (word : List Char) : Run where
  label := .ofList (word.takeWhile fun c => !c.isDigit)
  length := Nat.ofDigitChars 10 (word.dropWhile fun c => !c.isDigit) 0

/-- The words of a text, which blanks separate. -/
def words (text : String) : List (List Char) :=
  (go text.toList).filter fun word => !word.isEmpty
where
  go : List Char → List (List Char)
    | [] => [[]]
    | c :: rest =>
      match go rest with
      | word :: others => if c.isWhitespace then [] :: word :: others else (c :: word) :: others
      | [] => [[c]]

/-- Each run with its first and its last code point. -/
def placeRuns (start : Nat) : List Run → List (String × Nat × Nat)
  | [] => []
  | run :: rest =>
    if run.length = 0 then placeRuns start rest
    else (run.label, start, start + run.length - 1) :: placeRuns (start + run.length) rest

/-- The runs of a classification. -/
def classRuns (table : String) : List (String × Nat × Nat) :=
  placeRuns 0 ((words table).map readRun)

/-- Mark the runs of a single property in turn as without it and with it. -/
def alternate (has : Bool) : List Run → List Run
  | [] => []
  | run :: rest => { run with label := if has then "yes" else "no" } :: alternate (!has) rest

/-- The characters in every other run, from the second one on. -/
def propertySetOf (runs : List Run) : CharSet :=
  ⟨(placeRuns 0 (alternate false runs)).filterMap fun (label, low, high) =>
    if label = "yes" then some (low, high) else none⟩

/-- The characters that have a single property. -/
def propertySet (table : String) : CharSet := propertySetOf ((words table).map readRun)

/-- The characters whose class satisfies a test. -/
def classSet (runs : List (String × Nat × Nat)) (test : String → Bool) : CharSet :=
  .ofRanges (runs.filterMap fun (label, low, high) =>
    if test label then some (low, high) else none)

end Hyperslab.Unicode
