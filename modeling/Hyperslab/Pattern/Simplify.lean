import Hyperslab.Pattern.Regex

/-!
Expressions in a simple form: nothing nested that need not be, characters side by side as one
literal, and alternatives that are single characters as one set. What an expression matches does
not change, but the automaton of the simple form is smaller.
-/

namespace Hyperslab.Pattern.Regex

/-- The expression of a set of characters. A set of one is a literal. -/
def ofSet (s : CharSet) : Regex :=
  match s.ranges with
  | [(low, high)] => if low = high then literal [Char.ofNat low] else set s
  | _ => set s

/-- The set of an expression that matches single characters. -/
def set? : Regex → Option CharSet
  | literal [c] => some (.single c)
  | set s => some s
  | _ => none

/-- The parts of an expression side by side. -/
def parts : Regex → List Regex
  | seq rs => rs
  | r => [r]

/-- The alternatives that an expression consists of. -/
def choices : Regex → List Regex
  | alt rs => rs
  | r => [r]

/-- Put a part in front, in one literal with the next part if both are literals. -/
def prepend : Regex → List Regex → List Regex
  | literal cs, literal ds :: rest => literal (cs ++ ds) :: rest
  | r, rest => r :: rest

/-- Expressions side by side. -/
def concat (rs : List Regex) : Regex :=
  match (rs.flatMap parts).foldr prepend [] with
  | [r] => r
  | rs => seq rs

/-- How many parts two expressions begin with in common. -/
def commonLength : List Regex → List Regex → Nat
  | r :: rs, s :: ss => if r == s then commonLength rs ss + 1 else 0
  | _, _ => 0

/-- How many parts all alternatives begin with in common. An alternative of one part has none. -/
def sharedLength : List Regex → Nat
  | seq first :: others =>
    others.foldl (fun n r => match r with
      | seq rs => min n (commonLength first rs)
      | _ => 0) first.length
  | _ => 0

/-- One of several expressions, as one set if they are single characters. -/
def oneOf (rs : List Regex) : Regex :=
  match rs.flatMap choices with
  | [] => set .empty
  | [r] => r
  | rs =>
    match rs.mapM set? with
    | some sets => ofSet (.unionAll sets)
    | none => alt rs

/-- One of several expressions. What all of them begin with is written once. -/
def alternation (rs : List Regex) : Regex :=
  match oneOf rs with
  | alt rs =>
    match sharedLength rs, rs with
    | n + 1, r :: _ =>
      concat (r.parts.take (n + 1) ++ [oneOf (rs.map fun r => concat (r.parts.drop (n + 1)))])
    | _, _ => alt rs
  | r => r

mutual

/-- Can only the empty text match? -/
def isZeroWidth : Regex → Bool
  | literal cs => cs.isEmpty
  | set _ => false
  | look _ => true
  | group r => r.isZeroWidth
  | seq rs => areZeroWidth rs
  | alt rs => areZeroWidth rs
  | repeated r _ high => r.isZeroWidth || high = some 0

def areZeroWidth : List Regex → Bool
  | [] => true
  | r :: rs => r.isZeroWidth && areZeroWidth rs

end

/-- A repetition. To repeat what is empty changes nothing after the first time. -/
def repetition (r : Regex) (low : Nat) (high : Option Nat) : Regex :=
  let (low, high) :=
    if r.isZeroWidth then (min low 1, some (min (high.getD 1) 1)) else (low, high)
  if high = some 0 then empty
  else if low = 1 ∧ high = some 1 then r
  else repeated r low high

end Hyperslab.Pattern.Regex
