import Hyperslab.Pattern.ByteSequence
import Hyperslab.Pattern.Simplify

/-!
How many bytes the automata of an expression take. The automata read bytes: one of them reads a
text forwards to find a match, the other one backwards from the end of a match. A counted part is
there as many times as it may have to match.
-/

namespace Hyperslab.Pattern

/-- Which way an automaton reads its text. -/
inductive Direction where
  | forward
  | backward
  deriving DecidableEq

/-- The bytes of a state. -/
def stateBytes : Nat := 32

/-- The further bytes of each way out of a state that looks at the next byte. -/
def transitionBytes : Nat := 8

/-- The further bytes of each way out of a state that only branches. -/
def branchBytes : Nat := 4

/-- A state with `n` ways out by the next byte. -/
def sparseBytes (n : Nat) : Nat := stateBytes + transitionBytes * n

/-- A state that branches `n` ways. -/
def unionBytes (n : Nat) : Nat := stateBytes + branchBytes * n

/-- Collect what follows each first element, in the order in which the first elements turn up. -/
def groupHeads {α : Type} [BEq α] (rows : List (List α)) : List (α × List (List α)) :=
  let heads := (rows.filterMap List.head?).eraseDups
  heads.map fun h => (h, rows.filterMap fun row =>
    match row with
    | a :: rest => if a == h then some rest else none
    | [] => none)

/-- The tree of byte sequences, as each of its nodes with what can follow there. -/
def treeNodes : Nat → List ByteSequence → List (List ByteSequence)
  | 0, _ => []
  | depth + 1, rows =>
    if rows.all List.isEmpty then []
    else rows :: (groupHeads rows).flatMap fun (_, rest) => treeNodes depth rest

def total (sizes : List Nat) : Nat := sizes.foldl (· + ·) 0

/-- No character is written with more bytes. -/
def maxBytes : Nat := 4

/-- The states of a set that is not all ASCII. Forwards, nodes that the same can follow share a
state. Backwards each edge is a state, and one state branches to every sequence. -/
def treeBytes (direction : Direction) (rows : List ByteSequence) : Nat :=
  let nodes := treeNodes maxBytes rows
  match direction with
  | .forward =>
    stateBytes + total (nodes.eraseDups.map fun rows => sparseBytes (groupHeads rows).length)
  | .backward =>
    stateBytes + unionBytes rows.length +
      total (nodes.map fun rows => stateBytes * (groupHeads rows).length)

def setBytes (direction : Direction) (s : CharSet) : Nat :=
  if s.isAscii then stateBytes + sparseBytes s.ranges.length
  else treeBytes direction (sequences s)

/-- The bytes of a literal in the order in which they are read. -/
def literalBytes (direction : Direction) (cs : List Char) : List Nat :=
  match direction with
  | .forward => cs.flatMap bytesOf
  | .backward => (cs.flatMap bytesOf).reverse

/-- Cut rows apart at each empty one. -/
def splitAtEmpty {α : Type} : List (List α) → List (List (List α))
  | [] => [[]]
  | row :: rest =>
    match splitAtEmpty rest with
    | rows :: others => if row.isEmpty then [] :: rows :: others else (row :: rows) :: others
    | [] => [[row]]

/-- The states of a tree of literals, of which an earlier one is preferred: a literal that ends in
a node keeps those before it apart from those after it. -/
def literalTreeBytes : Nat → List (List Nat) → Nat
  | 0, _ => 0
  | depth + 1, rows =>
    let chunks := (splitAtEmpty rows).map groupHeads
    let filled := chunks.filter fun chunk => !chunk.isEmpty
    let ways := filled.length + (chunks.length - 1)
    unionBytes ways + total (filled.map fun chunk =>
      (if chunk.length = 1 then stateBytes else sparseBytes chunk.length) +
        total (chunk.map fun (_, rest) =>
          if rest.all List.isEmpty then 0 else literalTreeBytes depth rest))

namespace Regex

def literal? : Regex → Option (List Char)
  | literal cs => some cs
  | _ => none

mutual

/-- The least number of bytes that a match takes, unless nothing matches. -/
def minLength? : Regex → Option Nat
  | literal cs => some (cs.flatMap bytesOf).length
  | set s => s.ranges.head?.map fun (low, _) => ((sequencesOf low low).headD []).length
  | look _ => some 0
  | group r => r.minLength?
  | seq rs => minTotal? rs
  | alt rs => minOf? rs
  | repeated r low _ => r.minLength?.map (· * low)

def minTotal? : List Regex → Option Nat
  | [] => some 0
  | r :: rs => do return (← r.minLength?) + (← minTotal? rs)

def minOf? : List Regex → Option Nat
  | [] => none
  | [r] => r.minLength?
  | r :: rs => do return min (← r.minLength?) (← minOf? rs)

end

mutual

/-- The bytes that the states of an expression take. -/
def bytes (direction : Direction) : Regex → Nat
  | literal cs => stateBytes * (literalBytes direction cs).length
  | set s => setBytes direction s
  | look _ => stateBytes
  | group r =>
    match direction with
    | .forward => 2 * stateBytes + r.bytes direction
    | .backward => r.bytes direction
  | seq rs => if rs.isEmpty then stateBytes else totalBytes direction rs
  | alt rs =>
    match rs.mapM literal? with
    | some texts =>
      let rows := texts.map (literalBytes direction)
      stateBytes + literalTreeBytes ((rows.map List.length).foldl max 0 + 1) rows
    | none => stateBytes + unionBytes rs.length + totalBytes direction rs
  | repeated r low high =>
    let part := r.bytes direction
    match low, high with
    | 0, none =>
      if (r.minLength?.getD 0) = 0 then part + 2 * unionBytes 2 + stateBytes
      else part + unionBytes 2
    | low, none => low * part + unionBytes 2
    | 0, some 1 => part + unionBytes 2 + stateBytes
    | low, some high =>
      if low = high then low * part
      else (if low = 0 then stateBytes else low * part) + stateBytes +
        (high - low) * (part + unionBytes 2)

def totalBytes (direction : Direction) : List Regex → Nat
  | [] => 0
  | r :: rs => r.bytes direction + totalBytes direction rs

end

/-- The bytes of the larger one of the two automata. Either one has a state to start in and a state
for the match, and the forward one remembers where the match begins and ends. -/
def size (r : Regex) : Nat :=
  max (4 * stateBytes + r.bytes .forward) (2 * stateBytes + r.bytes .backward)

end Regex

end Hyperslab.Pattern
