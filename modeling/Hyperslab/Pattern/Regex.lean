import Hyperslab.Unicode.Word

/-!
Regular expressions over characters, and the positions of a text that they can reach. Only whether
some part of a text matches is asked for, so a match is a set of end positions without priorities.
-/

namespace Hyperslab.Pattern

/-- A condition on the characters around a position. -/
inductive Look where
  | textStart
  | textEnd
  | lineStart
  | lineEnd
  | anyLineStart
  | anyLineEnd
  | wordEdge (unicode : Bool)
  | noWordEdge (unicode : Bool)
  | wordStart (unicode : Bool)
  | wordEnd (unicode : Bool)
  | noWordBefore (unicode : Bool)
  | noWordAfter (unicode : Bool)
  deriving DecidableEq, Repr

/-- Is the character there and part of a word? -/
def inWord (unicode : Bool) : Option Char → Bool
  | some c => if unicode then Unicode.isWordCharacter c else c.isAlphanum || c = '_'
  | none => false

/-- Does the condition hold between the characters `before` and `after`? Lines end at a line feed;
the conditions on any line end also know the carriage return, and the pair of both as one end. -/
def Look.holds (before after : Option Char) : Look → Bool
  | textStart => before.isNone
  | textEnd => after.isNone
  | lineStart => before.isNone || before = some '\n'
  | lineEnd => after.isNone || after = some '\n'
  | anyLineStart => before.isNone || before = some '\n' ||
      (before = some '\r' && after ≠ some '\n')
  | anyLineEnd => after.isNone || after = some '\r' ||
      (after = some '\n' && before ≠ some '\r')
  | wordEdge u => inWord u before != inWord u after
  | noWordEdge u => inWord u before == inWord u after
  | wordStart u => !inWord u before && inWord u after
  | wordEnd u => inWord u before && !inWord u after
  | noWordBefore u => !inWord u before
  | noWordAfter u => !inWord u after

/-- A regular expression. Parts side by side and alternatives are kept as lists, so that an
expression has one form however its text groups them. -/
inductive Regex where
  /-- These characters, in this order. -/
  | literal (text : List Char)
  | set (s : CharSet)
  | look (l : Look)
  /-- A group that remembers what it matched. Nothing here asks for it. -/
  | group (r : Regex)
  /-- One after the other. -/
  | seq (rs : List Regex)
  /-- One of them. -/
  | alt (rs : List Regex)
  /-- From `low` to `high` times, or without an upper bound. -/
  | repeated (r : Regex) (low : Nat) (high : Option Nat)
  deriving Repr

mutual

/-- Are the expressions written alike? -/
def Regex.beq : Regex → Regex → Bool
  | literal cs, literal ds => cs = ds
  | set s, set t => s = t
  | look l, look m => l = m
  | group r, group s => r.beq s
  | seq rs, seq ss => Regex.beqAll rs ss
  | alt rs, alt ss => Regex.beqAll rs ss
  | repeated r low high, repeated s low' high' => r.beq s && low = low' && high = high'
  | _, _ => false

def Regex.beqAll : List Regex → List Regex → Bool
  | [], [] => true
  | r :: rs, s :: ss => r.beq s && Regex.beqAll rs ss
  | _, _ => false

end

instance : BEq Regex := ⟨Regex.beq⟩

/-- Two ascending lists of positions in one. -/
def mergePositions : List Nat → List Nat → List Nat
  | [], qs => qs
  | ps, [] => ps
  | p :: ps, q :: qs =>
    if p < q then p :: mergePositions ps (q :: qs)
    else if q < p then q :: mergePositions (p :: ps) qs
    else p :: mergePositions ps qs
termination_by ps qs => ps.length + qs.length

/-- Apply a step exactly `n` times. A step that changes nothing is not repeated. -/
def iterate (step : List Nat → List Nat) : Nat → List Nat → List Nat
  | 0, ps => ps
  | n + 1, ps =>
    let qs := step ps
    if qs = ps then ps else iterate step n qs

/-- Everything reached by at most `n` steps from `frontier`, together with `seen`. -/
def reach (step : List Nat → List Nat) : Nat → List Nat → List Nat → List Nat
  | 0, seen, _ => seen
  | n + 1, seen, frontier =>
    let fresh := (step frontier).filter fun p => !seen.contains p
    if fresh.isEmpty then seen else reach step n (mergePositions seen fresh) fresh

/-- The positions after one character that passes a test. -/
def step (text : Array Char) (test : Char → Bool) (ps : List Nat) : List Nat :=
  ps.filterMap fun p =>
    match text[p]? with
    | some c => if test c then some (p + 1) else none
    | none => none

namespace Regex

/-- The expression that only the empty text matches. -/
def empty : Regex := seq []

mutual

/-- The positions of the text at which a match can end that starts at one of the given positions.
Both lists ascend. -/
def ends (text : Array Char) : Regex → List Nat → List Nat
  | literal cs, ps => cs.foldl (fun ps c => step text (· = c) ps) ps
  | set s, ps => step text s.contains ps
  | look l, ps => ps.filter fun p =>
      l.holds (if p = 0 then none else text[p - 1]?) text[p]?
  | group r, ps => r.ends text ps
  | seq rs, ps => endsAll text rs ps
  | alt rs, ps => endsAny text rs ps
  | repeated r low high, ps =>
    let start := iterate (r.ends text) low ps
    let optional := match high with
      | some high => high - low
      | none => text.size + 1
    reach (r.ends text) optional start start

/-- Where matches of all expressions, one after the other, can end. -/
def endsAll (text : Array Char) : List Regex → List Nat → List Nat
  | [], ps => ps
  | r :: rs, ps => endsAll text rs (r.ends text ps)

/-- Where matches of any of the expressions can end. -/
def endsAny (text : Array Char) : List Regex → List Nat → List Nat
  | [], _ => []
  | r :: rs, ps => mergePositions (r.ends text ps) (endsAny text rs ps)

end

/-- Does some part of the text match? -/
def isMatch (r : Regex) (text : String) : Bool :=
  let chars := text.toList.toArray
  !(r.ends chars (List.range (chars.size + 1))).isEmpty

end Regex

end Hyperslab.Pattern
