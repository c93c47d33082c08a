import Hyperslab.Fault

/-!
Parsers that give up in two ways. A parser that stops leaves its alternatives open, unless the stop
is final: then no other reading of the text is tried. Each stop keeps its place and what was
expected there.
-/

namespace Hyperslab

/-- Where a parser stopped, and which rules it was in, the innermost first. -/
structure Stop where
  final : Bool
  rest : List Char
  expected : List Expectation
  deriving DecidableEq, Repr

/-- A parser takes a text to a value and the rest of the text. -/
abbrev Parser (α : Type) := StateT (List Char) (Except Stop) α

namespace Parser

variable {α β : Type}

/-- Stop here, with other readings left open. -/
def stop : Parser α := fun input => .error ⟨false, input, []⟩

/-- Stop for good, at the given place. -/
def refuse (place : List Char) (expected : Expectation) : Parser α :=
  fun _ => .error ⟨true, place, [expected]⟩

/-- Leave no other reading open if `p` stops. -/
def cut (p : Parser α) : Parser α := fun input =>
  match p input with
  | .error stop => .error { stop with final := true }
  | .ok done => .ok done

/-- Name what is looked for, in case `p` stops. -/
def expecting (e : Expectation) (p : Parser α) : Parser α := fun input =>
  match p input with
  | .error stop => .error { stop with expected := stop.expected ++ [e] }
  | .ok done => .ok done

/-- Try `q` on the same text if `p` stops and leaves that open. -/
def either (p q : Parser α) : Parser α := fun input =>
  match p input with
  | .error ⟨false, _, _⟩ => q input
  | .error stop => .error stop
  | .ok done => .ok done

/-- Read nothing if `p` stops and leaves that open. -/
def maybe (p : Parser α) : Parser (Option α) := fun input =>
  match p input with
  | .error ⟨false, _, _⟩ => .ok (none, input)
  | .error stop => .error stop
  | .ok (a, rest) => .ok (some a, rest)

/-- Apply `p` at most `n` times, for as long as it reads something. -/
def upTo (p : Parser α) : Nat → Parser (List α)
  | 0 => return []
  | n + 1 => do
    match ← maybe p with
    | some a => return a :: (← upTo p n)
    | none => return []

/-- Apply `p` as often as it reads something. Each time takes at least one character. -/
def many (p : Parser α) : Parser (List α) := fun input => upTo p input.length input

/-- One or more `p` with `separator` between them. A separator is taken with what follows it or not
at all. -/
def separated (separator : Parser β) (p : Parser α) : Parser (List α) := do
  let first ← p
  let rest ← many do
    let _ ← separator
    p
  return first :: rest

/-- One of the given characters. -/
def oneOf (cs : List Char) : Parser Char
  | c :: rest => if c ∈ cs then .ok (c, rest) else .error ⟨false, c :: rest, []⟩
  | [] => .error ⟨false, [], []⟩

def char (c : Char) : Parser Char := oneOf [c]

/-- All characters up to the first one that `p` does not hold of. -/
def charsWhile (p : Char → Bool) : Parser (List Char) := fun input =>
  .ok (input.takeWhile p, input.dropWhile p)

/-- The same, with at least one character. -/
def someWhile (p : Char → Bool) : Parser (List Char) := fun input =>
  if (input.takeWhile p).isEmpty then .error ⟨false, input, []⟩
  else .ok (input.takeWhile p, input.dropWhile p)

/-- What may stand around the tokens of a request. -/
def isBlank (c : Char) : Bool := c = ' ' || c = '\t' || c = '\r' || c = '\n'

def skipBlanks : Parser Unit := fun input => .ok ((), input.dropWhile isBlank)

/-- Apply `p` with the blanks around it. -/
def token (p : Parser α) : Parser α := do
  skipBlanks
  let a ← p
  skipBlanks
  return a

/-- The place in `text` where only `rest` is left. -/
def place (text rest : List Char) (expected : List Expectation) : SyntaxFault :=
  let read := text.take (text.length - rest.length)
  let line := (read.reverse.takeWhile (· ≠ '\n')).reverse
  ⟨read.count '\n' + 1, (String.ofList line).utf8ByteSize + 1, expected⟩

/-- Read a whole text. -/
def run (p : Parser α) (text : List Char) : Except SyntaxFault α :=
  match p text with
  | .ok (a, []) => .ok a
  | .ok (_, rest) => .error (place text rest [])
  | .error stop => .error (place text stop.rest stop.expected)

end Parser

end Hyperslab
