/-!
Places in a YAML text: what is left of the text from a place on, and how far the place is from the
start of the text and of its line. Five characters end a line; a carriage return with a line feed
behind it ends one line, not two.
-/

namespace Hyperslab.Yaml

def isBlank (c : Char) : Bool := c = ' ' || c = '\t'

def isBreak (c : Char) : Bool := c ∈ ['\n', '\r', '\u0085', '\u2028', '\u2029']

/-- A letter or digit of ASCII, or one of the two signs that may stand in a name. -/
def isNameChar (c : Char) : Bool := c.isAlphanum || c = '_' || c = '-'

/-- May the character stand in a text at all? -/
def isReadable (c : Char) : Bool :=
  c ∈ ['\t', '\n', '\r', '\u0085'] || (' ' ≤ c && c ≤ '~') ||
    ('\u00a0' ≤ c && c ≠ '\ufffe' && c ≠ '\uffff')

/-- A place in a text, with the number of characters before it in the text and in its line, and the
number of lines before its line. -/
structure Cursor where
  rest : List Char
  index : Nat
  line : Nat
  column : Nat

namespace Cursor

def start (text : List Char) : Cursor := ⟨text, 0, 0, 0⟩

/-- Does a character of this class come next? -/
def atChar (c : Cursor) (p : Char → Bool) : Bool := c.rest.head?.any p

/-- Is the character `n` places further on a blank or a line break, or is there none? -/
def gapAhead (c : Cursor) (n : Nat) : Bool := c.rest[n]?.all fun d => isBlank d || isBreak d

/-- Is there a mark of a document, three times the same character at the start of a line? -/
def atMark (c : Cursor) (mark : Char) : Bool :=
  c.column = 0 && c.rest.take 3 = [mark, mark, mark] && c.gapAhead 3

/-- Does a document begin or end here? -/
def atAnyMark (c : Cursor) : Bool := c.atMark '-' || c.atMark '.'

/-- Go on by `n` characters of the line. -/
def advance (c : Cursor) (n : Nat) : Cursor :=
  { c with rest := c.rest.drop n, index := c.index + n, column := c.column + n }

/-- The longest run of characters of a class in which there is no line break. -/
def takeWhile (c : Cursor) (p : Char → Bool) : List Char × Cursor :=
  let run := c.rest.takeWhile p
  (run, c.advance run.length)

def dropWhile (c : Cursor) (p : Char → Bool) : Cursor := (c.takeWhile p).2

/-- Go behind the line break that comes next, if there is one. It is read as a line feed, unless it
is one of the two separators of Unicode. -/
def lineBreak (c : Cursor) : List Char × Cursor :=
  match c.rest with
  | '\r' :: '\n' :: rest => (['\n'], ⟨rest, c.index + 2, c.line + 1, 0⟩)
  | b :: rest =>
    ([if b = '\u2028' || b = '\u2029' then b else '\n'], ⟨rest, c.index + 1, c.line + 1, 0⟩)
  | [] => ([], c)

/-- Go past a comment, up to the end of its line. -/
def skipComment (c : Cursor) : Cursor :=
  if c.atChar (· = '#') then c.dropWhile fun d => !isBreak d else c

/-- Go to the next line, if nothing but blanks and a comment is left of this one. -/
def nextLine? (c : Cursor) : Option Cursor :=
  let c := (c.dropWhile isBlank).skipComment
  if c.rest.head?.all isBreak then some c.lineBreak.2 else none

end Cursor

end Hyperslab.Yaml
