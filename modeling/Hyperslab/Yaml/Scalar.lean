import Hyperslab.Digit
import Hyperslab.Yaml.Cursor

/-!
The texts of scalars: plain, between quotes, or set as a block. A gap inside of a plain or quoted
scalar keeps its blanks as long as it stays on one line. A gap with line breaks is folded: a single
break is read as a space, and of several breaks the first is dropped.
-/

namespace Hyperslab.Yaml

/-- How a scalar is written. -/
inductive ScalarStyle where
  | plain
  | quoted
  | literal
  | folded
  deriving DecidableEq, Repr

/-- Blanks and line breaks between two words of a scalar: the blanks if there is no break, else the
first break and those behind it. A break that is escaped is not kept. -/
structure Gap where
  blanks : List Char := []
  broken : Bool := false
  first : List Char := []
  further : List Char := []

namespace Gap

/-- What a gap is read as. -/
def text (gap : Gap) : List Char :=
  if !gap.broken then gap.blanks
  else if gap.first ≠ ['\n'] then gap.first ++ gap.further
  else if gap.further.isEmpty then [' ']
  else gap.further

/-- Go on with a gap, over at most `n` characters. No tab may stand before the column `least` of
its further lines. -/
def extend? (least : Nat) : Nat → Gap → Cursor → Option (Gap × Cursor)
  | 0, _, _ => none
  | n + 1, gap, c =>
    match c.rest with
    | [] => some (gap, c)
    | d :: _ =>
      if isBlank d then
        if !gap.broken then extend? least n { gap with blanks := gap.blanks ++ [d] } (c.advance 1)
        else if d = '\t' && c.column < least then none
        else extend? least n gap (c.advance 1)
      else if isBreak d then
        let (b, c) := c.lineBreak
        if gap.broken then extend? least n { gap with further := gap.further ++ b } c
        else extend? least n { broken := true, first := b } c
      else some (gap, c)

end Gap

/-- The signs of flow collections, which end a plain scalar inside of one. -/
def isFlowSign (c : Char) : Bool := c ∈ [',', '[', ']', '\x7b', '\x7d']

/-- A word of a plain scalar: what comes before the next gap, or before a sign that ends the scalar.
Inside of a flow collection a colon may not stand in front of a sign. -/
def plainWord? (flow : Bool) : List Char → Option (List Char)
  | [] => some []
  | c :: rest =>
    if isBlank c || isBreak c then some []
    else if flow && c = ':' && rest.head?.any fun d => isFlowSign d || d = '?' then none
    else if c = ':' && rest.head?.all fun d => isBlank d || isBreak d then some []
    else if flow && isFlowSign c then some []
    else (plainWord? flow rest).map (c :: ·)

/-- The words of a plain scalar behind a gap, at most `n` of them. Outside of flow collections its
further lines are indented at least to the column `least`. Tells also whether the scalar is followed
by a line break. -/
def plainWords? (flow : Bool) (least : Nat) : Nat → Gap → Cursor →
    Option (List Char × Bool × Cursor)
  | 0, _, _ => none
  | n + 1, gap, c =>
    if c.atAnyMark || c.atChar (· = '#') then some ([], gap.broken, c)
    else do
      let word ← plainWord? flow c.rest
      if word.isEmpty then return ([], gap.broken, c)
      let (next, c) ← Gap.extend? least n {} (c.advance word.length)
      if !flow && c.column < least then return (gap.text ++ word, next.broken, c)
      let (words, broken, c) ← plainWords? flow least n next c
      return (gap.text ++ word ++ words, broken, c)

/-- The letters that stand behind a backslash for one character. -/
def escapes : List (Char × Char) :=
  [('0', '\x00'), ('a', '\x07'), ('b', '\x08'), ('t', '\t'), ('\t', '\t'), ('n', '\n'),
   ('v', '\x0b'), ('f', '\x0c'), ('r', '\r'), ('e', '\x1b'), (' ', ' '), ('"', '"'), ('/', '/'),
   ('\\', '\\'), ('N', '\u0085'), ('_', '\u00a0'), ('L', '\u2028'), ('P', '\u2029')]

/-- The letters that stand before a code point, with its number of hexadecimal digits. -/
def codedEscapes : List (Char × Nat) := [('x', 2), ('u', 4), ('U', 8)]

/-- The character that is written behind a backslash, and how many characters write it. -/
def escape? : List Char → Option (Char × Nat)
  | [] => none
  | letter :: rest =>
    match codedEscapes.lookup letter with
    | some count => do
      let code ← Digit.number? 16 (rest.take count)
      if count ≤ rest.length ∧ code.isValidChar then some (.ofNat code, count + 1) else none
    | none => (escapes.lookup letter).map fun c => (c, 1)

/-- A word of a quoted scalar: what comes before the next gap or before the closing quote, in at
most `n` steps. Tells also whether the word ends in an escaped line break. -/
def quotedWord? (quote : Char) : Nat → Cursor → Option (List Char × Bool × Cursor)
  | 0, _ => none
  | n + 1, c =>
    match c.rest with
    | [] => some ([], false, c)
    | d :: rest =>
      let escaping := quote = '"' && d = '\\'
      if isBlank d || isBreak d then some ([], false, c)
      else if quote = '\'' && d = quote && rest.head? = some quote then do
        let (word, broken, c) ← quotedWord? quote n (c.advance 2)
        return (quote :: word, broken, c)
      else if d = quote then some ([], false, c)
      else if escaping && rest.head?.any isBreak then
        some ([], true, (c.advance 1).lineBreak.2)
      else do
        let (e, size) ←
          if escaping then (escape? rest).map fun (e, k) => (e, k + 1) else some (d, 1)
        let (word, broken, c) ← quotedWord? quote n (c.advance size)
        return (e :: word, broken, c)

/-- The words of a quoted scalar up to the closing quote, at most `n` of them. No line of it may
look like a mark of a document. -/
def quotedWords? (quote : Char) : Nat → Cursor → Option (List Char × Cursor)
  | 0, _ => none
  | n + 1, c =>
    if c.atAnyMark || c.rest.isEmpty then none
    else do
      let (word, broken, c) ← quotedWord? quote (n + 1) c
      if c.atChar (· = quote) then return (word, c.advance 1)
      let (gap, c) ← Gap.extend? 0 (n + 1) { broken } c
      let (words, c) ← quotedWords? quote n c
      return (word ++ gap.text ++ words, c)

/-- What is done with the line breaks at the end of a block: drop all, keep one, keep all. -/
inductive Chomping where
  | strip
  | clip
  | keep
  deriving DecidableEq, Repr

def Chomping.ofSign? : Char → Option Chomping
  | '-' => some .strip
  | '+' => some .keep
  | _ => none

/-- The signs behind the one that begins a block, in either order: the chomping and the indentation.
Tells also how many characters they take. An indentation may not be zero. -/
def blockSigns? (text : List Char) : Option (Chomping × Option Nat × Nat) :=
  match text[0]?.bind Chomping.ofSign?, indentation? text[0]? with
  | some chomping, _ => do
    let indentation ← nonzero? (indentation? text[1]?)
    return (chomping, indentation, if indentation.isSome then 2 else 1)
  | none, some k => do
    let indentation ← nonzero? (some k)
    match text[1]?.bind Chomping.ofSign? with
    | some chomping => return (chomping, indentation, 2)
    | none => return (.clip, indentation, 1)
  | none, none => some (.clip, none, 0)
where
  indentation? (c : Option Char) : Option Nat := do
    let digit ← Digit.value? (← c)
    if digit < 10 then some digit else none
  nonzero? (k : Option Nat) : Option (Option Nat) := if k = some 0 then none else some k

/-- The empty lines in front of a line of a block, at most `n` of them: the largest column that is
reached by spaces, and the line breaks. While the indentation is not known, no tab may stand in it,
and afterwards none before it. -/
def blockGap? (indent : Option Nat) : Nat → Nat → List Char → Cursor →
    Option (Nat × List Char × Cursor)
  | 0, _, _, _ => none
  | n + 1, widest, breaks, c =>
    let spaces := (c.rest.takeWhile (· = ' ')).length
    let c := c.advance ((indent.map fun i => min spaces (i - c.column)).getD spaces)
    if indent.all (c.column < ·) && c.atChar (· = '\t') then none
    else if c.atChar isBreak then
      let (b, next) := c.lineBreak
      blockGap? indent n (max widest c.column) (breaks ++ b) next
    else some (max widest c.column, breaks, c)

/-- The lines of a block at the column `indent`, at most `n` of them, behind a line break and the
empty lines after it. In a folded block a single break is read as a space, unless one of the lines
around it begins with a blank, as `spaced` tells of the line before. -/
def blockLines? (style : ScalarStyle) (chomping : Chomping) (indent : Nat) : Nat → List Char →
    List Char → Bool → Cursor → Option (List Char × Cursor)
  | 0, _, _, _, _ => none
  | n + 1, lineEnd, further, spaced, c =>
    if c.column = indent && !c.rest.isEmpty then do
      let blank := c.atChar isBlank
      let joint :=
        if style = .folded && lineEnd = ['\n'] && !spaced && !blank then
          if further.isEmpty then [' '] else []
        else lineEnd
      let (line, c) := c.takeWhile fun d => !isBreak d
      let (lineEnd, c) := c.lineBreak
      let (_, empty, c) ← blockGap? (some indent) (n + 1) 0 [] c
      let (lines, c) ← blockLines? style chomping indent n lineEnd empty blank c
      return (joint ++ further ++ line ++ lines, c)
    else
      match chomping with
      | .strip => some ([], c)
      | .clip => some (lineEnd, c)
      | .keep => some (lineEnd ++ further, c)

/-- A block behind the sign that begins it, inside of a block collection at the column `outer` if
there is one. Without an indentation sign the widest of its first empty lines and its first line
give the indentation, which is more than `outer` and at least one. -/
def blockText? (style : ScalarStyle) (outer : Option Nat) (n : Nat) (c : Cursor) :
    Option (List Char × Cursor) := do
  let (chomping, indentation, size) ← blockSigns? c.rest
  let c ← (c.advance size).nextLine?
  let given := indentation.map (· + outer.getD 0)
  let (widest, empty, c) ← blockGap? given n 0 [] c
  let indent := given.getD (max widest (outer.getD 0 + 1))
  blockLines? style chomping indent n [] empty false c

end Hyperslab.Yaml
