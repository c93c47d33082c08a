import Hyperslab.Yaml.Scalar

/-!
The tokens of a YAML text. Indentation is made explicit: a block collection begins where a key or
the sign of an item stands further to the right than those around it, and ends in front of the first
token that stands further to the left. A key that no question mark announces is known by the colon
behind it, so its place is kept until then, and its tokens are put in front of it afterwards.
-/

namespace Hyperslab.Yaml

/-- The tokens of a text. `handle` is a directive that gives a short name to the start of a tag, and
a tag holds the short name that it uses. -/
inductive Token where
  | version (major minor : Nat)
  | handle (name start : List Char)
  | documentStart
  | documentEnd
  | blockSequenceStart
  | blockMappingStart
  | blockEnd
  | flowSequenceStart
  | flowSequenceEnd
  | flowMappingStart
  | flowMappingEnd
  | item
  | comma
  | key
  | value
  | alias (name : List Char)
  | anchor (name : List Char)
  | tag (handle rest : List Char)
  | scalar (style : ScalarStyle) (text : List Char)
  deriving DecidableEq, Repr

namespace Token

/-! ### Names, tags and directives -/

/-- The name of an anchor. Only a gap or one of a few signs may follow it. -/
def name? (c : Cursor) : Option (List Char × Cursor) :=
  let (name, c) := c.takeWhile isNameChar
  if name.isEmpty then none
  else if c.gapAhead 0 || c.atChar (· ∈ ['?', ':', ',', ']', '\x7d', '%', '@', '\x60']) then
    some (name, c)
  else none

/-- May the character stand in a tag? The signs of sequences may stand between angle brackets and in
directives only. -/
def isTagChar (flowSigns : Bool) (c : Char) : Bool :=
  isNameChar c || c ∈ ";/?:@&=+$.!~*'()".toList || (flowSigns && c ∈ [',', '[', ']'])

/-- An octet that is written with a percent sign. -/
def octet? : List Char → Option Nat
  | '%' :: a :: b :: _ => Digit.number? 16 [a, b]
  | _ => none

/-- The octets of one character, as the first of them gives their number. They are kept as
characters of the same code. -/
def octets? (c : Cursor) : Option (List Char × Cursor) := do
  let lead ← octet? c.rest
  let further ←
    if lead < 0x80 then some 0
    else if 0xc0 ≤ lead ∧ lead < 0xe0 then some 1
    else if 0xe0 ≤ lead ∧ lead < 0xf0 then some 2
    else if 0xf0 ≤ lead ∧ lead < 0xf8 then some 3
    else none
  let trail ← (List.range further).mapM fun k => do
    let octet ← octet? (c.rest.drop (3 * (k + 1)))
    if octet / 64 = 2 then some octet else none
  return ((lead :: trail).map Char.ofNat, c.advance (3 * (further + 1)))

/-- The characters of a tag, at most `n` of them. -/
def tagChars? (flowSigns : Bool) : Nat → Cursor → Option (List Char × Cursor)
  | 0, _ => none
  | n + 1, c =>
    match c.rest with
    | [] => some ([], c)
    | d :: _ =>
      if d = '%' then do
        let (octets, c) ← octets? c
        let (chars, c) ← tagChars? flowSigns n c
        return (octets ++ chars, c)
      else if isTagChar flowSigns d then do
        let (chars, c) ← tagChars? flowSigns n (c.advance 1)
        return (d :: chars, c)
      else some ([], c)

/-- Characters of a tag, one at least. What stands behind an escaped zero octet does not count. -/
def tagText? (flowSigns : Bool) (n : Nat) (c : Cursor) : Option (List Char × Cursor) := do
  let (chars, c) ← tagChars? flowSigns n c
  if chars.isEmpty then none else some (chars.takeWhile (· ≠ '\x00'), c)

/-- An exclamation mark with the name behind it, and with the mark that closes the name if there is
one. -/
def handleName (c : Cursor) : List Char × Cursor :=
  let (name, c) := (c.advance 1).takeWhile isNameChar
  if c.atChar (· = '!') then ('!' :: name ++ ['!'], c.advance 1) else ('!' :: name, c)

/-- Is this a name with a mark at either end? -/
def isHandle (name : List Char) : Bool := 1 < name.length && name.getLast? = some '!'

/-- A tag from its exclamation mark on. A tag between angle brackets, and one that is nothing but
the mark, has no handle. -/
def tag? (flow : Bool) (n : Nat) (c : Cursor) : Option (Token × Cursor) := do
  let (token, c) ←
    if c.rest[1]? = some '<' then do
      let (text, c) ← tagText? true n (c.advance 2)
      if c.atChar (· = '>') then some (tag [] text, c.advance 1) else none
    else
      let (name, behind) := handleName c
      if isHandle name then (tagText? false n behind).map fun (text, c) => (tag name text, c)
      else do
        let (chars, c) ← tagChars? false n behind
        let text := name.drop 1 ++ chars.takeWhile (· ≠ '\x00')
        some (if text.isEmpty then tag [] ['!'] else tag ['!'] text, c)
  if c.gapAhead 0 || (flow && c.atChar (· = ',')) then some (token, c) else none

/-- A number of at most nine digits. -/
def versionNumber? (c : Cursor) : Option (Nat × Cursor) := do
  let (digits, c) := c.takeWhile Char.isDigit
  if digits.length ≤ 9 then return (← Digit.number? 10 digits, c) else none

/-- A directive from its percent sign on, with the rest of its line. -/
def directive? (n : Nat) (c : Cursor) : Option (Token × Cursor) := do
  let (name, c) := (c.advance 1).takeWhile isNameChar
  if !c.gapAhead 0 then none
  let c := c.dropWhile isBlank
  let (token, c) ←
    if name = "YAML".toList then do
      let (major, c) ← versionNumber? c
      if !c.atChar (· = '.') then none
      let (minor, c) ← versionNumber? (c.advance 1)
      some (version major minor, c)
    else if name = "TAG".toList then do
      if !c.atChar (· = '!') then none
      let (name, c) := handleName c
      if !(name = ['!'] || isHandle name) || !c.atChar isBlank then none
      let (start, c) ← tagText? true n (c.dropWhile isBlank)
      if c.gapAhead 0 then some (handle name start, c) else none
    else none
  return (token, ← c.nextLine?)

end Token

/-! ### Keys and indentation -/

/-- A place where a key may begin, with the number of tokens in front of it. It is required if the
mapping around it can go on with nothing else there. -/
structure KeyPlace where
  tokens : Nat
  index : Nat
  line : Nat
  column : Nat
  required : Bool

/-- What is known while tokens are read: the place in the text; the tokens so far; the columns of
the block collections around the place, innermost first; where a key may have begun inside of the
innermost flow collection, and inside of those around it and of the block around them; and whether a
key may begin next. -/
structure Scan where
  cursor : Cursor
  tokens : Array Token := #[]
  columns : List Nat := []
  keyPlace? : Option KeyPlace := none
  outerKeys : List (Option KeyPlace) := []
  keyAllowed : Bool := true

namespace Scan

/-- Is the place inside of a flow collection? -/
def inFlow (s : Scan) : Bool := !s.outerKeys.isEmpty

/-- The first column that is inside of the innermost block collection. -/
def least (s : Scan) : Nat := (s.columns.head?.map (· + 1)).getD 0

/-- A token of `n` characters. -/
def push (s : Scan) (n : Nat) (t : Token) : Scan :=
  { s with cursor := s.cursor.advance n, tokens := s.tokens.push t }

/-- A token that ends at a place, after which a key may begin or not. -/
def pushTo (s : Scan) (keyAllowed : Bool) : Token × Cursor → Scan
  | (t, c) => { s with cursor := c, tokens := s.tokens.push t, keyAllowed }

/-- No key has begun before this place. -/
def dropKey? (s : Scan) : Option Scan :=
  if s.keyPlace?.any (·.required) then none else some { s with keyPlace? := none }

/-- A key may begin at this place, where keys are allowed. -/
def saveKey? (s : Scan) : Option Scan :=
  if s.keyAllowed then do
    let c := s.cursor
    let required := !s.inFlow && s.columns.head? = some c.column
    let place : KeyPlace := ⟨s.tokens.size, c.index, c.line, c.column, required⟩
    return { ← s.dropKey? with keyPlace? := some place }
  else some s

/-- A key ends on the line on which it begins, at most 1024 characters behind its start. -/
def isLate (s : Scan) (key : KeyPlace) : Bool :=
  key.line < s.cursor.line || key.index + 1024 < s.cursor.index

/-- Forget the places whose keys would be too long by now. -/
def dropLateKeys? (s : Scan) : Option Scan :=
  let inTime (place? : Option KeyPlace) := place?.filter fun key => !s.isLate key
  if (s.keyPlace? :: s.outerKeys).any (·.any fun key => key.required && s.isLate key) then none
  else some { s with keyPlace? := inTime s.keyPlace?, outerKeys := s.outerKeys.map inTime }

/-- Begin a block collection at a column with a token behind the first `n` tokens, unless it has
begun already. -/
def openBlock (s : Scan) (column n : Nat) (t : Token) : Scan :=
  if s.inFlow || s.columns.head?.any (column ≤ ·) then s
  else { s with columns := column :: s.columns, tokens := s.tokens.insertIdxIfInBounds n t }

/-- End the block collections that do not go on. -/
def closeBlocks (s : Scan) (goesOn : Nat → Bool) : Scan :=
  if s.inFlow then s
  else
    let closed := (s.columns.takeWhile fun column => !goesOn column).length
    { s with
      columns := s.columns.drop closed
      tokens := s.tokens ++ Array.replicate closed Token.blockEnd }

/-- Go past blanks, comments and line breaks, over at most `n` lines. Outside of flow collections a
key may begin on a new line, and there no tab may stand in front of it. -/
def skipGap : Nat → Scan → Scan
  | 0, s => s
  | n + 1, s =>
    let tabs := s.inFlow || !s.keyAllowed
    let c := (s.cursor.dropWhile fun d => d = ' ' || (tabs && d = '\t')).skipComment
    if c.atChar isBreak then
      skipGap n { s with cursor := c.lineBreak.2, keyAllowed := s.keyAllowed || !s.inFlow }
    else { s with cursor := c }

/-! ### Tokens one by one -/

def directive? (s : Scan) (n : Nat) : Option Scan := do
  let s ← (s.closeBlocks fun _ => false).dropKey?
  return s.pushTo false (← Token.directive? n s.cursor)

def documentMark? (s : Scan) (t : Token) : Option Scan := do
  let s ← (s.closeBlocks fun _ => false).dropKey?
  return { s with keyAllowed := false }.push 3 t

def openFlow? (s : Scan) (t : Token) : Option Scan := do
  let s ← s.saveKey?
  let outerKeys := s.keyPlace? :: s.outerKeys
  return { s with keyPlace? := none, outerKeys, keyAllowed := true }.push 1 t

def closeFlow? (s : Scan) (t : Token) : Option Scan := do
  let s ← s.dropKey?
  let keyPlace? := s.outerKeys.head?.join
  return { s with keyPlace?, outerKeys := s.outerKeys.tail, keyAllowed := false }.push 1 t

def comma? (s : Scan) : Option Scan := do
  return { ← s.dropKey? with keyAllowed := true }.push 1 .comma

/-- A hyphen in front of an item. -/
def itemSign? (s : Scan) : Option Scan := do
  if !s.inFlow && !s.keyAllowed then none
  let s ← (s.openBlock s.cursor.column s.tokens.size .blockSequenceStart).dropKey?
  return { s with keyAllowed := true }.push 1 .item

/-- A question mark in front of a key. -/
def keySign? (s : Scan) : Option Scan := do
  if !s.inFlow && !s.keyAllowed then none
  let s ← (s.openBlock s.cursor.column s.tokens.size .blockMappingStart).dropKey?
  return { s with keyAllowed := !s.inFlow }.push 1 .key

/-- A colon in front of a value. If a key has begun before it on its line, this is its end. -/
def valueSign? (s : Scan) : Option Scan :=
  match s.keyPlace? with
  | some key =>
    let s := { s with tokens := s.tokens.insertIdxIfInBounds key.tokens .key }
    let s := s.openBlock key.column key.tokens .blockMappingStart
    some ({ s with keyPlace? := none, keyAllowed := false }.push 1 .value)
  | none =>
    if !s.inFlow && !s.keyAllowed then none
    else
      let s := s.openBlock s.cursor.column s.tokens.size .blockMappingStart
      some ({ s with keyAllowed := !s.inFlow }.push 1 .value)

/-- A name behind its sign. -/
def name? (s : Scan) (t : List Char → Token) : Option Scan := do
  let s ← s.saveKey?
  let (name, c) ← Token.name? (s.cursor.advance 1)
  return s.pushTo false (t name, c)

def tag? (s : Scan) (n : Nat) : Option Scan := do
  let s ← s.saveKey?
  return s.pushTo false (← Token.tag? s.inFlow n s.cursor)

def block? (s : Scan) (n : Nat) (style : ScalarStyle) : Option Scan := do
  let s ← s.dropKey?
  let (text, c) ← blockText? style s.columns.head? n (s.cursor.advance 1)
  return s.pushTo true (.scalar style text, c)

def quoted? (s : Scan) (n : Nat) (quote : Char) : Option Scan := do
  let s ← s.saveKey?
  let (text, c) ← quotedWords? quote n (s.cursor.advance 1)
  return s.pushTo false (.scalar .quoted text, c)

def plain? (s : Scan) (n : Nat) : Option Scan := do
  let s ← s.saveKey?
  let (text, broken, c) ← plainWords? s.inFlow s.least n {} s.cursor
  return s.pushTo broken (.scalar .plain text, c)

/-- The token that begins with the character `c` at the place. -/
def token? (s : Scan) (n : Nat) (c : Char) : Option Scan :=
  let sign := s.inFlow || s.cursor.gapAhead 1
  if s.cursor.column = 0 && c = '%' then s.directive? n
  else if s.cursor.atMark '-' then s.documentMark? .documentStart
  else if s.cursor.atMark '.' then s.documentMark? .documentEnd
  else if c = '[' then s.openFlow? .flowSequenceStart
  else if c = '\x7b' then s.openFlow? .flowMappingStart
  else if c = ']' then s.closeFlow? .flowSequenceEnd
  else if c = '\x7d' then s.closeFlow? .flowMappingEnd
  else if c = ',' then s.comma?
  else if c = '-' && s.cursor.gapAhead 1 then s.itemSign?
  else if c = '?' && sign then s.keySign?
  else if c = ':' && sign then s.valueSign?
  else if c = '*' then s.name? .alias
  else if c = '&' then s.name? .anchor
  else if c = '!' then s.tag? n
  else if c = '|' && !s.inFlow then s.block? n .literal
  else if c = '>' && !s.inFlow then s.block? n .folded
  else if c = '\'' || c = '"' then s.quoted? n c
  else if c ∈ ['\t', '|', '>', '%', '@', '\x60'] then none
  else s.plain? n

/-- The tokens up to the end of the text, at most `k` of them, with `n` characters at most in each
of them. -/
def run? (n : Nat) : Nat → Scan → Option (List Token)
  | 0, _ => none
  | k + 1, s => do
    let s ← (s.skipGap n).dropLateKeys?
    let s := s.closeBlocks (· ≤ s.cursor.column)
    match s.cursor.rest with
    | [] => return (← (s.closeBlocks fun _ => false).dropKey?).tokens.toList
    | c :: _ => run? n k (← s.token? n c)

end Scan

/-- The tokens of a text. A byte order mark at its start is passed over. -/
def Token.ofText? (text : List Char) : Option (List Token) :=
  let start := Cursor.start text
  let cursor := if start.atChar (· = '\ufeff') then start.advance 1 else start
  let n := text.length + 2
  if text.all isReadable then Scan.run? n n { cursor } else none

end Hyperslab.Yaml
