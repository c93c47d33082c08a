import Hyperslab.Digit
import Hyperslab.Pattern.Property
import Hyperslab.Pattern.Simplify
import Hyperslab.Unicode.Alphanumeric
import Hyperslab.Unicode.CaseFold
import Hyperslab.Decimal.Literal

/-!
Reading patterns. Flags take effect from where they are written to the end of the group that they
are written in. Every reader returns what is left of the text, and none where the text is no
pattern. There are no back-references and no conditions on what is farther away than the next
character.
-/

namespace Hyperslab.Pattern

/-- What the flags of a pattern change. -/
structure Flags where
  ignoreCase : Bool := false
  multiLine : Bool := false
  dotAll : Bool := false
  unicode : Bool := true
  anyLineEnd : Bool := false
  /-- Blanks and comments in the pattern stand for nothing. -/
  spaced : Bool := false

/-- Skip blanks, and comments from a number sign to the end of the line. -/
def skipSpace : List Char → List Char
  | [] => []
  | c :: rest =>
    if Unicode.isWhiteSpace c then skipSpace rest
    else if c = '#' then skipComment rest
    else c :: rest
where
  skipComment : List Char → List Char
    | [] => []
    | c :: rest => if c = '\n' then skipSpace rest else skipComment rest

def Flags.skip (flags : Flags) (text : List Char) : List Char :=
  if flags.spaced then skipSpace text else text

/-- The next character that counts, for a look ahead inside a class. -/
def Flags.peek? (flags : Flags) (text : List Char) : Option Char :=
  if !flags.spaced then text.head?
  else
    match text.dropWhile Unicode.isWhiteSpace with
    | '#' :: rest => (rest.dropWhile Unicode.isWhiteSpace).head?
    | rest => rest.head?

/-- An expression with the depth to which its text is nested. -/
structure Node where
  regex : Regex
  depth : Nat

/-- A set of characters with the depth to which its text is nested. -/
structure SetNode where
  set : CharSet
  depth : Nat

/-- How deep a pattern may be nested. -/
def maxDepth : Nat := 250

/-- Case variants of a set. Without Unicode only ASCII letters have any. -/
def Flags.fold (flags : Flags) (s : CharSet) : CharSet :=
  if !flags.ignoreCase then s
  else if flags.unicode then Unicode.foldCase s
  else s.union (.unionAll ((CharSet.range 'a' 'z').ranges.flatMap fun (low, high) =>
    (List.range' low (high + 1 - low)).filterMap fun n =>
      let lower := Char.ofNat n
      let pair := (CharSet.single lower).union (.single lower.toUpper)
      if s.contains lower || s.contains lower.toUpper then some pair else none))

/-- Without Unicode a set may hold ASCII characters only. -/
def Flags.admits (flags : Flags) (s : CharSet) : Bool := flags.unicode || s.isAscii

/-- What a single item of a pattern or of a class can be. -/
inductive Primitive where
  /-- A character, and whether it was written as a byte. -/
  | literal (c : Char) (isByte : Bool)
  | set (s : CharSet)
  | look (l : Look)

/-- The class of a letter that follows a backslash. -/
def shorthand (flags : Flags) (letter : Char) : Option CharSet :=
  let choose (wide narrow : CharSet) := if flags.unicode then wide else narrow
  let digits := choose Unicode.decimalDigits (.range '0' '9')
  let blanks := choose Unicode.whiteSpace ⟨[(9, 13), (32, 32)]⟩
  let word := choose Unicode.wordCharacters
    (.unionAll [.range '0' '9', .range 'A' 'Z', .range 'a' 'z', .single '_'])
  match letter with
  | 'd' => some digits
  | 's' => some blanks
  | 'w' => some word
  | 'D' => some digits.complement
  | 'S' => some blanks.complement
  | 'W' => some word.complement
  | _ => none

/-- The classes that are named between colons. -/
def namedClass? (name : List Char) : Option CharSet :=
  let letters : List CharSet := [.range 'A' 'Z', .range 'a' 'z']
  match String.ofList name with
  | "alnum" => some (.unionAll (.range '0' '9' :: letters))
  | "alpha" => some (.unionAll letters)
  | "ascii" => some ⟨[(0, 127)]⟩
  | "blank" => some ⟨[(9, 9), (32, 32)]⟩
  | "cntrl" => some ⟨[(0, 31), (127, 127)]⟩
  | "digit" => some (.range '0' '9')
  | "graph" => some (.range '!' '~')
  | "lower" => some (.range 'a' 'z')
  | "print" => some (.range ' ' '~')
  | "punct" => some ⟨[(33, 47), (58, 64), (91, 96), (123, 126)]⟩
  | "space" => some ⟨[(9, 13), (32, 32)]⟩
  | "upper" => some (.range 'A' 'Z')
  | "word" => some (.unionAll (.single '_' :: .range '0' '9' :: letters))
  | "xdigit" => some (.unionAll [.range '0' '9', .range 'A' 'F', .range 'a' 'f'])
  | _ => none

/-- The character with the code point that hexadecimal digits give. -/
def ofHex? (digits : List Nat) : Option Char :=
  let n := digits.foldl (fun n d => 16 * n + d) 0
  if h : n.isValidChar then some (Char.ofNatAux n h) else none

/-- A given number of hexadecimal digits. -/
def readFixedHex (flags : Flags) : Nat → List Char → Option (List Nat × List Char)
  | 0, text => some ([], text)
  | n + 1, c :: rest => do
    let digit ← Digit.value? c
    let (digits, rest) ← readFixedHex flags n (flags.skip rest)
    some (digit :: digits, rest)
  | _ + 1, [] => none

/-- Hexadecimal digits up to a closing brace. -/
def readBracedHex (flags : Flags) : Nat → List Char → Option (List Nat × List Char)
  | 0, _ => none
  | fuel + 1, text =>
    match flags.skip text with
    | '\x7d' :: rest => some ([], flags.skip rest)
    | c :: rest => do
      let digit ← Digit.value? c
      let (digits, rest) ← readBracedHex flags fuel rest
      some (digit :: digits, rest)
    | [] => none

/-- A character by its code point, after the letter that gives the number of digits. -/
def readHex (flags : Flags) (letter : Char) (text : List Char) :
    Option (Primitive × List Char) := do
  let (digits, isByte, rest) ← match flags.skip text with
    | '\x7b' :: rest => do
      let (digits, rest) ← readBracedHex flags (rest.length + 1) rest
      if digits.isEmpty then none else some (digits, false, rest)
    | text => do
      let count := if letter = 'x' then 2 else if letter = 'u' then 4 else 8
      let (digits, rest) ← readFixedHex flags count text
      some (digits, letter = 'x', rest)
  let c ← ofHex? digits
  some (.literal c (isByte && c.toNat < 256), rest)

/-- The name of a property up to a closing brace, without what is skipped. -/
def readPropertyName (flags : Flags) : Nat → List Char → Option (List Char × List Char)
  | 0, _ => none
  | fuel + 1, text =>
    match flags.skip text with
    | '\x7d' :: rest => some ([], rest)
    | c :: rest => do
      let (name, rest) ← readPropertyName flags fuel rest
      some (c :: name, rest)
    | [] => none

/-- A property name that may be given a value, and whether the value is excluded. -/
def splitProperty (name : List Char) : List Char × Option (List Char × Bool) :=
  let rec unequal : List Char → Option (List Char × List Char)
    | '!' :: '=' :: value => some ([], value)
    | c :: rest => (unequal rest).map fun (property, value) => (c :: property, value)
    | [] => none
  let cut (mark : Char) : List Char × Option (List Char × Bool) :=
    (name.takeWhile (· ≠ mark), some ((name.dropWhile (· ≠ mark)).drop 1, false))
  match unequal name with
  | some (property, value) => (property, some (value, true))
  | none =>
    if name.contains ':' then cut ':'
    else if name.contains '=' then cut '='
    else (name, none)

/-- A class of characters by a property, after `p` or `P`. -/
def readProperty (flags : Flags) (negated : Bool) (text : List Char) :
    Option (CharSet × List Char) := do
  let (name, rest) ← match flags.skip text with
    | '\x7b' :: rest => readPropertyName flags (rest.length + 1) rest
    | c :: rest => if c = '\\' then none else some ([c], flags.skip rest)
    | [] => none
  if !flags.unicode then none
  else
    let isSingle := (flags.skip text).head? ≠ some '\x7b'
    let (set, excluded) ← match if isSingle then (name, none) else splitProperty name with
      | (property, none) => (propertySet? property).map fun s => (s, false)
      | (property, some (value, excluded)) =>
        (propertyValueSet? property value).map fun s => (s, excluded)
    let folded := flags.fold set
    some (if negated != excluded then folded.complement else folded, rest)

/-- Characters that a backslash makes stand for themselves: all of ASCII but letters, digits and
the angle brackets. -/
def isEscapable (c : Char) : Bool := c.toNat < 128 && !c.isAlphanum && c ≠ '<' && c ≠ '>'

/-- The kind of word edge that a name in braces may give. The result is none where the text is no
pattern, and keeps the text where the brace opens something else. -/
def readWordEdge (flags : Flags) (text : List Char) : Option (Look × List Char) :=
  let plain : Look := .wordEdge flags.unicode
  let isNameChar (c : Char) : Bool := c.isAlpha || c = '-'
  match text with
  | '\x7b' :: rest =>
    match flags.skip rest with
    | [] => none
    | c :: more =>
      if !isNameChar c then some (plain, text)
      else do
        let (name, rest) ← readName isNameChar (more.length + 2) (c :: more)
        match String.ofList name with
        | "start" => some (.wordStart flags.unicode, rest)
        | "end" => some (.wordEnd flags.unicode, rest)
        | "start-half" => some (.noWordBefore flags.unicode, rest)
        | "end-half" => some (.noWordAfter flags.unicode, rest)
        | _ => none
  | _ => some (plain, text)
where
  readName (isNameChar : Char → Bool) : Nat → List Char → Option (List Char × List Char)
    | 0, _ => none
    | fuel + 1, text =>
      match text with
      | '\x7d' :: rest => some ([], rest)
      | c :: rest =>
        if isNameChar c then
          (readName isNameChar fuel (flags.skip rest)).map fun (name, rest) => (c :: name, rest)
        else none
      | [] => none

/-- What follows a backslash. -/
def readEscape (flags : Flags) : List Char → Option (Primitive × List Char)
  | [] => none
  | c :: rest =>
    if c = 'x' ∨ c = 'u' ∨ c = 'U' then readHex flags c rest
    else if c = 'p' ∨ c = 'P' then
      (readProperty flags (c = 'P') rest).map fun (s, rest) => (.set s, rest)
    else
      match shorthand flags c with
      | some s => if flags.admits s then some (.set s, rest) else none
      | none =>
        if isEscapable c then some (.literal c false, rest)
        else
          match c with
          | 'a' => some (.literal '\x07' false, rest)
          | 'f' => some (.literal '\x0c' false, rest)
          | 't' => some (.literal '\t' false, rest)
          | 'n' => some (.literal '\n' false, rest)
          | 'r' => some (.literal '\r' false, rest)
          | 'v' => some (.literal '\x0b' false, rest)
          | 'A' => some (.look .textStart, rest)
          | 'z' => some (.look .textEnd, rest)
          | 'b' => (readWordEdge flags rest).map fun (l, rest) => (.look l, rest)
          | 'B' => some (.look (.noWordEdge flags.unicode), rest)
          | '<' => some (.look (.wordStart flags.unicode), rest)
          | '>' => some (.look (.wordEnd flags.unicode), rest)
          | _ => none

/-- One item of a class that is not a class itself. -/
def readSetItem (flags : Flags) : List Char → Option (Primitive × List Char)
  | [] => none
  | '\\' :: rest => readEscape flags rest
  | c :: rest => some (.literal c false, rest)

/-- The code point of a character in a class. -/
def setCodePoint? (flags : Flags) : Primitive → Option Nat
  | .literal c _ => if flags.unicode || c.toNat < 128 then some c.toNat else none
  | _ => none

/-- The set of an item of a class. -/
def itemSet? (flags : Flags) : Primitive → Option CharSet
  | .set s => some s
  | .look _ => none
  | p => (setCodePoint? flags p).map fun n => ⟨[(n, n)]⟩

/-- One item of a class, or a range between two characters. -/
def readSetRange (flags : Flags) (text : List Char) : Option (CharSet × List Char) := do
  let (first, rest) ← readSetItem flags text
  match flags.skip rest with
  | [] => none
  | '-' :: more =>
    let ahead := flags.peek? more
    if ahead = some ']' ∨ ahead = some '-' then
      (itemSet? flags first).map fun s => (s, '-' :: more)
    else
      match flags.skip more with
      | [] => none
      | more =>
        let (second, rest) ← readSetItem flags more
        let low ← setCodePoint? flags first
        let high ← setCodePoint? flags second
        if low ≤ high then some (⟨[(low, high)]⟩, rest) else none
  | rest => (itemSet? flags first).map fun s => (s, rest)

/-- A circumflex in front of what a class holds says that this is excluded. -/
def takeCircumflex : List Char → Bool × List Char
  | '^' :: rest => (true, rest)
  | text => (false, text)

/-- A class named between colons and brackets, if the text begins with one. -/
def readNamedClass? (flags : Flags) : List Char → Option (CharSet × List Char)
  | '[' :: ':' :: rest =>
    let (negated, rest) := takeCircumflex rest
    let name := rest.takeWhile (· ≠ ':')
    match rest.dropWhile (· ≠ ':') with
    | ':' :: ']' :: rest =>
      (namedClass? name).map fun s =>
        let folded := flags.fold s
        (if negated then folded.complement else folded, rest)
    | _ => none
  | _ => none

inductive SetOperation where
  | intersection
  | difference
  | symmetricDifference

def SetOperation.apply : SetOperation → CharSet → CharSet → CharSet
  | intersection => .inter
  | difference => .diff
  | symmetricDifference => .symmDiff

/-- The items of a class that are written side by side. -/
def joinItems (items : List SetNode) : SetNode :=
  match items with
  | [item] => item
  | items =>
    { set := .unionAll (items.map SetNode.set)
      depth := (if items.isEmpty then 0 else 1) + (items.map SetNode.depth).foldl max 0 }

/-- Carry out the operation that waits for its right side. -/
def applyPending (flags : Flags) (pending : Option (SetOperation × SetNode)) (right : SetNode) :
    SetNode :=
  match pending with
  | none => right
  | some (operation, left) =>
    { set := operation.apply (flags.fold left.set) (flags.fold right.set)
      depth := 1 + max left.depth right.depth }

/-- The start of a class after its bracket: whether it is negated, and the hyphens or the closing
bracket that stand for themselves there. -/
def openSet (flags : Flags) (text : List Char) : Bool × List SetNode × List Char :=
  let (negated, text) := takeCircumflex (flags.skip text)
  let text := if negated then flags.skip text else text
  let (hyphens, text) := takeHyphens (text.length + 1) text
  match hyphens, text with
  | [], ']' :: rest => (negated, [⟨.single ']', 0⟩], flags.skip rest)
  | hyphens, text => (negated, hyphens, text)
where
  takeHyphens : Nat → List Char → List SetNode × List Char
    | fuel + 1, '-' :: rest =>
      let (hyphens, rest) := takeHyphens fuel (flags.skip rest)
      (⟨.single '-', 0⟩ :: hyphens, rest)
    | _, text => ([], text)

/-- A class after its closing bracket. -/
def closeSet (flags : Flags) (negated : Bool) (node : SetNode) : Option SetNode :=
  let folded := flags.fold node.set
  let set := if negated then folded.complement else folded
  if flags.admits set then some ⟨set, 1 + node.depth⟩ else none

/-- The rest of a class, through its closing bracket. -/
def readSet (flags : Flags) : Nat → Option (SetOperation × SetNode) → List SetNode → List Char →
    Option (SetNode × List Char)
  | 0, _, _, _ => none
  | fuel + 1, pending, items, text =>
    let operate (operation : SetOperation) (rest : List Char) :=
      readSet flags fuel (some (operation, applyPending flags pending (joinItems items))) [] rest
    match flags.skip text with
    | [] => none
    | ']' :: rest => some (applyPending flags pending (joinItems items), rest)
    | '&' :: '&' :: rest => operate .intersection rest
    | '-' :: '-' :: rest => operate .difference rest
    | '~' :: '~' :: rest => operate .symmetricDifference rest
    | '[' :: rest =>
      match readNamedClass? flags ('[' :: rest) with
      | some (s, rest) =>
        if flags.admits s then readSet flags fuel pending (items ++ [⟨s, 0⟩]) rest else none
      | none => do
        let (negated, first, rest) := openSet flags rest
        let (inner, rest) ← readSet flags fuel none first rest
        let closed ← closeSet flags negated inner
        readSet flags fuel pending (items ++ [closed]) rest
    | text => do
      let (s, rest) ← readSetRange flags text
      readSet flags fuel pending (items ++ [⟨s, 0⟩]) rest

/-- The expression of an item outside a class. -/
def primitiveRegex? (flags : Flags) : Primitive → Option Regex
  | .set s => some (.ofSet s)
  | .look l => some (.look l)
  | .literal c isByte =>
    if !flags.unicode && 128 ≤ c.toNat then (if isByte then none else some (.literal [c]))
    else some (.ofSet (flags.fold (.single c)))

/-- The expression of a period, where some characters end lines. -/
def dot? (flags : Flags) : Option Regex :=
  if !flags.unicode then none
  else if flags.dotAll then some (.set .all)
  else if flags.anyLineEnd then some (.set (CharSet.complement ⟨[(10, 10), (13, 13)]⟩))
  else some (.set (CharSet.single '\n').complement)

/-- Expressions side by side. A flag written among them counts as a part without an expression. -/
def concatenate (parts : List (Option Node)) : Node :=
  match parts with
  | [] => ⟨.empty, 0⟩
  | [some node] => node
  | [none] => ⟨.empty, 0⟩
  | parts =>
    { regex := .concat (parts.filterMap fun part => part.map Node.regex)
      depth := 1 + (parts.map fun part => (part.map Node.depth).getD 0).foldl max 0 }

/-- Expressions of which one is to match. -/
def alternatives (first : Node) (others : List Node) : Node :=
  match others with
  | [] => first
  | others =>
    { regex := .alternation (first.regex :: others.map Node.regex)
      depth := 1 + (others.map Node.depth).foldl max first.depth }

/-- A decimal number in a repetition, with blanks around it. -/
def readCount (flags : Flags) (text : List Char) : Option Nat × List Char :=
  let (digits, rest) := go (text.length + 1) (text.dropWhile Unicode.isWhiteSpace)
  (if digits.isEmpty then none else some (Decimal.ofDigits digits), blanks (rest.length + 1) rest)
where
  go : Nat → List Char → List Char × List Char
    | fuel + 1, c :: rest =>
      if Decimal.isDigit c then
        let (digits, rest) := go fuel (flags.skip rest)
        (c :: digits, rest)
      else ([], c :: rest)
    | _, text => ([], text)
  blanks : Nat → List Char → List Char
    | fuel + 1, c :: rest =>
      if Unicode.isWhiteSpace c then blanks fuel (flags.skip rest) else c :: rest
    | _, text => text

/-- A number as a bound of a repetition. Bounds are 32-bit words. -/
def bound? (n : Option Nat) : Option Nat := n.filter (· < UInt32.size)

/-- The upper bound of a repetition, through the closing brace. -/
def readUpper (flags : Flags) (low : Nat) (text : List Char) :
    Option (Nat × Option Nat × List Char) := do
  let (high, rest) := readCount flags text
  let high ← bound? high
  match rest with
  | '\x7d' :: rest => if low ≤ high then some (low, some high, rest) else none
  | _ => none

/-- The bounds of a counted repetition after its opening brace. -/
def readBounds (flags : Flags) (text : List Char) : Option (Nat × Option Nat × List Char) := do
  let (low, rest) := readCount flags (flags.skip text)
  match rest with
  | ',' :: rest =>
    let low ← bound? low
    match flags.skip rest with
    | '\x7d' :: rest => some (low, none, rest)
    | rest => readUpper flags low rest
  | '\x7d' :: rest => (bound? low).map fun low => (low, some low, rest)
  | _ => none

/-- Set or clear the flag of a letter. -/
def Flags.assign (flags : Flags) (letter : Char) (on : Bool) : Option Flags :=
  match letter with
  | 'i' => some { flags with ignoreCase := on }
  | 'm' => some { flags with multiLine := on }
  | 's' => some { flags with dotAll := on }
  | 'u' => some { flags with unicode := on }
  | 'R' => some { flags with anyLineEnd := on }
  | 'x' => some { flags with spaced := on }
  | 'U' => some flags
  | _ => none

/-- Flags up to the colon or the parenthesis that ends them. A letter or the minus sign may stand
once, and something must follow the minus sign. -/
def readFlags : Flags → List Char → List Char → Option (Flags × Char × List Char)
  | flags, seen, c :: rest =>
    if c = ':' ∨ c = ')' then
      if seen.head? = some '-' then none
      else if c = ')' ∧ seen.isEmpty then none
      else some (flags, c, rest)
    else if seen.contains c then none
    else if c = '-' then readFlags flags (c :: seen) rest
    else do
      let flags ← flags.assign c (!seen.contains '-')
      readFlags flags (c :: seen) rest
  | _, _, [] => none

/-- The name of a group, through the angle bracket that closes it. -/
def readGroupName (text : List Char) : Option (List Char × List Char) :=
  let name := text.takeWhile (· ≠ '>')
  let isStart (c : Char) := c = '_' || Unicode.isLetter c
  let isPart (c : Char) :=
    c = '_' || c = '.' || c = '[' || c = ']' || Unicode.isAlphanumeric c
  match text.dropWhile (· ≠ '>') with
  | '>' :: rest =>
    match name with
    | c :: more => if isStart c && more.all isPart then some (name, rest) else none
    | [] => none
  | _ => none

/-- What an opening parenthesis begins. -/
inductive Opening where
  | flags (flags : Flags) (rest : List Char)
  /-- A group, and whether it remembers what it matches. Only such a group may have a name. -/
  | group (flags : Flags) (remembers : Bool) (name : Option (List Char)) (rest : List Char)

/-- What follows the question mark behind an opening parenthesis: a name, or flags. Conditions on
what is farther away begin like neither. -/
def readQualifier (flags : Flags) (text : List Char) : Option Opening :=
  match text with
  | 'P' :: '<' :: rest
  | '<' :: rest => (readGroupName rest).map fun (name, rest) => .group flags true (some name) rest
  | rest => do
    let (inner, last, rest) ← readFlags flags [] rest
    if last = ')' then some (.flags inner rest) else some (.group inner false none rest)

/-- Read what follows an opening parenthesis. -/
def readOpening (flags : Flags) (text : List Char) : Option Opening :=
  match flags.skip text with
  | '?' :: rest => readQualifier flags rest
  | rest => some (.group flags true none rest)

/-- What is left to read, with the flags in force and the names of groups so far. -/
structure ReaderState where
  text : List Char
  flags : Flags
  names : List (List Char)

/-- A repetition of the latest part. There must be one, and it may not be a flag. -/
def repeatLast (low : Nat) (high : Option Nat) : List (Option Node) → Option (List (Option Node))
  | some node :: earlier => some (some ⟨.repetition node.regex low high, 1 + node.depth⟩ :: earlier)
  | _ => none

/-- A question mark right after a repetition makes it reluctant, which changes no answer. -/
def skipReluctant : List Char → List Char
  | '?' :: rest => rest
  | text => text

/-- The alternatives up to the end of the text or to a closing parenthesis, which is left to read.
The parts of the current alternative come latest first, and so do the finished alternatives. -/
def readAlternatives : Nat → List Node → List (Option Node) → ReaderState →
    Option (Node × ReaderState)
  | 0, _, _, _ => none
  | fuel + 1, done, parts, state =>
    let flags := state.flags
    let finish : Node :=
      match (concatenate parts.reverse :: done).reverse with
      | first :: others => alternatives first others
      | [] => ⟨.empty, 0⟩
    let add (node : Node) (rest : List Char) :=
      readAlternatives fuel done (some node :: parts) { state with text := rest }
    let again (low : Nat) (high : Option Nat) (rest : List Char) := do
      let parts ← repeatLast low high parts
      readAlternatives fuel done parts { state with text := skipReluctant rest }
    let text := flags.skip state.text
    match text with
    | [] => some (finish, { state with text })
    | ')' :: _ => some (finish, { state with text })
    | '|' :: rest =>
      readAlternatives fuel (concatenate parts.reverse :: done) [] { state with text := rest }
    | '(' :: rest => do
      match ← readOpening flags rest with
      | .flags flags rest =>
        readAlternatives fuel done (none :: parts) { state with text := rest, flags }
      | .group inner remembers name rest =>
        let names ← match name with
          | some name => if state.names.contains name then none else some (name :: state.names)
          | none => some state.names
        let (node, after) ← readAlternatives fuel [] [] { text := rest, flags := inner, names }
        match after.text with
        | ')' :: rest =>
          let regex := if remembers then .group node.regex else node.regex
          readAlternatives fuel done (some ⟨regex, 1 + node.depth⟩ :: parts)
            { text := rest, flags, names := after.names }
        | _ => none
    | '[' :: rest => do
      let (negated, first, rest) := openSet flags rest
      let (inner, rest) ← readSet flags (rest.length + 1) none first rest
      let node ← closeSet flags negated inner
      add ⟨.ofSet node.set, node.depth⟩ rest
    | '?' :: rest => again 0 (some 1) rest
    | '*' :: rest => again 0 none rest
    | '+' :: rest => again 1 none rest
    | '\x7b' :: rest => do
      let (low, high, rest) ← readBounds flags rest
      again low high (flags.skip rest)
    | '.' :: rest => do
      let regex ← dot? flags
      add ⟨regex, 0⟩ rest
    | '^' :: rest =>
      add ⟨.look (if !flags.multiLine then .textStart
        else if flags.anyLineEnd then .anyLineStart else .lineStart), 0⟩ rest
    | '$' :: rest =>
      add ⟨.look (if !flags.multiLine then .textEnd
        else if flags.anyLineEnd then .anyLineEnd else .lineEnd), 0⟩ rest
    | '\\' :: rest => do
      let (primitive, rest) ← readEscape flags rest
      let regex ← primitiveRegex? flags primitive
      add ⟨regex, 0⟩ rest
    | c :: rest => do
      let regex ← primitiveRegex? flags (.literal c false)
      add ⟨regex, 0⟩ rest

/-- Read a whole pattern. -/
def Regex.read? (pattern : List Char) : Option Regex := do
  let (node, state) ← readAlternatives (pattern.length + 1) [] []
    { text := pattern, flags := {}, names := [] }
  if state.text.isEmpty && node.depth ≤ maxDepth then some node.regex else none

end Hyperslab.Pattern
