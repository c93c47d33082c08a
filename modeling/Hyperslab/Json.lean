import Hyperslab.Digit
import Hyperslab.Json.Numeral

/-!
JSON texts and the values that they are read as. Objects keep all their fields in the order of the
text, and numerals are kept as they are written.
-/

namespace Hyperslab

inductive Json where
  | null
  | bool (b : Bool)
  | number (n : Json.Numeral)
  | string (s : String)
  | array (items : List Json)
  | object (fields : List (String × Json))

namespace Json

/-- A reader takes a text to a value and the rest of the text, if the text begins as it should. -/
abbrev Reader (α : Type) := StateT (List Char) Option α

def isBlank (c : Char) : Bool := c = ' ' || c = '\t' || c = '\n' || c = '\r'

def skipBlanks : Reader Unit := fun text => some ((), text.dropWhile isBlank)

def next? : Reader (Option Char) := fun text => some (text.head?, text)

/-- Read the given characters. -/
def expect (cs : List Char) : Reader Unit := fun text =>
  if cs.isPrefixOf text then some ((), text.drop cs.length) else none

def fail {α : Type} : Reader α := fun _ => none

/-- One or more digits. -/
def digits : Reader (List Char) := fun text =>
  match text.span Decimal.isDigit with
  | ([], _) => none
  | (digits, rest) => some (digits, rest)

/-- Digits that do not begin with a zero, except for the zero alone. -/
def wholeDigits : Reader (List Char) := do
  let whole ← digits
  if 1 < whole.length && whole.head? = some '0' then fail else return whole

/-- Read what the given characters introduce, if one of them is there. -/
def introduced {α : Type} (cs : List Char) (p : Reader α) : Reader (Option α) := fun text =>
  match text with
  | c :: rest => if c ∈ cs then (p rest).map fun (a, rest) => (some a, rest) else some (none, text)
  | [] => some (none, text)

def exponent : Reader (Bool × List Char) := fun text =>
  match text with
  | '+' :: rest => (digits rest).map fun (ds, rest) => ((false, ds), rest)
  | '-' :: rest => (digits rest).map fun (ds, rest) => ((true, ds), rest)
  | rest => (digits rest).map fun (ds, rest) => ((false, ds), rest)

def numeral : Reader Numeral := do
  let sign ← introduced ['-'] (pure ())
  let whole ← wholeDigits
  let fraction ← introduced ['.'] digits
  let exponent ← introduced ['e', 'E'] exponent
  return ⟨sign.isSome, whole, fraction, exponent⟩

/-- The character for a backslash and a letter. -/
def escape? : Char → Option Char
  | '"' => some '"'
  | '\\' => some '\\'
  | '/' => some '/'
  | 'b' => some '\x08'
  | 'f' => some '\x0c'
  | 'n' => some '\n'
  | 'r' => some '\r'
  | 't' => some '\t'
  | _ => none

/-- The rest of a string behind its first quote. A character beyond the first plane is written as a
pair of surrogates, and a surrogate stands for nothing by itself. -/
def unquote : List Char → Option (List Char × List Char)
  | '"' :: rest => some ([], rest)
  | '\\' :: 'u' :: a :: b :: c :: d :: rest => do
    let n ← Digit.number? 16 [a, b, c, d]
    if 0xD800 ≤ n ∧ n < 0xDC00 then
      match rest with
      | '\\' :: 'u' :: e :: f :: g :: h :: rest =>
        let low ← Digit.number? 16 [e, f, g, h]
        if 0xDC00 ≤ low ∧ low < 0xE000 then
          let (s, rest) ← unquote rest
          return (Char.ofNat (0x10000 + (n - 0xD800) * 0x400 + (low - 0xDC00)) :: s, rest)
        else none
      | _ => none
    else if 0xDC00 ≤ n ∧ n < 0xE000 then none
    else
      let (s, rest) ← unquote rest
      return (Char.ofNat n :: s, rest)
  | '\\' :: c :: rest => do
    let meant ← escape? c
    let (s, rest) ← unquote rest
    return (meant :: s, rest)
  | c :: rest => do
    if c < ' ' then none
    else
      let (s, rest) ← unquote rest
      return (c :: s, rest)
  | [] => none

def quoted : Reader String := do
  expect ['"']
  let (s, rest) ← unquote (← get)
  set rest
  return .ofList s

/-- The items of a container up to `close`, with commas between them. At most `n` are read. -/
def itemsUpTo {α : Type} (close : Char) (item : Reader α) : Nat → Reader (List α)
  | 0 => fail
  | n + 1 => do
    let first ← item
    skipBlanks
    match ← next? with
    | some ',' =>
      expect [',']
      skipBlanks
      return first :: (← itemsUpTo close item n)
    | _ =>
      expect [close]
      return [first]

/-- The items of a container behind the character that opens it. -/
def items {α : Type} (close : Char) (item : Reader α) : Reader (List α) := do
  skipBlanks
  if (← next?) = some close then
    expect [close]
    return []
  else itemsUpTo close item ((← get).length + 1)

def field (value : Reader Json) : Reader (String × Json) := do
  let name ← quoted
  skipBlanks
  expect [':']
  skipBlanks
  return (name, ← value)

/-- A value, with `nested` for the values inside of it. -/
def valueWith (nested : Option (Reader Json)) : Reader Json := do
  match ← next? with
  | some 'n' =>
    expect "null".toList
    return .null
  | some 't' =>
    expect "true".toList
    return .bool true
  | some 'f' =>
    expect "false".toList
    return .bool false
  | some '"' => return .string (← quoted)
  | some '[' =>
    match nested with
    | none => fail
    | some value =>
      expect ['[']
      return .array (← items ']' value)
  | some '\x7b' =>
    match nested with
    | none => fail
    | some value =>
      expect ['\x7b']
      return .object (← items '\x7d' (field value))
  | _ => return .number (← numeral)

/-- A value in which containers are nested at most `depth` deep. -/
def valueUpTo : Nat → Reader Json
  | 0 => valueWith none
  | depth + 1 => valueWith (some (valueUpTo depth))

/-- How deep containers may be nested. -/
def maxDepth : Nat := 127

/-- Read a whole text. -/
def read? (text : String) : Option Json :=
  match (do skipBlanks; let j ← valueUpTo maxDepth; skipBlanks; return j : Reader Json)
    text.toList with
  | some (j, []) => some j
  | _ => none

/-- A scalar. -/
def toValue? : Json → Option Value
  | bool b => some (.bool b)
  | number n => n.quantity?.map Quantity.toValue
  | string s => some (.str s)
  | _ => none

end Json

end Hyperslab
