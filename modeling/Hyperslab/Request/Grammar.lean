import Hyperslab.Decimal.Literal
import Hyperslab.Name
import Hyperslab.Parser
import Hyperslab.Request

/-!
The grammar of requests.

    request  = (resize ';')* (clause (';' clause)* ';'?)?
    resize   = name '=' slice
    clause   = selector ('|' filter)?
    selector = name slice* ('.' selector | '.'? fields)?
    fields   = '{' clause ((';' | ',') clause)* ';'? '}'
    slice    = '[' (index (':' index?)? | index ':' index? ':' index?)? ']'
    filter   = conjunct (',' conjunct)*
    conjunct = '!' conjunct | '(' filter ')' | operand op operand (op operand)?

Blanks may stand around every token. A rule that refers to itself takes the parser for the nested
text as an argument; a text cannot be nested deeper than it is long.
-/

namespace Hyperslab

open Hyperslab.Parser

namespace Name

/-- The longest name at the start of a text, whether a backslash stands in it, and the rest. -/
def split : List Char → List Char × Bool × List Char
  | '\\' :: c :: rest =>
    let (name, _, rest) := split rest
    (c :: name, true, rest)
  | c :: rest =>
    if isPlain c then
      let (name, escaped, rest) := split rest
      (c :: name, escaped, rest)
    else ([], false, c :: rest)
  | [] => ([], false, [])

/-- A name, and whether a backslash stands in it. -/
def spelled : Parser (String × Bool) := fun input =>
  match split input with
  | ([], _) => .error ⟨false, input, []⟩
  | (name, escaped, rest) => .ok ((.ofList name, escaped), rest)

def parse : Parser String := return (← spelled).1

end Name

namespace Slice

/-- An index that fits a word. -/
def indexParser : Parser UInt64 := fun input =>
  match someWhile Decimal.isDigit input with
  | .ok (digits, rest) =>
    if Decimal.ofDigits digits < UInt64.size then .ok (.ofNat (Decimal.ofDigits digits), rest)
    else .error ⟨false, input, []⟩
  | .error stop => .error stop

/-- What stands between the brackets. Two numbers are the first and the last index, three have the
stride between them. -/
def bounds : Parser Slice := do
  let first ← token indexParser
  let more ← maybe do
    let _ ← char ':'
    let second ← maybe (token indexParser)
    let third ← maybe do
      let _ ← char ':'
      maybe (token indexParser)
    return (second, third)
  return match more with
  | none => index first
  | some (last, none) => range first 1 last
  | some (stride, some last) => range first (stride.getD 1) last

def parse : Parser Slice := do
  let _ ← token (char '[')
  cut do
    let slice ← maybe bounds
    let _ ← expecting .closingBracket (token (char ']'))
    return slice.getD whole

end Slice

namespace Operator

/-- The spellings of the operators, with longer ones before those that they begin with. -/
def spellings : List (List Char × Operator) :=
  [(['<', '='], le), (['>', '='], ge), (['=', '='], eq), (['!', '='], ne), (['~', '='], like),
    (['<'], lt), (['>'], gt), (['='], eq)]

def parse : Parser Operator := fun input =>
  match spellings.find? fun (spelling, _) => spelling.isPrefixOf input with
  | some (spelling, op) => .ok (op, input.drop spelling.length)
  | none => .error ⟨false, input, []⟩

end Operator

namespace Value

/-- The rest of a string after its first quote, up to the quote that ends it. -/
def unquote : List Char → Option (List Char × List Char)
  | '"' :: rest => some ([], rest)
  | '\\' :: c :: rest =>
    let meant := if c = 'n' then '\n' else if c = 't' then '\t' else c
    (unquote rest).map fun (s, rest) => (meant :: s, rest)
  | '\\' :: [] => none
  | c :: rest => (unquote rest).map fun (s, rest) => (c :: s, rest)
  | [] => none

def stringParser : Parser String := do
  let start ← get
  let _ ← char '"'
  match unquote (← get) with
  | some (s, rest) =>
    set rest
    return .ofList s
  | none => refuse start .closingQuote

def exponentParser : Parser Int := do
  let _ ← oneOf ['e', 'E']
  let sign ← maybe (oneOf ['+', '-'])
  let digits ← someWhile Decimal.isDigit
  let n : Int := Decimal.ofDigits digits
  return if sign = some '-' then -n else n

/-- A number with a point or an exponent. The point may end it. -/
def floatParser : Parser Float := do
  let start ← get
  let sign ← maybe (char '-')
  let whole ← someWhile Decimal.isDigit
  let pointed : Parser (List Char × Int) := do
    let _ ← char '.'
    let fraction ← charsWhile Decimal.isDigit
    let exponent ← maybe exponentParser
    return (fraction, exponent.getD 0)
  let bare : Parser (List Char × Int) := return ([], ← exponentParser)
  let (fraction, exponent) ← either pointed bare
  let x := Decimal.Literal.toFloat ⟨sign.isSome, whole, fraction, exponent⟩
  if Decimal.isFinite x then return x else refuse start .finiteFloat

/-- An integer that fits a signed word. -/
def integerParser : Parser Int64 := do
  let start ← get
  let sign ← maybe (char '-')
  let digits ← someWhile Decimal.isDigit
  let magnitude : Int := Decimal.ofDigits digits
  let n := if sign.isSome then -magnitude else magnitude
  if Int64.minValue.toInt ≤ n ∧ n ≤ Int64.maxValue.toInt then return .ofInt n
  else refuse start .wordInteger

end Value

namespace Expr

/-- A name, or one of the two truth values if it is spelled without a backslash. -/
def nameParser : Parser Expr := do
  let (name, escaped) ← Name.spelled
  return if escaped then .field name
    else if name = "true" then .constant (.bool true)
    else if name = "false" then .constant (.bool false)
    else .field name

def operandParser : Parser Expr :=
  either (return .constant (.str (← Value.stringParser)))
    (either (return .constant (.float (← Value.floatParser)))
      (either (return .constant (.int (← Value.integerParser))) nameParser))

/-- A comparison, or a range: the operand in the middle is compared with those on both sides. -/
def comparisonParser : Parser Expr := do
  let lhs ← token operandParser
  let op ← cut (expecting .comparison (token Operator.parse))
  let mid ← cut (token operandParser)
  let afterMid ← get
  let upper ← maybe do
    let op ← token Operator.parse
    return (op, ← cut (token operandParser))
  match upper with
  | none => return .compare op lhs mid
  | some (op', rhs) =>
    if op.isOrder && op'.isOrder then
      return .conj (.compare op lhs mid) (.compare op' mid rhs)
    else refuse afterMid .rangeComparison

/-- Conjuncts with commas between them, grouped from the left. -/
def filterWith (conjunct : Parser Expr) : Parser Expr := do
  let first ← conjunct
  let rest ← many do
    let _ ← token (char ',')
    cut conjunct
  return rest.foldl .conj first

def conjunctWith (conjunct : Parser Expr) : Parser Expr :=
  let negation : Parser Expr := do
    let _ ← token (char '!')
    return .neg (← conjunct)
  let group : Parser Expr := do
    let _ ← token (char '(')
    let inner ← filterWith conjunct
    let _ ← cut (expecting .closingParenthesis (token (char ')')))
    return inner
  either negation (either group comparisonParser)

/-- A conjunct that is nested at most `n` deep. -/
def conjunctUpTo : Nat → Parser Expr
  | 0 => stop
  | n + 1 => conjunctWith (conjunctUpTo n)

def filterParser : Parser Expr := fun input =>
  filterWith (conjunctUpTo (input.length + 1)) input

/-- Read a whole text as a filter. -/
def parse (text : String) : Except SyntaxFault Expr :=
  run (token filterParser) text.toList

end Expr

namespace Request

def resizeParser : Parser Resize := do
  let name ← Name.parse
  let _ ← token (char '=')
  return ⟨name, ← cut Slice.parse⟩

def clauseWith (selector : Parser Selector) : Parser Clause := do
  let target ← selector
  let filter ← maybe do
    let _ ← token (char '|')
    cut Expr.filterParser
  return .mk target filter

def fieldsWith (selector : Parser Selector) : Parser (List Clause) := do
  let _ ← token (char '\x7b')
  let fields ← cut do
    let fields ← separated (token (oneOf [';', ','])) (clauseWith selector)
    let _ ← maybe (token (char ';'))
    return fields
  let _ ← cut (expecting .closingBrace (token (char '\x7d')))
  return fields

def selectorWith (selector : Parser Selector) : Parser Selector := do
  let name ← token Name.parse
  let slices ← many Slice.parse
  match ← maybe (fieldsWith selector) with
  | some fields => return .mk name slices none fields
  | none =>
    match ← maybe (token (char '.')) with
    | none => return .mk name slices none []
    | some _ =>
      match ← maybe (fieldsWith selector) with
      | some fields => return .mk name slices none fields
      | none => return .mk name slices (some (← cut (expecting .fieldName selector))) []

/-- A selector that is nested at most `n` deep. -/
def selectorUpTo : Nat → Parser Selector
  | 0 => stop
  | n + 1 => selectorWith (selectorUpTo n)

def clauseParser : Parser Clause := fun input =>
  clauseWith (selectorUpTo (input.length + 1)) input

def parser : Parser Request := do
  let resizes ← many do
    let resize ← token resizeParser
    let _ ← token (char ';')
    return resize
  let clauses ← maybe (separated (token (char ';')) clauseParser)
  let _ ← maybe (token (char ';'))
  skipBlanks
  return ⟨resizes, clauses.getD []⟩

/-- Read a whole text as a request. The empty text is the empty request. -/
def parse (text : String) : Except SyntaxFault Request := run parser text.toList

end Request

end Hyperslab
