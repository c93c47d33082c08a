import Hyperslab.Digit
import Hyperslab.Limits
import Hyperslab.Yaml

/-!
Settings: limits that are read from a YAML mapping. What is not mentioned keeps its default, and
keys without a meaning are passed over.
-/

namespace Hyperslab

/-- Why settings cannot be used. -/
inductive SettingsFault where
  | unreadableText
  | missingFile (path : String)
  | unreadableFile (path : String)
  | noPatternBytes
  | noFilterDepth
  | noElements
  deriving DecidableEq, Repr

def SettingsFault.message : SettingsFault → String
  | unreadableText => "Failed to parse constraint configuration"
  | missingFile path => "Failed to read " ++ path
  | unreadableFile path => "Failed to parse " ++ path
  | noPatternBytes => "regex_size_limit must be positive"
  | noFilterDepth => "max_filter_depth must be positive"
  | noElements => "max_projection_elements must be positive when set"

/-- Where settings come from. A file may turn out not to be there. -/
inductive SettingsSource where
  | defaults
  | text (content : String)
  | file (path : String) (content : Option String)

namespace Yaml

/-- An unsigned number, if the characters write one: hexadecimal, octal and binary numbers have
their marks in front, and a decimal number has no zeros there. -/
def natural? (text : List Char) : Option Nat :=
  let unsigned := match text with
    | '+' :: rest => rest
    | rest => rest
  match unsigned with
  | '0' :: 'x' :: digits => Digit.number? 16 digits
  | '0' :: 'o' :: digits => Digit.number? 8 digits
  | '0' :: 'b' :: digits => Digit.number? 2 digits
  | ['0'] => some 0
  | '0' :: _ => none
  | digits => Digit.number? 10 digits

def intTag : List Char := "tag:yaml.org,2002:int".toList

def nullTag : List Char := "tag:yaml.org,2002:null".toList

/-- Is the scalar written as numbers are: plain, or as a literal block with the tag of integers? -/
def isNumeric (style : ScalarStyle) (tag? : Option (List Char)) : Bool :=
  style = .plain || (style = .literal && tag? = some intTag)

/-- An unsigned word. -/
def word? : Node → Option UInt64
  | .scalar style tag? text => do
    let n ← if isNumeric style tag? then natural? text else none
    if n < UInt64.size then some (.ofNat n) else none
  | _ => none

/-- The words that stand for nothing. -/
def isNull (text : List Char) : Bool := String.ofList text ∈ ["null", "Null", "NULL", "~"]

/-- An unsigned word, or nothing. With the tag of nothing only its words will do. -/
def wordOrNull? : Node → Option (Option UInt64)
  | .scalar .plain none text =>
    if text.isEmpty || isNull text then some none
    else (word? (.scalar .plain none text)).map some
  | .scalar .plain (some tag) text =>
    if tag = nullTag then if isNull text then some none else none
    else (word? (.scalar .plain (some tag) text)).map some
  | node => (word? node).map some

/-- The entries of a mapping whose keys are scalars. An empty document has none. -/
def entries? (y : Yaml) : Option (List (String × Node)) :=
  match y.follow y.root with
  | .mapping entries => entries.mapM fun (key, value) =>
      match y.follow key with
      | .scalar _ _ text => some (.ofList text, y.follow value)
      | _ => none
  | .scalar .plain _ [] => some []
  | _ => none

end Yaml

namespace Limits

/-- What an entry says, if it is there. No key may be there twice. -/
def setting? {α : Type} (entries : List (String × Yaml.Node)) (key : String) (default : α)
    (value : Yaml.Node → Option α) : Option α :=
  match entries.filter (·.1 = key) with
  | [] => some default
  | [(_, node)] => value node
  | _ => none

/-- The limits that a text sets. -/
def read? (text : String) : Option Limits := do
  let entries ← (← Yaml.read? text).entries?
  let standard : Limits := {}
  return {
    patternBytes := ← setting? entries "regex_size_limit" standard.patternBytes
      fun node => (Yaml.word? node).map UInt64.toNat
    filterDepth := ← setting? entries "max_filter_depth" standard.filterDepth
      fun node => (Yaml.word? node).map UInt64.toNat
    elements? := ← setting? entries "max_projection_elements" standard.elements? Yaml.wordOrNull? }

/-- Every limit has to let something through. -/
def check (limits : Limits) : Except SettingsFault Limits :=
  if limits.patternBytes = 0 then .error .noPatternBytes
  else if limits.filterDepth = 0 then .error .noFilterDepth
  else if limits.elements? = some 0 then .error .noElements
  else .ok limits

/-- The limits from a source. -/
def load : SettingsSource → Except SettingsFault Limits
  | .defaults => .ok {}
  | .text content =>
    match read? content with
    | some limits => limits.check
    | none => .error .unreadableText
  | .file path none => .error (.missingFile path)
  | .file path (some content) =>
    match read? content with
    | some limits => limits.check
    | none => .error (.unreadableFile path)

/-- The defaults with a limit on the elements. -/
def withElements (limit : UInt64) : Limits := { elements? := some limit }

end Limits

end Hyperslab
