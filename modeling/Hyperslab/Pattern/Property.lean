import Hyperslab.Unicode.Age
import Hyperslab.Unicode.BinaryProperty
import Hyperslab.Unicode.Category
import Hyperslab.Unicode.ScriptExtension
import Hyperslab.Unicode.Segmentation

/-!
Names of character properties in patterns. Case, blanks, hyphens, underscores and a leading `is`
do not count. Known are the general categories, the scripts with and without their extensions, the
properties that a character has or has not, the versions that assigned the characters, and the
classes by which texts are cut.
-/

namespace Hyperslab.Pattern

/-- The name of a property without what does not count in it. -/
def normalizeName (name : List Char) : List Char :=
  let (start, hasPrefix) := match name with
    | a :: b :: rest => if a.toLower = 'i' ∧ b.toLower = 's' then (rest, true) else (name, false)
    | _ => (name, false)
  let counts (c : Char) : Bool := c.toNat < 128 && c ≠ ' ' && c ≠ '_' && c ≠ '-'
  let kept := (start.filter counts).map Char.toLower
  if hasPrefix && kept = ['c'] then ['i', 's', 'c'] else kept

/-- Codes of the general categories with their names. The category of surrogates is not among them,
because no character is one. -/
def categoryNames : List (String × List String) := [
  ("L", ["l", "letter"]), ("LC", ["lc", "casedletter"]), ("Lu", ["lu", "uppercaseletter"]),
  ("Ll", ["ll", "lowercaseletter"]), ("Lt", ["lt", "titlecaseletter"]),
  ("Lm", ["lm", "modifierletter"]), ("Lo", ["lo", "otherletter"]),
  ("M", ["m", "mark", "combiningmark"]), ("Mn", ["mn", "nonspacingmark"]),
  ("Mc", ["mc", "spacingmark"]), ("Me", ["me", "enclosingmark"]),
  ("N", ["n", "number"]), ("Nd", ["nd", "decimalnumber", "digit"]),
  ("Nl", ["nl", "letternumber"]), ("No", ["no", "othernumber"]),
  ("P", ["p", "punctuation", "punct"]), ("Pc", ["pc", "connectorpunctuation"]),
  ("Pd", ["pd", "dashpunctuation"]), ("Ps", ["ps", "openpunctuation"]),
  ("Pe", ["pe", "closepunctuation"]), ("Pi", ["pi", "initialpunctuation"]),
  ("Pf", ["pf", "finalpunctuation"]), ("Po", ["po", "otherpunctuation"]),
  ("S", ["s", "symbol"]), ("Sm", ["sm", "mathsymbol"]), ("Sc", ["sc", "currencysymbol"]),
  ("Sk", ["sk", "modifiersymbol"]), ("So", ["so", "othersymbol"]),
  ("Z", ["z", "separator"]), ("Zs", ["zs", "spaceseparator"]), ("Zl", ["zl", "lineseparator"]),
  ("Zp", ["zp", "paragraphseparator"]),
  ("C", ["c", "other"]), ("Cc", ["cc", "control", "cntrl"]), ("Cf", ["cf", "format"]),
  ("Co", ["co", "privateuse"]), ("Cn", ["cn", "unassigned"])]

/-- The set of a general category, by its normalized name. -/
def categorySet? (name : List Char) : Option CharSet :=
  let text := String.ofList name
  if text = "any" then some .all
  else if text = "assigned" then some (Unicode.category "Cn").complement
  else if text = "ascii" then some ⟨[(0, 127)]⟩
  else
    (categoryNames.find? fun (_, names) => names.contains text).map fun (code, _) =>
      if code = "LC" then
        .unionAll [Unicode.category "Lu", Unicode.category "Ll", Unicode.category "Lt"]
      else Unicode.category code

/-- The code of a script, by its normalized code or name. -/
def scriptCode? (name : List Char) : Option String :=
  let wanted := if name = "qaac".toList then "copt".toList
    else if name = "qaai".toList then "zinh".toList else name
  (Unicode.scriptNames.find? fun (code, long) =>
    normalizeName code.toList = wanted || normalizeName long.toList = wanted).map
      fun (code, _) => code

/-- The set of a script, by its normalized code or name. -/
def scriptSet? (name : List Char) : Option CharSet := (scriptCode? name).map Unicode.script

/-- The set that a property with a single name stands for. -/
def propertySet? (name : List Char) : Option CharSet :=
  let name := normalizeName name
  (Unicode.binaryProperty? (.ofList name)).orElse fun _ =>
    (categorySet? name).orElse fun _ => scriptSet? name

/-- The set that the value of a named property stands for. -/
def propertyValueSet? (property value : List Char) : Option CharSet :=
  let value := normalizeName value
  match String.ofList (normalizeName property) with
  | "generalcategory" | "gc" => categorySet? value
  | "script" | "sc" => scriptSet? value
  | "scriptextensions" | "scx" => (scriptCode? value).map Unicode.scriptExtension
  | "age" => Unicode.assignedBy? (.ofList value)
  | "graphemeclusterbreak" | "gcb" => Unicode.graphemeBreak? (.ofList value)
  | "wordbreak" | "wb" => Unicode.wordBreak? (.ofList value)
  | "sentencebreak" | "sb" => Unicode.sentenceBreak? (.ofList value)
  | _ => none

end Hyperslab.Pattern
