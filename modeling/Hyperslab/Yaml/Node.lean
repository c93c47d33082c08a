import Hyperslab.Yaml.Token

/-!
The nodes of a YAML document, read from its tokens. A node may be given a name, and an alias stands
for a node by its name. Names are replaced by numbers: a name that is given again gets a new number,
which is the number of different names given before.
-/

namespace Hyperslab.Yaml

/-- What a document holds. A scalar has its tag, if it is written. -/
inductive Node where
  | scalar (style : ScalarStyle) (tag? : Option (List Char)) (text : List Char)
  | sequence (items : List Node)
  | mapping (entries : List (Node × Node))
  | anchored (number : Nat) (node : Node)
  | alias (number : Nat)

namespace Node

/-- What stands where nothing is written. -/
def empty : Node := scalar .plain none []

/-- What is left of the tokens, and the names given so far with their numbers. -/
structure Progress where
  tokens : List Token
  names : List (List Char × Nat)

/-- A reader takes tokens to a value, if they begin as they should. -/
abbrev Reader (α : Type) := StateT Progress Option α

def nextToken? : Reader (Option Token) := return (← get).tokens.head?

def skipToken : Reader Unit := modify fun p => { p with tokens := p.tokens.tail }

/-- Nothing, if one of these tokens comes next, else the node. -/
def orEmpty (stops : List Token) (node : Reader Node) : Reader Node := do
  if (← nextToken?).any (· ∈ stops) then return empty else node

/-- The name of a node, if it is given one. -/
def name? : Reader (Option (List Char)) := do
  match ← nextToken? with
  | some (.anchor name) => do
    skipToken
    return some name
  | _ => return none

/-- The tag of a node, if it has one. Its short name has to be one of `handles`. -/
def tag? (handles : List (List Char × List Char)) : Reader (Option (List Char)) := do
  match ← nextToken? with
  | some (.tag [] text) => do
    skipToken
    return some text
  | some (.tag handle text) => do
    skipToken
    return some ((← handles.lookup handle) ++ text)
  | _ => return none

/-- The name and the tag of a node, in either order. -/
def properties (handles : List (List Char × List Char)) :
    Reader (Option (List Char) × Option (List Char)) := do
  match ← name? with
  | some name => return (some name, ← tag? handles)
  | none =>
    match ← tag? handles with
    | some tag => return (← name?, some tag)
    | none => return (none, none)

/-- Give a name to the node that begins here. -/
def number (name : List Char) : Reader Nat := do
  let names := (← get).names
  modify fun p => { p with names := (name, names.length) :: names.filter (·.1 ≠ name) }
  return names.length

/-- The node that has been given a name. -/
def aliasOf (name : List Char) : Reader Node := do
  return .alias (← (← get).names.lookup name)

/-- Where a node stands: inside of a flow collection, where a block collection may begin, or where
in addition the items of a sequence may follow that is indented no further than what it belongs
to. -/
inductive Place where
  | flow
  | block
  | blockOrItem
  deriving DecidableEq

mutual

/-- A node, in at most `n` steps. Of a tag or a name alone an empty scalar is made. -/
def read (handles : List (List Char × List Char)) (place : Place) : Nat → Reader Node
  | 0 => failure
  | n + 1 => do
    if let some (.alias name) ← nextToken? then
      skipToken
      return ← aliasOf name
    let (name?, tag?) ← properties handles
    let named ← match name? with
      | some name => do
        let k ← number name
        pure (anchored k)
      | none => pure id
    match ← nextToken?, place with
    | some (.scalar style text), _ => do
      skipToken
      return named (scalar style (tag?.filter (· ≠ ['!'])) text)
    | some .flowSequenceStart, _ => do
      skipToken
      return named (sequence (← readFlowItems handles true n))
    | some .flowMappingStart, _ => do
      skipToken
      return named (mapping (← readFlowEntries handles true n))
    | some .item, .blockOrItem => return named (sequence (← readItems handles false n))
    | some .blockSequenceStart, .block | some .blockSequenceStart, .blockOrItem => do
      skipToken
      return named (sequence (← readItems handles true n))
    | some .blockMappingStart, .block | some .blockMappingStart, .blockOrItem => do
      skipToken
      return named (mapping (← readEntries handles n))
    | _, _ => if name?.isSome || tag?.isSome then return named (scalar .plain tag? []) else failure

/-- The items of a block sequence. The tokens tell its end if it is indented, else it ends where no
further item comes. -/
def readItems (handles : List (List Char × List Char)) (indented : Bool) : Nat → Reader (List Node)
  | 0 => failure
  | n + 1 => do
    match ← nextToken? with
    | some .item => do
      skipToken
      let stops := if indented then [.item, .blockEnd] else [.item, .key, .value, .blockEnd]
      let first ← orEmpty stops (read handles .block n)
      return first :: (← readItems handles indented n)
    | next =>
      if !indented then return []
      else if next = some .blockEnd then do
        skipToken
        return []
      else failure

/-- The entries of a block mapping. -/
def readEntries (handles : List (List Char × List Char)) : Nat → Reader (List (Node × Node))
  | 0 => failure
  | n + 1 => do
    match ← nextToken? with
    | some .key => do
      skipToken
      let part := orEmpty [.key, .value, .blockEnd] (read handles .blockOrItem n)
      let key ← part
      let value ←
        if (← nextToken?) = some .value then do
          skipToken
          part
        else pure empty
      return (key, value) :: (← readEntries handles n)
    | some .blockEnd => do
      skipToken
      return []
    | _ => failure

/-- The value in a flow collection that ends with the token `close`. -/
def readFlowValue (handles : List (List Char × List Char)) (close : Token) : Nat → Reader Node
  | 0 => failure
  | n + 1 => do
    if (← nextToken?) = some .value then do
      skipToken
      orEmpty [.comma, close] (read handles .flow n)
    else return empty

/-- The items of a flow sequence. An entry is a mapping by itself. Behind a question mark without a
key one token is passed over. -/
def readFlowItems (handles : List (List Char × List Char)) (first : Bool) :
    Nat → Reader (List Node)
  | 0 => failure
  | n + 1 => do
    if !first && (← nextToken?) ≠ some .flowSequenceEnd then
      if (← nextToken?) = some .comma then skipToken else failure
    match ← nextToken? with
    | some .flowSequenceEnd => do
      skipToken
      return []
    | some .key => do
      skipToken
      let key ←
        if (← nextToken?).any (· ∈ [.value, .comma, .flowSequenceEnd]) then do
          skipToken
          pure empty
        else read handles .flow n
      let value ← readFlowValue handles .flowSequenceEnd n
      return mapping [(key, value)] :: (← readFlowItems handles false n)
    | _ => do
      let item ← read handles .flow n
      return item :: (← readFlowItems handles false n)

/-- The entries of a flow mapping. A key alone has an empty value. -/
def readFlowEntries (handles : List (List Char × List Char)) (first : Bool) :
    Nat → Reader (List (Node × Node))
  | 0 => failure
  | n + 1 => do
    if !first && (← nextToken?) ≠ some .flowMappingEnd then
      if (← nextToken?) = some .comma then skipToken else failure
    match ← nextToken? with
    | some .flowMappingEnd => do
      skipToken
      return []
    | some .key => do
      skipToken
      let key ← orEmpty [.value, .comma, .flowMappingEnd] (read handles .flow n)
      let value ← readFlowValue handles .flowMappingEnd n
      return (key, value) :: (← readFlowEntries handles false n)
    | _ => do
      let key ← read handles .flow n
      return (key, empty) :: (← readFlowEntries handles false n)

end

end Node

end Hyperslab.Yaml
