import Hyperslab.Yaml.Node

/-!
YAML texts of one document: the directives and marks around its node, and the nodes that its aliases
stand for.
-/

namespace Hyperslab

/-- A document, which is one node with all that is inside of it. -/
structure Yaml where
  root : Yaml.Node

namespace Yaml

/-! ### Aliases -/

mutual

/-- The nodes that have been given numbers, in the order in which they begin. -/
def Node.numbered : Node → List (Nat × Node)
  | scalar .. => []
  | sequence items => numberedItems items
  | mapping entries => numberedEntries entries
  | anchored number node => (number, node) :: node.numbered
  | .alias _ => []

def Node.numberedItems : List Node → List (Nat × Node)
  | [] => []
  | item :: rest => item.numbered ++ numberedItems rest

def Node.numberedEntries : List (Node × Node) → List (Nat × Node)
  | [] => []
  | (key, value) :: rest => key.numbered ++ value.numbered ++ numberedEntries rest

end

/-- A node without its number. For an alias this is the last node with its number, wherever it
stands in the document. -/
def follow (y : Yaml) : Node → Node
  | .alias number => (y.root.numbered.reverse.lookup number).getD .empty
  | .anchored _ node => node
  | node => node

/-! ### Documents -/

/-- The short names that need no directive. -/
def standardHandles : List (List Char × List Char) :=
  [("!".toList, "!".toList), ("!!".toList, "tag:yaml.org,2002:".toList)]

/-- The short names that directives give, and the tokens behind them. There may be one version, and
every short name may be given once. -/
def handles? (versioned : Bool) (handles : List (List Char × List Char)) :
    List Token → Option (List (List Char × List Char) × List Token)
  | .version major minor :: rest =>
    if !versioned && major = 1 && (minor = 1 || minor = 2) then handles? true handles rest else none
  | .handle name start :: rest =>
    if handles.any (·.1 = name) then none
    else handles? versioned (handles ++ [(name, start)]) rest
  | rest => some (handles ++ standardHandles, rest)

/-- Does a node come next, behind the mark at the start of a document? -/
def startsNode : List Token → Bool
  | [] | .version .. :: _ | .handle .. :: _ | .documentStart :: _ | .documentEnd :: _ => false
  | _ => true

/-- Does the document begin without directives and without a mark? -/
def startsBare : List Token → Bool
  | [] | .version .. :: _ | .handle .. :: _ | .documentStart :: _ => false
  | _ => true

/-- The document that tokens describe. Only its closing mark may follow it. -/
def ofTokens? (tokens : List Token) : Option Yaml := do
  let read handles tokens : Option (Node × Node.Progress) :=
    (Node.read handles .block (4 * tokens.length + 4)).run ⟨tokens, []⟩
  let (root, rest) ←
    if tokens.isEmpty then some (.empty, [])
    else if startsBare tokens then
      (read standardHandles tokens).map fun (node, p) => (node, p.tokens)
    else
      match ← handles? false [] tokens with
      | (handles, .documentStart :: rest) =>
        if startsNode rest then (read handles rest).map fun (node, p) => (node, p.tokens)
        else some (.empty, rest)
      | _ => none
  if rest.all (· = .documentEnd) then some ⟨root⟩ else none

/-- Read a text that holds at most one document. -/
def read? (text : String) : Option Yaml := do ofTokens? (← Token.ofText? text.toList)

end Yaml

end Hyperslab
