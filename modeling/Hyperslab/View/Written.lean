import Hyperslab.View.Answer

/-!
Writing a finished view as a request. A compound that is selected whole is written as its name
alone, and any other with the list of its selected fields. The text is normal: the same view is
always written in the same way.
-/

namespace Hyperslab.View

/-- Is everything in a variable selected without constrained slices or filters below it? -/
def isWhole (view : View) (v : VarId) : Bool :=
  (view.schema.var v).fields.all fun field =>
    match view.segment? field with
    | none => false
    | some segment =>
      segment.filter.isNone && segment.slices.all (!·.constrained) &&
        if v.index < field.index ∧ field.index < view.schema.vars.size then view.isWhole field
        else false
termination_by view.schema.vars.size - v.index
decreasing_by omega

/-- The selected compounds that are whole. -/
def wholeCompounds (view : View) : List VarId :=
  view.vars.filter fun v => (view.schema.var v).isCompound && view.isWhole v

/-- Slices are written out if one of them is constrained. -/
def slicesChars (slices : List Slice) : List Char :=
  if slices.any (·.constrained) then slices.flatMap Slice.chars else []

def filterChars (filter : Option Filter) : List Char :=
  match filter with
  | some filter => '|' :: filter.chars
  | none => []

/-- A top-level variable is written with its qualified name, and a field with its own. -/
def nameChars (view : View) (v : VarId) : List Char :=
  let var := view.schema.var v
  Name.escape (if var.isTopLevel then view.schema.varName v else var.name).toList

/-- The clause for a selected variable. Nothing is written for any other. -/
def clauseChars (view : View) (v : VarId) : List Char :=
  match view.segment? v with
  | none => []
  | some segment =>
    let fields :=
      if (view.schema.var v).isCompound && !view.isWhole v then
        ((view.schema.var v).fields.filter view.selects).map fun field =>
          if v.index < field.index ∧ field.index < view.schema.vars.size then
            view.clauseChars field
          else []
      else []
    view.nameChars v ++ slicesChars segment.slices ++
      (if fields.isEmpty then [] else '\x7b' :: [';'].intercalate fields ++ ['\x7d']) ++
      filterChars segment.filter
termination_by view.schema.vars.size - v.index
decreasing_by omega

/-- The resized dimensions as a request writes them. -/
def resizeChars (view : View) : List (List Char) :=
  view.resizes.filterMap fun (d, slice) =>
    (view.schema.dimName? d).map fun name => Name.escape name.toList ++ '=' :: slice.chars

/-- The request for this view. -/
def requestChars (view : View) : List Char :=
  [';'].intercalate (view.resizeChars ++
    (view.vars.filter fun v => (view.schema.var v).isTopLevel).map view.clauseChars)

/-- The request for this view, once it is finished. -/
def requestText (view : View) : Except Fault String :=
  view.whenFinished .requestText (.ok (.ofList view.requestChars))

/-- What stands for a byte in the query of a location. -/
def queryByte (byte : UInt8) : List Char :=
  let c := Char.ofNat byte.toNat
  if byte < 128 && (c.isAlphanum || c ∈ ['*', '-', '.', '_']) then [c]
  else if c = ' ' then ['+']
  else
    let digit (n : Nat) := (Nat.digitChar n).toUpper
    ['%', digit (byte.toNat / 16), digit (byte.toNat % 16)]

/-- The request for this view, encoded for the query of a location. -/
def queryText (view : View) : Except Fault String := do
  let text ← view.requestText
  return .ofList (text.toUTF8.toList.flatMap queryByte)

end Hyperslab.View
