import Hyperslab.Schema

/-!
The builder of a schema. Its calls change one schema in place and return the number of the new node.
A call that fails leaves what it has written until then, and the next call goes on from there.
-/

namespace Hyperslab

/-- A change of a schema in place, which can fail half way. -/
abbrev Builder := ExceptT Fault (StateM Schema)

namespace Builder

def group (parent : GroupId) (name : String) : Builder GroupId := do
  modify fun s => { s with groups := s.groups.push ⟨name, some parent⟩ }
  return ⟨(← get).groups.size - 1⟩

/-- Declare a shared dimension. -/
def dimension (group : GroupId) (name : String) (size : UInt64) : Builder DimId := do
  modify fun s => { s with dims := s.dims.push ⟨size, some (group, name)⟩ }
  return ⟨(← get).dims.size - 1⟩

/-- Declare a dimension for a single variable. -/
def anonymousDimension (size : UInt64) : Builder DimId := do
  modify fun s => { s with dims := s.dims.push (.anonymous size) }
  return ⟨(← get).dims.size - 1⟩

def enumeration (group : GroupId) (name : String) (base : AtomicType)
    (constants : List (String × Int64)) : Builder EnumId := do
  modify fun s => { s with enums := s.enums.push ⟨name, base, constants, group⟩ }
  return ⟨(← get).enums.size - 1⟩

/-- Enter the next variable among the fields of what is to hold it, which has to be a compound. -/
def enterField (holder : VarId) (name : String) : Builder Unit := do
  let v := (← get).var holder
  if v.isCompound then modify (·.addField holder) else throw (.notCompound v.name name)

/-- Declare a variable. A field is entered with its compound before it is added. -/
def var (owner : Owner) (name : String) (kind : VarKind) (dims : List DimId) : Builder VarId := do
  let id : VarId := ⟨(← get).vars.size⟩
  match owner with
  | .group _ => pure ()
  | .compound c => enterField c name
  modify (·.pushVar owner name kind dims)
  return id

/-- The call that adds one entry. -/
def call : Declaration → Builder Node
  | .group parent name => return .group (← group parent name)
  | .dimension g name size => return .dimension (← dimension g name size)
  | .anonymous size => return .dimension (← anonymousDimension size)
  | .enumeration g name base constants => return .enumeration (← enumeration g name base constants)
  | .var owner name kind dims => return .var (← var owner name kind dims)

/-- One call after the other, also behind calls that fail. -/
def callAll (entries : List Declaration) : StateM Schema (List (Except Fault Node)) :=
  entries.mapM fun entry => (call entry).run

/-- What the calls make of a schema with nothing but its root. -/
def built (name : String) (entries : List Declaration) : Schema :=
  ((callAll entries).run (.empty name)).2

end Builder

end Hyperslab
