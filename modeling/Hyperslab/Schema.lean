import Hyperslab.Fault

/-!
Dataset schemas. A schema is a tree of groups that hold dimensions, enumerations and variables;
structures and sequences are variables that hold further variables as fields. Nodes are numbered in
the order of their declaration, so that a node comes after the one that holds it. Qualified names
are read off the path from the root.
-/

namespace Hyperslab

structure GroupId where
  index : Nat
  deriving DecidableEq, Repr

structure DimId where
  index : Nat
  deriving DecidableEq, Repr

structure EnumId where
  index : Nat
  deriving DecidableEq, Repr

structure VarId where
  index : Nat
  deriving DecidableEq, Repr

/-- Any node of a schema. -/
inductive Node where
  | group (g : GroupId)
  | dimension (d : DimId)
  | enumeration (e : EnumId)
  | var (v : VarId)
  deriving DecidableEq, Repr

inductive AtomicType where
  | char
  | int8
  | uint8
  | int16
  | uint16
  | int32
  | uint32
  | int64
  | uint64
  | float32
  | float64
  | string
  | url
  | blob
  | enumerated (e : EnumId)
  deriving DecidableEq, Repr

namespace AtomicType

def isInteger : AtomicType → Bool
  | int8 | uint8 | int16 | uint16 | int32 | uint32 | int64 | uint64 => true
  | _ => false

def isFloat : AtomicType → Bool
  | float32 | float64 => true
  | _ => false

def enumeration? : AtomicType → Option EnumId
  | enumerated e => some e
  | _ => none

end AtomicType

inductive VarKind where
  | atomic (type : AtomicType)
  | record
  | sequence
  deriving DecidableEq, Repr

def VarKind.isCompound : VarKind → Bool
  | atomic _ => false
  | record | sequence => true

/-- What holds a variable: a group, or a compound variable that it is a field of. -/
inductive Owner where
  | group (g : GroupId)
  | compound (v : VarId)
  deriving DecidableEq, Repr

structure Group where
  name : String
  parent : Option GroupId
  deriving DecidableEq, Repr, Inhabited

/-- A dimension. A shared one has a group and a name there; an anonymous one has neither, and
belongs to the variables that are declared with it. -/
structure Dimension where
  size : UInt64
  home : Option (GroupId × String)
  deriving DecidableEq, Repr, Inhabited

namespace Dimension

def anonymous (size : UInt64) : Dimension := ⟨size, none⟩

def isShared (d : Dimension) : Bool := d.home.isSome

/-- The same dimension with another size. -/
def resized (d : Dimension) (size : UInt64) : Dimension := { d with size }

end Dimension

structure Enumeration where
  name : String
  base : AtomicType
  constants : List (String × Int64)
  group : GroupId
  deriving DecidableEq

instance : Inhabited Enumeration := ⟨⟨"", .char, [], ⟨0⟩⟩⟩

structure Variable where
  name : String
  kind : VarKind
  dims : List DimId
  fields : List VarId
  owner : Owner
  deriving DecidableEq, Repr

instance : Inhabited Variable := ⟨⟨"", .atomic .char, [], [], .group ⟨0⟩⟩⟩

namespace Variable

def rank (v : Variable) : Nat := v.dims.length

def isTopLevel (v : Variable) : Bool :=
  match v.owner with
  | .group _ => true
  | .compound _ => false

def isCompound (v : Variable) : Bool := v.kind.isCompound

def isSequence (v : Variable) : Bool := v.kind = .sequence

end Variable

/-- A schema as numbered lists of nodes. Group zero is the root. -/
structure Schema where
  name : String
  groups : Array Group
  dims : Array Dimension
  enums : Array Enumeration
  vars : Array Variable

/-- One entry of a schema. Nodes are referred to by their numbers. -/
inductive Declaration where
  | group (parent : GroupId) (name : String)
  | dimension (group : GroupId) (name : String) (size : UInt64)
  | anonymous (size : UInt64)
  | enumeration (group : GroupId) (name : String) (base : AtomicType)
      (constants : List (String × Int64))
  | var (owner : Owner) (name : String) (kind : VarKind) (dims : List DimId)

namespace Schema

/-- A schema with nothing but its root. -/
def empty (name : String) : Schema := ⟨name, #[⟨"", none⟩], #[], #[], #[]⟩

def root : GroupId := ⟨0⟩

def group (s : Schema) (g : GroupId) : Group := s.groups.getD g.index default

def dimension (s : Schema) (d : DimId) : Dimension := s.dims.getD d.index default

def enumeration (s : Schema) (e : EnumId) : Enumeration := s.enums.getD e.index default

def var (s : Schema) (v : VarId) : Variable := s.vars.getD v.index default

def groupIds (s : Schema) : List GroupId := (List.range s.groups.size).map GroupId.mk

def dimIds (s : Schema) : List DimId := (List.range s.dims.size).map DimId.mk

def enumIds (s : Schema) : List EnumId := (List.range s.enums.size).map EnumId.mk

/-- All variables with all fields, as they were declared. -/
def varIds (s : Schema) : List VarId := (List.range s.vars.size).map VarId.mk

/-- The variables that groups hold. -/
def topLevel (s : Schema) : List VarId := s.varIds.filter fun v => (s.var v).isTopLevel

/-- Add a variable behind all others. -/
def pushVar (s : Schema) (owner : Owner) (name : String) (kind : VarKind) (dims : List DimId) :
    Schema :=
  { s with vars := s.vars.push ⟨name, kind, dims, [], owner⟩ }

/-- Enter the next variable to be declared among the fields of a compound. -/
def addField (s : Schema) (compound : VarId) : Schema :=
  let v := s.var compound
  { s with
    vars := s.vars.setIfInBounds compound.index { v with fields := v.fields ++ [⟨s.vars.size⟩] } }

/-- Add one entry. Only structures and sequences can hold variables. -/
def declare (s : Schema) : Declaration → Except Fault Schema
  | .group parent name => .ok { s with groups := s.groups.push ⟨name, some parent⟩ }
  | .dimension group name size => .ok { s with dims := s.dims.push ⟨size, some (group, name)⟩ }
  | .anonymous size => .ok { s with dims := s.dims.push (.anonymous size) }
  | .enumeration group name base constants =>
    .ok { s with enums := s.enums.push ⟨name, base, constants, group⟩ }
  | .var (.group g) name kind dims => .ok (s.pushVar (.group g) name kind dims)
  | .var (.compound v) name kind dims =>
    if (s.var v).isCompound then .ok ((s.addField v).pushVar (.compound v) name kind dims)
    else .error (.notCompound (s.var v).name name)

/-- Add entries in order. A refused entry is reported with its place in the list. -/
def declareAll (s : Schema) (entries : List Declaration) : Except (Nat × Fault) Schema :=
  go s 0 entries
where
  go (s : Schema) (place : Nat) : List Declaration → Except (Nat × Fault) Schema
    | [] => .ok s
    | entry :: rest =>
      match s.declare entry with
      | .ok s' => go s' (place + 1) rest
      | .error fault => .error (place, fault)

/-- The groups from the root down to `g`. -/
def rootPath (s : Schema) (g : GroupId) : List GroupId :=
  match (s.group g).parent with
  | some p => if p.index < g.index then s.rootPath p ++ [g] else [g]
  | none => [g]
termination_by g.index

/-- The qualified name of a group. It begins and ends with a slash. -/
def groupName (s : Schema) (g : GroupId) : String :=
  (s.rootPath g).tail.foldl (fun name h => name ++ (s.group h).name ++ "/") "/"

/-- The qualified name of a variable: the group's name in front, and points between a compound and
its fields. -/
def varName (s : Schema) (v : VarId) : String :=
  match (s.var v).owner with
  | .group g => s.groupName g ++ (s.var v).name
  | .compound c =>
    if c.index < v.index then s.varName c ++ "." ++ (s.var v).name else (s.var v).name
termination_by v.index

/-- The qualified name of a shared dimension. -/
def dimName? (s : Schema) (d : DimId) : Option String :=
  (s.dimension d).home.map fun (g, name) => s.groupName g ++ name

/-- The group that holds the variable, or the outermost compound around it. -/
def owningGroup (s : Schema) (v : VarId) : GroupId :=
  match (s.var v).owner with
  | .group g => g
  | .compound c => if c.index < v.index then s.owningGroup c else root
termination_by v.index

/-- A name in a request may leave out the leading slash. -/
def absolute (name : String) : String :=
  if name.toList.head? = some '/' then name else "/" ++ name

/-- The top-level variables with the given qualified name. -/
def findVars (s : Schema) (name : String) : List VarId :=
  s.topLevel.filter fun v => s.varName v = absolute name

/-- The first shared dimension with the given qualified name. -/
def findDimension? (s : Schema) (name : String) : Option DimId :=
  s.dimIds.find? fun d => s.dimName? d = some (absolute name)

/-- The first field with the given name. -/
def field? (s : Schema) (compound : VarId) (name : String) : Option VarId :=
  (s.var compound).fields.find? fun v => (s.var v).name = name

end Schema

end Hyperslab
