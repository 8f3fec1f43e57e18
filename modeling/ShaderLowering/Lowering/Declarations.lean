import ShaderLowering.Stream.ShaderModule
import ShaderLowering.TypeGraph.Depth
import ShaderLowering.Vocabulary.Execution

/-!
# What a shader declares

The instructions of a shader are read once, in order, and what they declare is
gathered in `ShaderLowering.Declarations`: a node for every type, the names and
decorations attached to ids, the values of constants, and the entry points, globals
and functions that are to be emitted at the end.

Input and output variables are not globals. They become members of one struct, the
*interface struct*, which comes into being with the first of them; the position of a
variable among them is the position of its member.

Names, constants and types are kept with the latest first, so that looking one up
finds the one that counts.
-/

namespace ShaderLowering

/-- What a decoration is attached to. -/
inductive DecorationTarget
  /-- A variable, a type or any other thing with an id. -/
  | object (id : Id)
  /-- A member of a struct type. -/
  | member (struct : Id) (index : Nat)
  deriving DecidableEq, Repr

/-- The size of a workgroup along its three axes. -/
structure LocalSize where
  /-- Along the first axis. -/
  x : Word
  /-- Along the second axis. -/
  y : Word
  /-- Along the third axis. -/
  z : Word
  deriving DecidableEq, Repr

/-- An entry point as a shader declares it. -/
structure ShaderEntryPoint where
  /-- Its name. -/
  name : String
  /-- The stage it runs in. -/
  model : ExecutionModel
  /-- The function it runs. -/
  function : Id
  /-- The variables it says it uses. -/
  interface : List Id
  /-- The modes recorded for its function since it was declared. -/
  modes : List ExecutionMode := []
  /-- The workgroup size last given to its function since it was declared. -/
  localSize : Option LocalSize := none
  /-- The place of its declaration. -/
  start : Nat
  deriving DecidableEq, Repr

/-- A variable that becomes a global. -/
structure ShaderGlobal where
  /-- Its id. -/
  id : Id
  /-- The type of pointers to it. -/
  pointerType : NodeId
  /-- Where it is stored. -/
  storage : StorageClass
  /-- The place of its declaration. -/
  start : Nat
  deriving DecidableEq, Repr

/-- A function as a shader declares it. -/
structure ShaderFunction where
  /-- Its id. -/
  id : Id
  /-- Its type. -/
  type : NodeId
  /-- The hints it is declared with. -/
  control : FunctionControl
  /-- The ids of its parameters. -/
  parameters : List Id := []
  /-- The place of its declaration. -/
  start : Nat
  deriving DecidableEq, Repr

/-- A variable that becomes a member of the interface struct. -/
structure InterfaceVariable where
  /-- Its id. -/
  id : Id
  /-- The place of its declaration. -/
  start : Nat
  deriving DecidableEq, Repr

/-- The interface struct and the variables behind its members, in member order. -/
structure Interface where
  /-- The struct. -/
  node : NodeId
  /-- The variable behind each member. -/
  members : List InterfaceVariable := []
  deriving DecidableEq, Repr

/-- The name of the interface struct. -/
def interfaceStructName : String := "io_struct"

/-- The member that a variable became; of two variables with one id, the later. -/
def Interface.memberOf? (f : Interface) (id : Id) : Option Nat :=
  (f.members.zipIdx.reverse.find? fun v => v.1.id == id).map Prod.snd

/-- What the instructions read so far have declared. -/
structure Declarations where
  /-- The types of the target, and the nodes of the types declared. -/
  workspace : Workspace
  /-- The node of each type. -/
  types : List (Id × NodeId) := []
  /-- The names given to ids. -/
  names : List (Id × String) := []
  /-- The decorations, in the order they were given. -/
  decorations : List (DecorationTarget × Decoration) := []
  /-- The widths of the scalar types. -/
  scalarWidths : List (Id × Nat) := []
  /-- The values of the constants. -/
  constants : List (Id × Nat) := []
  /-- The entry points, in the order they were declared. -/
  entryPoints : List ShaderEntryPoint := []
  /-- The globals, in the order they were declared. -/
  globals : List ShaderGlobal := []
  /-- The functions that have ended, in the order they were declared. -/
  functions : List ShaderFunction := []
  /-- The function being read. -/
  openFunction : Option ShaderFunction := none
  /-- The interface, once there is an input or output variable. -/
  interface : Option Interface := none
  deriving DecidableEq, Repr

namespace Declarations

/-- The decorations of a target, in the order they were given. -/
def decorationsOf (d : Declarations) (target : DecorationTarget) : List Decoration :=
  d.decorations.filterMap fun entry => if entry.1 = target then some entry.2 else none

/-- The name given to an id, or else the one made for it. -/
def nameOf (d : Declarations) (id : Id) (made : String) : String :=
  (d.names.lookup id).getD made

/-- The node of a type that an instruction refers to. -/
def typeNode (d : Declarations) (i : Instruction) (id : Id) : Except Diagnostic NodeId :=
  match d.types.lookup id with
  | some node => .ok node
  | none => .error (i.diagnose (.notAType id))

/-- Declares the type that an instruction defines, which no other may have done. -/
def define (d : Declarations) (i : Instruction) (id : Id) (added : NodeId × Workspace) :
    Except Diagnostic Declarations :=
  match d.types.lookup id with
  | some _ => .error (i.diagnose (.alreadyDefined id))
  | none => .ok { d with workspace := added.2, types := (id, added.1) :: d.types }

/-- Declares a type that refers to no node. -/
def defineSimple (d : Declarations) (i : Instruction) (id : Id) (made : Ty × TypeArena) :
    Except Diagnostic Declarations :=
  d.define i id ({ d.workspace with arena := made.2 }.add (.simple made.1 i.start))

/-- Declares a type that is formed from others. -/
def defineFormed (d : Declarations) (i : Instruction) (id : Id) (former : Former) :
    Except Diagnostic Declarations :=
  d.define i id (d.workspace.add (.formed former i.start))

end Declarations

end ShaderLowering
