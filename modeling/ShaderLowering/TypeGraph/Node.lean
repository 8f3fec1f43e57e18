import ShaderLowering.Diagnostic
import ShaderLowering.TypeGraph.Guard
import ShaderLowering.Vocabulary.Decoration

/-!
# Nodes of the type graph

A shader declares its types one after another, and each declaration becomes a node
that refers to other nodes. Only two kinds of node know their type of the target
from the start: a simple one, which refers to nothing, and a struct, whose opaque
type is made together with the node. The others – pointers, functions and arrays –
are *formed* from the types of other nodes, and are produced when somebody asks.

A pointer may be declared before its pointee is, and a struct may get members after
it was declared. These are the two ways in which nodes come to refer to one another
in circles.
-/

namespace ShaderLowering

/-- The number of a node: how many nodes were added before it. -/
structure NodeId where
  /-- The number. -/
  index : Nat
  deriving DecidableEq, Repr

/-- A member of a struct. -/
structure Member where
  /-- What is said about it. -/
  decorations : List Decoration
  /-- Its type. -/
  type : NodeId
  /-- Its place in the body of the struct's type, once the struct is laid out. -/
  bodyIndex : Option Nat := none
  deriving DecidableEq, Repr

/-- How a formed type is made from the types of other nodes. -/
inductive Former
  /-- A pointer; a forward declaration has no pointee yet. -/
  | pointer (pointee : Option NodeId) (storage : StorageClass)
  /-- A function. -/
  | function (result : NodeId) (args : List NodeId) (variadic : Bool)
  /-- An array; a count of zero leaves the length open. -/
  | array (element : NodeId) (count : Nat)
  deriving DecidableEq, Repr

/-- The members of a struct and how far its layout has got. -/
structure Layout where
  /-- The members, in the order they were added. -/
  members : List Member := []
  /-- The member last bound to each built-in role, latest binding first. -/
  slots : List (BuiltIn × Nat) := []
  /-- The struct's type has its body. -/
  complete : Bool := false
  /-- The struct was found among its own members. -/
  containsItself : Bool := false
  deriving DecidableEq, Repr

/-- What a node declares. -/
inductive Shape
  /-- A type that refers to no other node. -/
  | simple (type : Ty)
  /-- A type formed from those of other nodes, and the result once it was produced. -/
  | formed (former : Former) (made : Option Ty)
  /-- A struct and its type, which is opaque until the struct is laid out. -/
  | struct (type : Ty) (layout : Layout)
  deriving DecidableEq, Repr

/-- A node of the type graph. -/
structure Node where
  /-- The place in the stream where the node was declared. -/
  start : Nat := 0
  /-- How many productions of it are under way. -/
  guard : Guard := {}
  /-- What it declares. -/
  shape : Shape
  deriving DecidableEq, Repr

namespace Layout

/-- The layout with one more member. Each role the member is bound to becomes its. -/
def push (l : Layout) (m : Member) : Layout :=
  { l with
    members := l.members ++ [m]
    slots := m.decorations.foldl
      (fun slots d =>
        match d.builtInRole? with
        | some role => (role, l.members.length) :: slots
        | none => slots)
      l.slots }

/-- The layout of a struct with the given members. -/
def ofMembers (members : List Member) : Layout :=
  members.foldl push {}

/-- The member bound to a role. -/
def slot? (l : Layout) (role : BuiltIn) : Option Nat :=
  l.slots.lookup role

/-- The roles that have a member, by ascending number, each with its member. -/
def boundRoles (l : Layout) : List (BuiltIn × Nat) :=
  BuiltIn.all.filterMap fun role => (l.slot? role).map fun index => (role, index)

/-- The layout of a struct that was found among its own members. -/
def looped (l : Layout) : Layout :=
  { l with containsItself := true }

/-- The layout of a struct whose type has its body: every member has its place. -/
def laidOut (l : Layout) : Layout :=
  { l with
    members := l.members.mapIdx fun index m => { m with bodyIndex := some index }
    complete := true }

end Layout

namespace Node

/-- A node for a type that refers to no other. -/
def simple (type : Ty) (start : Nat) : Node :=
  { start, shape := .simple type }

/-- A node for a formed type. -/
def formed (former : Former) (start : Nat) : Node :=
  { start, shape := .formed former none }

/-- The layout of a struct node. -/
def layout? (n : Node) : Option Layout :=
  match n.shape with
  | .struct _ layout => some layout
  | _ => none

/-- The former of a node for a formed type. -/
def former? (n : Node) : Option Former :=
  match n.shape with
  | .formed former _ => some former
  | _ => none

/-- The node is a pointer. -/
def isPointer (n : Node) : Bool :=
  match n.former? with
  | some (.pointer _ _) => true
  | _ => false

/-- The pointee of a pointer node that has one. -/
def pointee? (n : Node) : Option NodeId :=
  match n.former? with
  | some (.pointer pointee _) => pointee
  | _ => none

/-- The node is a function. -/
def isFunction (n : Node) : Bool :=
  match n.former? with
  | some (.function _ _ _) => true
  | _ => false

/-- The types that a function node takes. -/
def args (n : Node) : List NodeId :=
  match n.former? with
  | some (.function _ args _) => args
  | _ => []

/-- Gives a pointer its pointee, which it gets once. Nothing is answered for a node
that is no pointer. -/
def bind? (n : Node) (pointee : NodeId) : Option (Except Diagnostic Node) :=
  match n.shape with
  | .formed (.pointer none storage) made =>
    some (.ok { n with shape := .formed (.pointer (some pointee) storage) made })
  | .formed (.pointer (some _) _) _ => some (.error (.pointing n.start .alreadyBound))
  | _ => none

/-- Adds a member to a struct, which has to be opaque still. Nothing is answered for a
node that is no struct. -/
def addMember? (n : Node) (m : Member) : Option (Except Diagnostic Node) :=
  match n.shape with
  | .struct type layout =>
    if layout.complete then some (.error (.pointing n.start .layoutComplete))
    else some (.ok { n with shape := .struct type (layout.push m) })
  | _ => none

/-- The node without its pointee, if it is a pointer; what was produced stays. -/
def detached (n : Node) : Node :=
  match n.shape with
  | .formed (.pointer _ storage) made => { n with shape := .formed (.pointer none storage) made }
  | _ => n

/-- The node with one production of it ended. -/
def released (n : Node) : Node :=
  { n with guard := n.guard.release?.getD n.guard }

/-- The node of a formed type with the type that was produced for it. -/
def withMade (n : Node) (type : Ty) : Node :=
  match n.shape with
  | .formed former _ => { n with shape := .formed former (some type) }
  | _ => n

/-- The node of a struct with its layout changed. -/
def mapLayout (n : Node) (f : Layout → Layout) : Node :=
  match n.shape with
  | .struct type layout => { n with shape := .struct type (f layout) }
  | _ => n

/-- What a node is, in a word. -/
def kindText (n : Node) : String :=
  match n.shape with
  | .simple _ => "simple"
  | .formed (.pointer _ _) _ => "pointer"
  | .formed (.function _ _ _) _ => "function"
  | .formed (.array _ _) _ => "array"
  | .struct _ _ => "struct"

end Node

end ShaderLowering
