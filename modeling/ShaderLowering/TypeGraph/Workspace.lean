import ShaderLowering.Target.TypeArena
import ShaderLowering.TypeGraph.Node

/-!
# Workspaces

The nodes of a shader's types and the types of the target are worked on together:
producing a node makes types, and a struct node is made along with its type. A
workspace is the two side by side. The arena may be shared with other shaders; the
graph belongs to one.
-/

namespace ShaderLowering

/-- The nodes declared so far, the number of each being its place. -/
structure TypeGraph where
  /-- The nodes. -/
  nodes : Array Node := #[]
  deriving DecidableEq, Repr

/-- The types of the target and the nodes of one shader. -/
structure Workspace where
  /-- The types. -/
  arena : TypeArena := {}
  /-- The nodes. -/
  graph : TypeGraph := {}
  deriving DecidableEq, Repr

namespace Workspace

/-- The node with the given number. -/
def node? (w : Workspace) (n : NodeId) : Option Node :=
  w.graph.nodes[n.index]?

/-- Changes the node with the given number. -/
def modify (w : Workspace) (n : NodeId) (f : Node → Node) : Workspace :=
  { w with graph := { nodes := w.graph.nodes.modify n.index f } }

/-- Adds a node. -/
def add (w : Workspace) (node : Node) : NodeId × Workspace :=
  (⟨w.graph.nodes.size⟩, { w with graph := { nodes := w.graph.nodes.push node } })

/-- Adds a struct together with its type, which has the given name and is opaque. -/
def addStruct (w : Workspace) (name : String) (members : List Member) (start : Nat) :
    NodeId × Workspace :=
  let (type, arena) := w.arena.struct name
  { w with arena }.add { start, shape := .struct type (.ofMembers members) }

/-- Gives a pointer its pointee. Nothing is answered for a node that is no pointer. -/
def bind? (w : Workspace) (n pointee : NodeId) : Option (Except Diagnostic Workspace) :=
  (w.node? n).bind fun node =>
    (node.bind? pointee).map fun result =>
      result.map fun bound => w.modify n fun _ => bound

/-- Adds a member to a struct. Nothing is answered for a node that is no struct. -/
def addMember? (w : Workspace) (n : NodeId) (m : Member) :
    Option (Except Diagnostic Workspace) :=
  (w.node? n).bind fun node =>
    (node.addMember? m).map fun result =>
      result.map fun grown => w.modify n fun _ => grown

/-- Takes every pointer's pointee away. What was produced stays. -/
def detachAll (w : Workspace) : Workspace :=
  { w with graph := { nodes := w.graph.nodes.map Node.detached } }

end Workspace

end ShaderLowering
