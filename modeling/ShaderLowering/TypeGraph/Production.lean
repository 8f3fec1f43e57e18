import ShaderLowering.TypeGraph.Workspace

/-!
# Producing types

To produce a node is to find its type of the target, making it first if need be. A
struct can be had in two states. Its opaque type is there from the start and is all
that a pointer to it needs; its *complete* type has a body, which takes the types of
its members. Whoever asks for a node says whether the structs found in it by value
have to be complete. A pointer never asks that of its pointee, which is why a struct
may refer to itself through a pointer.

A node can be asked for while it is being produced. A struct that is asked again for
its complete type lies within itself: it answers with its opaque type, remembers what
has happened, and its layout fails once its members are known. For the other nodes
the guard sets the limit.

Production changes the workspace even where it fails, since what was made on the way
stays. `ShaderLowering.produceWithin` takes the number of requests that may be open
one inside another; that there is always a number large enough is the matter of
`ShaderLowering.TypeGraph.Depth`.
-/

namespace ShaderLowering

/-- A step of production: it answers or reports, changing the workspace either way,
unless more requests are open than it was given leave for. -/
abbrev Production := ExceptT Diagnostic (StateT Workspace Option)

namespace Production

/-- Gives up because too many requests are open. -/
def outOfDepth {α : Type} : Production α := fun _ => none

/-- The node with the given number. -/
def nodeAt (n : NodeId) : Production Node := do
  match (← get).node? n with
  | some node => return node
  | none => throw (.pointing 0 (.unknownNode n.index))

/-- Changes a node. -/
def modifyNode (n : NodeId) (f : Node → Node) : Production Unit :=
  modify fun w => w.modify n f

/-- Does some work as a production of a node: the guard is acquired first and released
at the end, however the work ends. The work is told whether it is nested in other
work on the same node. -/
def guarded {α : Type} (n : NodeId) (work : Bool → Production α) : Production α := fun w =>
  match w.node? n with
  | none => some (.error (.pointing 0 (.unknownNode n.index)), w)
  | some node =>
    match node.guard.acquire? with
    | none => some (.error (.pointing node.start .tooManyRecursions), w)
    | some guard => do
      let (result, w) ← work guard.isNested (w.modify n fun node => { node with guard })
      return (result, w.modify n Node.released)

/-- Makes a type that is structural. -/
def intern (data : TypeData) : Production Ty := fun w =>
  let (type, arena) := w.arena.intern data
  some (.ok type, { w with arena })

/-- Gives a type its body, reporting a refusal at `start`. -/
def setBody (start : Nat) (type : Ty) (members : List Ty) : Production Unit := fun w =>
  match w.arena.setBody type members false with
  | .ok arena => some (.ok (), { w with arena })
  | .error fault => some (.error (.pointing start (.refusedType fault)), w)

/-- The data of a formed type, found by requesting the nodes it is formed from. The
pointee of a pointer need not be complete, whatever the pointer is wanted for. -/
def formedData (request : NodeId → Bool → Production Ty) (start : Nat) (complete : Bool) :
    Former → Production TypeData
  | .pointer none _ => throw (.pointing start .unboundPointer)
  | .pointer (some pointee) _ => do
    let pointee ← request pointee false
    return .pointer pointee defaultAddressSpace
  | .function result args variadic => do
    let result ← request result complete
    let params ← args.mapM fun arg => request arg complete
    return .function result params variadic
  | .array element count => do
    let element ← request element complete
    return .array element count

/-- Remembers the type a node was formed into. -/
def remember (n : NodeId) (type : Ty) : Production Unit :=
  modifyNode n fun node => node.withMade type

/-- Changes the layout of a struct. -/
def modifyLayout (n : NodeId) (f : Layout → Layout) : Production Unit :=
  modifyNode n fun node => node.mapLayout f

/-- Lays a struct out, its members having been produced. A struct that was found among
them on the way has no layout. -/
def layOut (n : NodeId) (type : Ty) (members : List Ty) : Production Unit := do
  let node ← nodeAt n
  if node.layout?.any Layout.containsItself then
    throw (.pointing node.start .tooManyRecursions)
  else do
    setBody node.start type members
    modifyLayout n Layout.laidOut

end Production

open Production in
/-- Produces a node with at most `depth` requests open at a time. -/
def produceWithin : Nat → NodeId → Bool → Production Ty
  | 0, _, _ => outOfDepth
  | depth + 1, n, complete => do
    let node ← nodeAt n
    match node.shape with
    | .simple type => return type
    | .formed _ (some type) => return type
    | .formed former none =>
      guarded n fun _ => do
        let data ← formedData (produceWithin depth) node.start complete former
        let type ← intern data
        remember n type
        return type
    | .struct type layout =>
      if complete && !layout.complete then
        guarded n fun nested =>
          if nested then
            modifyLayout n Layout.looped
          else do
            let members ← layout.members.mapM fun m => produceWithin depth m.type true
            layOut n type members
      return type

end ShaderLowering
