import ShaderLowering.Proofs.TypeGraph.Skeleton

/-!
# How a request is answered

`ShaderLowering.produceWithin` is a program that counts how deep its requests are
nested. This file says the same without the count and without the monad.

`ShaderLowering.Answer` is one request: all the ways in which it can be answered and
what each of them does to the workspace, where the requests made in the course of it are
answered by a relation that is a parameter. `ShaderLowering.InTurn` has a list of
requests answered one after another, up to the first report. A request is
`ShaderLowering.Produced` in the sense of the program when some depth is enough for it;
`ShaderLowering.Produced.answer` says that this is an instance of
`ShaderLowering.Answer`, and `ShaderLowering.Produced.induct` that nothing else is: what
holds of a request whenever it holds of the requests inside holds of all that are
produced. Everything that is proved about production is proved by that induction, one
case for each way to answer.
-/

namespace ShaderLowering

/-- A request for the type of a node. -/
structure Request where
  /-- The node. -/
  node : NodeId
  /-- The structs found in it by value have to be complete. -/
  complete : Bool
  deriving DecidableEq, Repr

/-! ### The requests inside a request -/

namespace Former

/-- Whether what a type is formed from has to be complete: never for a pointer. -/
def passes (complete : Bool) : Former → Bool
  | .pointer _ _ => false
  | _ => complete

/-- The requests that a formed type is formed by. -/
def requests (former : Former) (complete : Bool) : List Request :=
  former.refs.map fun n => ⟨n, former.passes complete⟩

/-- The data of a formed type, given the types it is formed from. -/
def data? : Former → List Ty → Option TypeData
  | .pointer _ _, [pointee] => some (.pointer pointee defaultAddressSpace)
  | .function _ _ variadic, result :: params => some (.function result params variadic)
  | .array _ count, [element] => some (.array element count)
  | _, _ => none

end Former

namespace Node

/-- The type of a node where it is known without further requests. -/
def known? (n : Node) (complete : Bool) : Option Ty :=
  match n.shape with
  | .simple type => some type
  | .formed _ made => made
  | .struct type layout => if complete && !layout.complete then none else some type

/-- The requests that a node is produced by. -/
def requests (n : Node) (complete : Bool) : List Request :=
  match n.shape with
  | .simple _ => []
  | .formed former _ => former.requests complete
  | .struct _ layout => layout.members.map fun m => ⟨m.type, true⟩

/-- The requests of a node are for the nodes that it refers to. -/
theorem map_node_requests (n : Node) (complete : Bool) :
    (n.requests complete).map Request.node = n.refs := by
  obtain ⟨start, guard, shape⟩ := n
  cases shape <;> simp [requests, refs, Former.requests, Function.comp_def]

/-- The node makes requests when it is asked for: its type is not known, its guard lets
one more production in, and it is no struct that is being laid out already. -/
structure Opens (n : Node) (complete : Bool) : Prop where
  unknown : n.known? complete = none
  room : n.guard.held < maxHeld
  first : n.isStruct = true → n.guard.held = 0

end Node

/-! ### Answers -/

/-- A relation between a request, the workspace before it, the answer or report, and
the workspace after it. -/
abbrev Answers := Request → Workspace → Except Diagnostic Ty → Workspace → Prop

/-- Requests answered one after another, up to the first report. -/
inductive InTurn (answers : Answers) :
    List Request → Workspace → Except Diagnostic (List Ty) → Workspace → Prop
  /-- There is nothing to answer. -/
  | nil (w : Workspace) : InTurn answers [] w (.ok []) w
  /-- The first request is reported. -/
  | stop {r : Request} {rs : List Request} {w w' : Workspace} {d : Diagnostic}
      (head : answers r w (.error d) w') : InTurn answers (r :: rs) w (.error d) w'
  /-- The first request is answered, and a later one reported. -/
  | stopLater {r : Request} {rs : List Request} {w w₁ w' : Workspace} {t : Ty}
      {d : Diagnostic} (head : answers r w (.ok t) w₁)
      (tail : InTurn answers rs w₁ (.error d) w') : InTurn answers (r :: rs) w (.error d) w'
  /-- All requests are answered. -/
  | cons {r : Request} {rs : List Request} {w w₁ w' : Workspace} {t : Ty} {ts : List Ty}
      (head : answers r w (.ok t) w₁) (tail : InTurn answers rs w₁ (.ok ts) w') :
      InTurn answers (r :: rs) w (.ok (t :: ts)) w'

namespace InTurn

variable {answers answers' : Answers} {rs : List Request} {w w' : Workspace}
  {result : Except Diagnostic (List Ty)}

theorem imp (h : InTurn answers rs w result w')
    (himp : ∀ r w result w', answers r w result w' → answers' r w result w') :
    InTurn answers' rs w result w' := by
  induction h with
  | nil w => exact .nil w
  | stop head => exact .stop (himp _ _ _ _ head)
  | stopLater head _ ih => exact .stopLater (himp _ _ _ _ head) ih
  | cons head _ ih => exact .cons (himp _ _ _ _ head) ih

theorem left (h : InTurn (fun r w result w' => answers r w result w' ∧ answers' r w result w')
    rs w result w') : InTurn answers rs w result w' :=
  h.imp fun _ _ _ _ h => h.1

theorem right (h : InTurn (fun r w result w' => answers r w result w' ∧ answers' r w result w')
    rs w result w') : InTurn answers' rs w result w' :=
  h.imp fun _ _ _ _ h => h.2

/-- What each request keeps, all of them keep. -/
theorem keeps {R : Workspace → Workspace → Prop} (hrefl : ∀ w, R w w)
    (htrans : ∀ {u v w}, R u v → R v w → R u w)
    (h : InTurn (fun _ w _ w' => R w w') rs w result w') : R w w' := by
  induction h with
  | nil w => exact hrefl w
  | stop head => exact head
  | stopLater head _ ih => exact htrans head ih
  | cons head _ ih => exact htrans head ih

end InTurn

namespace Workspace

/-- The struct has been found among its own members. -/
def Looped (w : Workspace) (n : NodeId) : Prop :=
  ∃ layout, w.layout? n = some layout ∧ layout.containsItself = true

/-- The workspace with the type of the given data made and remembered for a node. -/
def form (w : Workspace) (n : NodeId) (data : TypeData) : Workspace :=
  { w with arena := (w.arena.intern data).2 }.modify n
    fun node => node.withMade (w.arena.intern data).1

/-- The workspace with a struct laid out, the body of its type being in the arena. -/
def layOut (w : Workspace) (n : NodeId) (arena : TypeArena) : Workspace :=
  { w with arena }.modify n fun node => node.mapLayout Layout.laidOut

@[simp] theorem skeleton_form (w : Workspace) (n : NodeId) (data : TypeData) :
    (w.form n data).skeleton = w.skeleton :=
  skeleton_modify fun node => node.skeleton_withMade _

@[simp] theorem skeleton_layOut (w : Workspace) (n : NodeId) (arena : TypeArena) :
    (w.layOut n arena).skeleton = w.skeleton :=
  skeleton_modify fun node => node.skeleton_mapLayout (by simp)

@[simp] theorem skeleton_looped (w : Workspace) (n : NodeId) :
    (w.modify n fun node => node.mapLayout Layout.looped).skeleton = w.skeleton :=
  skeleton_modify fun node => node.skeleton_mapLayout (by simp)

end Workspace

/-- **The ways to answer a request**, the requests inside it being answered by `inner`. -/
inductive Answer (inner : Answers) : Answers
  /-- There is no such node. -/
  | missing {n : NodeId} {complete : Bool} {w : Workspace} (hn : w.node? n = none) :
    Answer inner ⟨n, complete⟩ w (.error (.pointing 0 (.unknownNode n.index))) w
  /-- The type is known. -/
  | known {n : NodeId} {complete : Bool} {w : Workspace} {node : Node} {t : Ty}
      (hn : w.node? n = some node) (ht : node.known? complete = some t) :
    Answer inner ⟨n, complete⟩ w (.ok t) w
  /-- The guard lets no more productions in. -/
  | full {n : NodeId} {complete : Bool} {w : Workspace} {node : Node}
      (hn : w.node? n = some node) (hk : node.known? complete = none)
      (hfull : maxHeld ≤ node.guard.held) :
    Answer inner ⟨n, complete⟩ w (.error (.pointing node.start .tooManyRecursions)) w
  /-- The node is a struct that is being laid out: it lies within itself. -/
  | nested {n : NodeId} {complete : Bool} {w : Workspace} {node : Node} {t : Ty}
      {layout : Layout} (hn : w.node? n = some node) (hs : node.shape = .struct t layout)
      (hk : node.known? complete = none) (hroom : node.guard.held < maxHeld)
      (hheld : 0 < node.guard.held) :
    Answer inner ⟨n, complete⟩ w (.ok t) (w.modify n fun node => node.mapLayout Layout.looped)
  /-- The node is a pointer whose pointee is not known. -/
  | unbound {n : NodeId} {complete : Bool} {w : Workspace} {node : Node}
      {storage : StorageClass} (hn : w.node? n = some node)
      (hs : node.shape = .formed (.pointer none storage) none)
      (hroom : node.guard.held < maxHeld) :
    Answer inner ⟨n, complete⟩ w (.error (.pointing node.start .unboundPointer)) w
  /-- A request inside is reported. -/
  | failed {n : NodeId} {complete : Bool} {w w₁ : Workspace} {node : Node} {d : Diagnostic}
      (hn : w.node? n = some node) (ho : node.Opens complete)
      (h : InTurn inner (node.requests complete) (w.enter n) (.error d) w₁) :
    Answer inner ⟨n, complete⟩ w (.error d) (w₁.leave n)
  /-- A type is formed. -/
  | formed {n : NodeId} {complete : Bool} {w w₁ : Workspace} {node : Node} {former : Former}
      {types : List Ty} {data : TypeData} (hn : w.node? n = some node)
      (hs : node.shape = .formed former none) (ho : node.Opens complete)
      (h : InTurn inner (node.requests complete) (w.enter n) (.ok types) w₁)
      (hd : former.data? types = some data) :
    Answer inner ⟨n, complete⟩ w (.ok (w₁.arena.intern data).1) ((w₁.form n data).leave n)
  /-- A struct was found among its own members. -/
  | looped {n : NodeId} {complete : Bool} {w w₁ : Workspace} {node : Node} {t : Ty}
      {layout : Layout} {types : List Ty} (hn : w.node? n = some node)
      (hs : node.shape = .struct t layout) (ho : node.Opens complete)
      (h : InTurn inner (node.requests complete) (w.enter n) (.ok types) w₁)
      (hl : w₁.Looped n) :
    Answer inner ⟨n, complete⟩ w (.error (.pointing node.start .tooManyRecursions))
      (w₁.leave n)
  /-- A struct is refused its body. -/
  | refused {n : NodeId} {complete : Bool} {w w₁ : Workspace} {node : Node} {t : Ty}
      {layout : Layout} {types : List Ty} {fault : TypeFault} (hn : w.node? n = some node)
      (hs : node.shape = .struct t layout) (ho : node.Opens complete)
      (h : InTurn inner (node.requests complete) (w.enter n) (.ok types) w₁)
      (hl : ¬w₁.Looped n) (hb : w₁.arena.setBody t types false = .error fault) :
    Answer inner ⟨n, complete⟩ w (.error (.pointing node.start (.refusedType fault)))
      (w₁.leave n)
  /-- A struct is laid out. -/
  | laidOut {n : NodeId} {complete : Bool} {w w₁ : Workspace} {node : Node} {t : Ty}
      {layout : Layout} {types : List Ty} {arena : TypeArena} (hn : w.node? n = some node)
      (hs : node.shape = .struct t layout) (ho : node.Opens complete)
      (h : InTurn inner (node.requests complete) (w.enter n) (.ok types) w₁)
      (hl : ¬w₁.Looped n) (hb : w₁.arena.setBody t types false = .ok arena) :
    Answer inner ⟨n, complete⟩ w (.ok t) ((w₁.layOut n arena).leave n)

theorem Answer.imp {answers answers' : Answers} {r : Request} {w w' : Workspace}
    {result : Except Diagnostic Ty} (h : Answer answers r w result w')
    (himp : ∀ r w result w', answers r w result w' → answers' r w result w') :
    Answer answers' r w result w' := by
  cases h with
  | missing hn => exact .missing hn
  | known hn ht => exact .known hn ht
  | full hn hk hfull => exact .full hn hk hfull
  | nested hn hs hk hroom hheld => exact .nested hn hs hk hroom hheld
  | unbound hn hs hroom => exact .unbound hn hs hroom
  | failed hn ho h => exact .failed hn ho (h.imp himp)
  | formed hn hs ho h hd => exact .formed hn hs ho (h.imp himp) hd
  | looped hn hs ho h hl => exact .looped hn hs ho (h.imp himp) hl
  | refused hn hs ho h hl hb => exact .refused hn hs ho (h.imp himp) hl hb
  | laidOut hn hs ho h hl hb => exact .laidOut hn hs ho (h.imp himp) hl hb

/-- Answers leave skeletons alone, if those to the requests inside do. -/
theorem Answer.skeleton_eq {inner : Answers} {r : Request} {w w' : Workspace}
    {result : Except Diagnostic Ty} (h : Answer inner r w result w')
    (hinner : ∀ r w result w', inner r w result w' → w'.skeleton = w.skeleton) :
    w'.skeleton = w.skeleton := by
  have hturn {rs : List Request} {w w' : Workspace} {result : Except Diagnostic (List Ty)}
      (h : InTurn inner rs w result w') : w'.skeleton = w.skeleton :=
    (h.imp hinner).keeps (R := fun w w' => w'.skeleton = w.skeleton) (fun _ => rfl)
      fun h h' => h'.trans h
  cases h with
  | missing | known | full | unbound => rfl
  | nested => exact Workspace.skeleton_looped _ _
  | failed hn ho h => simp [hturn h]
  | looped hn hs ho h hl => simp [hturn h]
  | refused hn hs ho h hl hb => simp [hturn h]
  | formed hn hs ho h hd => simp [hturn h]
  | laidOut hn hs ho h hl hb => simp [hturn h]

end ShaderLowering
