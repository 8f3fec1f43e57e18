import ShaderLowering.TypeGraph.Depth
import ShaderLowering.TypeGraph.Description

/-!
# What a node refers to, and what production leaves alone

Producing a node changes nodes in three ways only: a formed node gets its type, a
struct gets on with its layout, and guards count productions. What is left when these
are taken out of a node is its *skeleton*. It holds everything that says which nodes a
node refers to, so whatever is true of a graph because of how its nodes refer to one
another is true before, during and after any production.

Guards are followed apart from the rest, by `ShaderLowering.Workspace.held`: a
production *enters* its node and *leaves* it again.
-/

namespace ShaderLowering

/-- The nodes that a formed type is formed from. -/
def Former.refs : Former → List NodeId
  | .pointer pointee _ => pointee.toList
  | .function result args _ => result :: args
  | .array element _ => [element]

/-- A layout without what is found out when it is made. -/
def Layout.skeleton (l : Layout) : Layout :=
  { members := l.members.map fun m => { m with bodyIndex := none }
    slots := l.slots }

/-- A shape without what was produced for it. -/
def Shape.skeleton : Shape → Shape
  | .simple type => .simple type
  | .formed former _ => .formed former none
  | .struct type layout => .struct type layout.skeleton

/-- The type of a struct, whether or not it has a body. -/
def Shape.structType? : Shape → Option Ty
  | .struct type _ => some type
  | _ => none

@[simp] theorem Shape.structType?_skeleton (s : Shape) :
    s.skeleton.structType? = s.structType? := by
  cases s <;> rfl

namespace Node

variable (n : Node)

/-- The nodes that a node refers to. -/
def refs : List NodeId :=
  match n.shape with
  | .simple _ => []
  | .formed former _ => former.refs
  | .struct _ layout => layout.members.map Member.type

/-- The node is a struct. -/
def isStruct : Bool :=
  n.layout?.isSome

/-- A node without its guard and without what was produced for it. -/
def skeleton : Node :=
  { start := n.start, shape := n.shape.skeleton }

/-- The node with one more production of it under way. -/
def entered : Node :=
  { n with guard := ⟨n.guard.held + 1⟩ }

@[simp] theorem refs_skeleton : n.skeleton.refs = n.refs := by
  obtain ⟨start, guard, shape⟩ := n
  cases shape <;> simp [skeleton, Shape.skeleton, refs, Layout.skeleton]

@[simp] theorem start_skeleton : n.skeleton.start = n.start := rfl

@[simp] theorem skeleton_entered : n.entered.skeleton = n.skeleton := rfl

@[simp] theorem skeleton_released : n.released.skeleton = n.skeleton := rfl

@[simp] theorem skeleton_withMade (type : Ty) : (n.withMade type).skeleton = n.skeleton := by
  obtain ⟨start, guard, shape⟩ := n
  cases shape <;> rfl

theorem skeleton_mapLayout {f : Layout → Layout} (h : ∀ l, (f l).skeleton = l.skeleton) :
    (n.mapLayout f).skeleton = n.skeleton := by
  obtain ⟨start, guard, shape⟩ := n
  cases shape with
  | struct type layout => simp [mapLayout, skeleton, Shape.skeleton, h]
  | _ => rfl

@[simp] theorem guard_withMade (type : Ty) : (n.withMade type).guard = n.guard := by
  unfold withMade
  split <;> rfl

@[simp] theorem guard_mapLayout (f : Layout → Layout) : (n.mapLayout f).guard = n.guard := by
  unfold mapLayout
  split <;> rfl

theorem released_mapLayout_entered (f : Layout → Layout) :
    (n.entered.mapLayout f).released = n.mapLayout f := by
  obtain ⟨start, guard, shape⟩ := n
  cases shape <;> rfl

end Node

@[simp] theorem Layout.skeleton_looped (l : Layout) : l.looped.skeleton = l.skeleton := rfl

@[simp] theorem Layout.skeleton_laidOut (l : Layout) : l.laidOut.skeleton = l.skeleton := by
  simp only [laidOut, skeleton, Layout.mk.injEq, and_true]
  exact List.ext_getElem (by simp) fun i _ _ => by simp

namespace Workspace

variable {w : Workspace} {n m : NodeId} {node : Node}

/-! ### Changing a node -/

theorem node?_modify_map (w : Workspace) (n : NodeId) (f : Node → Node) :
    (w.modify n f).node? n = (w.node? n).map f := by
  rw [show n = ⟨n.index⟩ from rfl, node?_modify, if_pos rfl]

theorem node?_modify_self (h : w.node? n = some node) (f : Node → Node) :
    (w.modify n f).node? n = some (f node) := by
  rw [node?_modify_map, h]
  rfl

theorem node?_modify_of_ne (h : m ≠ n) (f : Node → Node) :
    (w.modify n f).node? m = w.node? m := by
  have hne : n.index ≠ m.index := fun hindex => h (by cases m; cases n; simp_all)
  rw [show m = ⟨m.index⟩ from rfl, node?_modify, if_neg hne]

/-- The node at a place after one was changed is there before, perhaps unchanged. -/
theorem node?_modify_eq_some {f : Node → Node} (h : (w.modify n f).node? m = some node) :
    ∃ before, w.node? m = some before ∧ node = if m = n then f before else before := by
  by_cases hmn : m = n
  · subst hmn
    rw [node?_modify_map, Option.map_eq_some_iff] at h
    obtain ⟨before, hbefore, rfl⟩ := h
    exact ⟨before, hbefore, (if_pos rfl).symm⟩
  · rw [node?_modify_of_ne hmn] at h
    exact ⟨node, h, by rw [if_neg hmn]⟩

theorem modify_modify (w : Workspace) (n : NodeId) (f g : Node → Node) :
    (w.modify n f).modify n g = w.modify n (g ∘ f) := by
  simp only [modify, mk.injEq, true_and, TypeGraph.mk.injEq]
  refine Array.ext_getElem? fun i => ?_
  simp only [Array.getElem?_modify]
  split <;> simp

theorem modify_id (w : Workspace) (n : NodeId) : (w.modify n fun node => node) = w := by
  obtain ⟨arena, ⟨nodes⟩⟩ := w
  simp only [modify, mk.injEq, true_and, TypeGraph.mk.injEq]
  refine Array.ext_getElem? fun i => ?_
  simp only [Array.getElem?_modify]
  split <;> simp

/-- What a change does depends on the node that is changed only. -/
theorem modify_congr {f g : Node → Node} (hn : w.node? n = some node) (h : f node = g node) :
    w.modify n f = w.modify n g := by
  simp only [modify, mk.injEq, true_and, TypeGraph.mk.injEq]
  refine Array.ext_getElem? fun i => ?_
  simp only [Array.getElem?_modify]
  split
  · rename_i hi
    subst hi
    have hn' : w.graph.nodes[n.index]? = some node := hn
    rw [hn', Option.map_some, Option.map_some, h]
  · rfl

/-! ### Entering and leaving a node -/

/-- The workspace with one more production of a node under way. -/
def enter (w : Workspace) (n : NodeId) : Workspace :=
  w.modify n Node.entered

/-- The workspace with one production of a node ended. -/
def leave (w : Workspace) (n : NodeId) : Workspace :=
  w.modify n Node.released

theorem leave_enter (w : Workspace) (n : NodeId) : (w.enter n).leave n = w := by
  rw [enter, leave, modify_modify]
  exact w.modify_id n

/-- How many productions of a node are under way. -/
def held (w : Workspace) (n : NodeId) : Nat :=
  ((w.node? n).map fun node => node.guard.held).getD 0

theorem held_eq (h : w.node? n = some node) : w.held n = node.guard.held := by
  rw [held, h]
  rfl

theorem held_modify {f : Node → Node} (h : ∀ node, (f node).guard = node.guard) :
    (w.modify n f).held = w.held := by
  funext m
  by_cases hmn : m = n
  · subst hmn
    rw [held, held, node?_modify_map]
    cases w.node? m <;> simp [h]
  · rw [held, held, node?_modify_of_ne hmn]

theorem held_enter_self (h : w.node? n = some node) : (w.enter n).held n = w.held n + 1 := by
  rw [enter, held_eq (node?_modify_self h _), held_eq h]
  rfl

theorem held_enter_of_ne (h : m ≠ n) : (w.enter n).held m = w.held m := by
  rw [held, held, enter, node?_modify_of_ne h]

theorem held_leave_self (w : Workspace) (n : NodeId) : (w.leave n).held n = w.held n - 1 := by
  cases hn : w.node? n with
  | none =>
    rw [held, held, leave, node?_modify_map, hn]
    rfl
  | some node =>
    rw [leave, held_eq (node?_modify_self hn _), held_eq hn]
    obtain ⟨start, ⟨held⟩, shape⟩ := node
    cases held <;> rfl

theorem held_leave_of_ne (h : m ≠ n) : (w.leave n).held m = w.held m := by
  rw [held, held, leave, node?_modify_of_ne h]

/-- What was entered and then left is held as often as before. -/
theorem held_leave_of_eq {w₁ : Workspace} (hn : w.node? n = some node)
    (h : w₁.held = (w.enter n).held) : (w₁.leave n).held = w.held := by
  funext m
  by_cases hmn : m = n
  · rw [hmn, held_leave_self, h, held_enter_self hn, Nat.add_sub_cancel]
  · rw [held_leave_of_ne hmn, h, held_enter_of_ne hmn]

/-! ### What nodes declare -/

/-- What a node declares. -/
def shape? (w : Workspace) (n : NodeId) : Option Shape :=
  (w.node? n).map Node.shape

/-- The type of a struct node, whether or not it has a body. -/
def structType? (w : Workspace) (n : NodeId) : Option Ty :=
  (w.shape? n).bind Shape.structType?

theorem structType?_eq_some_iff {t : Ty} :
    w.structType? n = some t ↔ ∃ layout, w.shape? n = some (.struct t layout) := by
  rw [structType?, Option.bind_eq_some_iff]
  constructor
  · rintro ⟨shape, hs, ht⟩
    cases shape with
    | struct t' layout =>
      cases ht
      exact ⟨layout, hs⟩
    | _ => cases ht
  · rintro ⟨layout, hs⟩
    exact ⟨_, hs, rfl⟩

theorem shape?_eq (h : w.node? n = some node) : w.shape? n = some node.shape := by
  rw [shape?, h]
  rfl

theorem shape?_eq_of_shape_eq {shape : Shape} (h : w.node? n = some node)
    (hs : node.shape = shape) : w.shape? n = some shape := by
  rw [shape?_eq h, hs]

theorem shape?_modify_self (h : w.node? n = some node) (f : Node → Node) :
    (w.modify n f).shape? n = some (f node).shape :=
  shape?_eq (node?_modify_self h f)

theorem shape?_modify_of_ne (h : m ≠ n) (f : Node → Node) :
    (w.modify n f).shape? m = w.shape? m := by
  rw [shape?, shape?, node?_modify_of_ne h]

theorem shape?_modify {f : Node → Node} (h : ∀ node, (f node).shape = node.shape) :
    (w.modify n f).shape? = w.shape? := by
  funext m
  by_cases hmn : m = n
  · subst hmn
    rw [shape?, shape?, node?_modify_map]
    cases w.node? m <;> simp [h]
  · rw [shape?_modify_of_ne hmn]

@[simp] theorem shape?_enter (w : Workspace) (n : NodeId) : (w.enter n).shape? = w.shape? :=
  shape?_modify fun _ => rfl

@[simp] theorem shape?_leave (w : Workspace) (n : NodeId) : (w.leave n).shape? = w.shape? :=
  shape?_modify fun _ => rfl

theorem layout?_eq_some_iff {layout : Layout} :
    w.layout? n = some layout ↔ ∃ t, w.shape? n = some (.struct t layout) := by
  rw [layout?, shape?]
  cases w.node? n with
  | none => simp
  | some node =>
    obtain ⟨start, guard, shape⟩ := node
    cases shape <;> simp [Node.layout?]

/-! ### Members -/

/-- The types of the members of a struct node. -/
def memberTypes (w : Workspace) (n : NodeId) : List NodeId :=
  ((w.layout? n).map fun layout => layout.members.map Member.type).getD []

/-- The members of a struct node, as they were added to it. -/
def members (w : Workspace) (n : NodeId) : List (List Decoration × NodeId) :=
  ((w.layout? n).map fun layout => layout.members.map fun m => (m.decorations, m.type)).getD []

theorem memberTypes_eq {t : Ty} {layout : Layout} (h : w.shape? n = some (.struct t layout)) :
    w.memberTypes n = layout.members.map Member.type := by
  rw [memberTypes, layout?_eq_some_iff.mpr ⟨t, h⟩]
  rfl

theorem members_eq {t : Ty} {layout : Layout} (h : w.shape? n = some (.struct t layout)) :
    w.members n = layout.members.map fun m => (m.decorations, m.type) := by
  rw [members, layout?_eq_some_iff.mpr ⟨t, h⟩]
  rfl

theorem memberTypes_eq_map (w : Workspace) (n : NodeId) :
    w.memberTypes n = (w.members n).map Prod.snd := by
  rw [memberTypes, members]
  cases w.layout? n with
  | none => rfl
  | some layout => simp

/-! ### Skeletons -/

/-- The skeleton of each node. -/
def skeleton (w : Workspace) (n : NodeId) : Option Node :=
  (w.node? n).map Node.skeleton

theorem skeleton_modify {f : Node → Node} (h : ∀ node, (f node).skeleton = node.skeleton) :
    (w.modify n f).skeleton = w.skeleton := by
  funext m
  by_cases hmn : m = n
  · subst hmn
    rw [skeleton, skeleton, node?_modify_map]
    cases w.node? m <;> simp [h]
  · rw [skeleton, skeleton, node?_modify_of_ne hmn]

@[simp] theorem skeleton_enter (w : Workspace) (n : NodeId) : (w.enter n).skeleton = w.skeleton :=
  skeleton_modify Node.skeleton_entered

@[simp] theorem skeleton_leave (w : Workspace) (n : NodeId) : (w.leave n).skeleton = w.skeleton :=
  skeleton_modify Node.skeleton_released

/-- A node of one of two workspaces with the same skeleton is in the other too. -/
theorem exists_node_of_skeleton_eq {w' : Workspace} (h : w'.skeleton = w.skeleton)
    (hn : w.node? n = some node) :
    ∃ node', w'.node? n = some node' ∧ node'.skeleton = node.skeleton := by
  have hn' := congrFun h n
  rw [skeleton, skeleton, hn] at hn'
  exact Option.map_eq_some_iff.mp hn'

theorem isSome_node?_congr {w' : Workspace} (h : w'.skeleton = w.skeleton) (n : NodeId) :
    (w'.node? n).isSome = (w.node? n).isSome := by
  have hn := congrArg Option.isSome (congrFun h n)
  rwa [skeleton, skeleton, Option.isSome_map, Option.isSome_map] at hn

theorem shape?_skeleton {w' : Workspace} (h : w'.skeleton = w.skeleton) (n : NodeId) :
    (w'.shape? n).map Shape.skeleton = (w.shape? n).map Shape.skeleton := by
  have hn := congrArg (Option.map Node.shape) (congrFun h n)
  rw [skeleton, skeleton, Option.map_map, Option.map_map] at hn
  rw [shape?, shape?, Option.map_map, Option.map_map]
  exact hn

theorem simple_of_skeleton_eq {w' : Workspace} {t : Ty} (h : w'.skeleton = w.skeleton)
    (hs : w.shape? n = some (.simple t)) : w'.shape? n = some (.simple t) := by
  have hn := shape?_skeleton h n
  rw [hs, Option.map_some, Option.map_eq_some_iff] at hn
  obtain ⟨shape, hshape, heq⟩ := hn
  cases shape with
  | simple t' =>
    cases heq
    exact hshape
  | _ => cases heq

theorem formed_of_skeleton_eq {w' : Workspace} {former : Former} {made : Option Ty}
    (h : w'.skeleton = w.skeleton) (hs : w.shape? n = some (.formed former made)) :
    ∃ made', w'.shape? n = some (.formed former made') := by
  have hn := shape?_skeleton h n
  rw [hs, Option.map_some, Option.map_eq_some_iff] at hn
  obtain ⟨shape, hshape, heq⟩ := hn
  cases shape with
  | formed former' made' =>
    cases heq
    exact ⟨made', hshape⟩
  | _ => cases heq

theorem struct_of_skeleton_eq {w' : Workspace} {t : Ty} {layout : Layout}
    (h : w'.skeleton = w.skeleton) (hs : w.shape? n = some (.struct t layout)) :
    ∃ layout', w'.shape? n = some (.struct t layout') ∧ layout'.skeleton = layout.skeleton := by
  have hn := shape?_skeleton h n
  rw [hs, Option.map_some, Option.map_eq_some_iff] at hn
  obtain ⟨shape, hshape, heq⟩ := hn
  cases shape with
  | struct t' layout' =>
    simp only [Shape.skeleton, Shape.struct.injEq] at heq
    obtain ⟨rfl, hlayout⟩ := heq
    exact ⟨layout', hshape, hlayout⟩
  | _ => cases heq

theorem structType?_of_skeleton_eq {w' : Workspace} (h : w'.skeleton = w.skeleton) :
    w'.structType? = w.structType? := by
  have hbind (v : Workspace) (n : NodeId) :
      v.structType? n = ((v.shape? n).map Shape.skeleton).bind Shape.structType? := by
    rw [structType?]
    cases v.shape? n <;> simp
  funext n
  rw [hbind, hbind, shape?_skeleton h]

end Workspace

/-- Layouts with the same skeleton have members of the same types. -/
theorem Layout.types_of_skeleton_eq {l l' : Layout} (h : l'.skeleton = l.skeleton) :
    l'.members.map Member.type = l.members.map Member.type := by
  have hmembers := congrArg (fun l => l.members.map Member.type) h
  simp only [skeleton, List.map_map] at hmembers
  exact hmembers

/-- Layouts with the same skeleton have members that were added alike. -/
theorem Layout.added_of_skeleton_eq {l l' : Layout} (h : l'.skeleton = l.skeleton) :
    l'.members.map (fun m => (m.decorations, m.type)) =
      l.members.map fun m => (m.decorations, m.type) := by
  have hmembers := congrArg (fun l => l.members.map fun m => (m.decorations, m.type)) h
  simp only [skeleton, List.map_map] at hmembers
  exact hmembers

end ShaderLowering
