import ShaderLowering.Proofs.TypeGraph.Changing
import ShaderLowering.Proofs.TypeGraph.Ways

/-!
# What can be done to a workspace

A workspace is built from outside by a handful of actions: types are asked for, nodes
are added, pointers are bound, members are added, and nodes are produced, all in any
order. `ShaderLowering.Workspace.perform` is one action and `ShaderLowering.Workspace.run`
any number of them. An action names nodes that are there already; one that does not
cannot be taken, and one that is refused changes nothing.

Actions only ever add to the graph (`ShaderLowering.Workspace.graphGrows_run`), no node
refers to one that is not there (`ShaderLowering.Workspace.Closed.run`), and between
actions no production is under way (`ShaderLowering.Workspace.Idle.run`).
-/

namespace ShaderLowering

/-- Something that is done to a workspace from outside. -/
inductive Action
  /-- Something is asked of the types themselves. -/
  | arena (action : TypeAction)
  /-- A node for a type that refers to no other is added. -/
  | addSimple (type : Ty) (start : Nat)
  /-- A node for a formed type is added, or the forward declaration of a pointer. -/
  | addFormed (former : Former) (start : Nat)
  /-- A struct is added along with its type. -/
  | addStruct (name : String) (members : List (List Decoration × NodeId)) (start : Nat)
  /-- A pointer is given its pointee. -/
  | bind (pointer pointee : NodeId)
  /-- A struct is given another member. -/
  | addMember (struct : NodeId) (decorations : List Decoration) (type : NodeId)
  /-- A node is produced, successfully or not. -/
  | produce (n : NodeId) (complete : Bool)
  deriving DecidableEq, Repr

/-- The nodes that an action names. -/
def Action.refs : Action → List NodeId
  | .arena _ | .addSimple _ _ => []
  | .addFormed former _ => former.refs
  | .addStruct _ members _ => members.map Prod.snd
  | .bind pointer pointee => [pointer, pointee]
  | .addMember struct _ type => [struct, type]
  | .produce n _ => [n]

/-! ### The layout of a new struct -/

theorem Layout.members_foldl_push (members : List Member) (l : Layout) :
    (members.foldl push l).members = l.members ++ members := by
  induction members generalizing l with
  | nil => exact (List.append_nil _).symm
  | cons m members ih =>
    rw [List.foldl_cons, ih, push, List.append_assoc, List.singleton_append]

@[simp] theorem Layout.members_ofMembers (members : List Member) :
    (ofMembers members).members = members :=
  members_foldl_push members {}

theorem Layout.complete_foldl_push (members : List Member) (l : Layout) :
    (members.foldl push l).complete = l.complete := by
  induction members generalizing l with
  | nil => rfl
  | cons m members ih => exact ih (l.push m)

@[simp] theorem Layout.complete_ofMembers (members : List Member) :
    (ofMembers members).complete = false :=
  complete_foldl_push members {}

namespace Workspace

/-- The workspace after an action, whether or not the nodes it names are there, and whether or not
it is refused. -/
def act (w : Workspace) : Action → Workspace
  | .arena action => { w with arena := w.arena.perform action }
  | .addSimple type start => (w.add (.simple type start)).2
  | .addFormed former start => (w.add (.formed former start)).2
  | .addStruct name members start =>
    (w.addStruct name (members.map fun m => { decorations := m.1, type := m.2 }) start).2
  | .bind pointer pointee => ((Changing.bind pointer pointee).runIn w).2
  | .addMember struct decorations type =>
    ((Changing.addMember struct { decorations, type }).runIn w).2
  | .produce n complete => (w.produce n complete).2

/-- The workspace after an action, which is taken only if the nodes it names are there. -/
def perform (w : Workspace) (action : Action) : Workspace :=
  if ∀ n ∈ action.refs, n.index < w.graph.nodes.size then w.act action else w

/-- The workspace after any number of actions. -/
def run (w : Workspace) (actions : List Action) : Workspace :=
  actions.foldl perform w

@[simp] theorem run_nil (w : Workspace) : w.run [] = w := rfl

@[simp] theorem run_cons (w : Workspace) (action : Action) (actions : List Action) :
    w.run (action :: actions) = (w.perform action).run actions := rfl

theorem run_append (w : Workspace) (actions actions' : List Action) :
    w.run (actions ++ actions') = (w.run actions).run actions' :=
  List.foldl_append

/-- What every action keeps, any number of them keep. -/
theorem run_keeps {R : Workspace → Workspace → Prop} (hrefl : ∀ w, R w w)
    (htrans : ∀ {u v w}, R u v → R v w → R u w) (h : ∀ w action, R w (w.perform action))
    (w : Workspace) (actions : List Action) : R w (w.run actions) := by
  induction actions generalizing w with
  | nil => exact hrefl w
  | cons action actions ih => exact htrans (h w action) (ih (w.perform action))

variable {w w' : Workspace} {n m : NodeId} {node : Node} {shape : Shape}

theorem lt_size_iff : n.index < w.graph.nodes.size ↔ (w.node? n).isSome := by
  simp [node?]

/-! ### Adding a node -/

theorem node?_add (w : Workspace) (node : Node) (m : NodeId) :
    (w.add node).2.node? m = if m.index = w.graph.nodes.size then some node else w.node? m :=
  Array.getElem?_push

theorem node?_add_self (w : Workspace) (node : Node) :
    (w.add node).2.node? (w.add node).1 = some node := by
  rw [node?_add]
  exact if_pos rfl

theorem node?_add_of_node? (h : w.node? m = some node) (added : Node) :
    (w.add added).2.node? m = some node := by
  have := lt_size_iff.mpr (Option.isSome_of_eq_some h)
  rw [node?_add, if_neg (by omega), h]

theorem shape?_add (w : Workspace) (node : Node) (m : NodeId) :
    (w.add node).2.shape? m =
      if m.index = w.graph.nodes.size then some node.shape else w.shape? m := by
  rw [shape?, node?_add]
  split <;> rfl

/-! ### Changing what a node declares -/

/-- The workspace with one node declaring something else. -/
def reshape (w : Workspace) (n : NodeId) (shape : Shape) : Workspace :=
  w.modify n fun node => { node with shape }

theorem shape?_reshape {before : Shape} (h : w.shape? n = some before) (shape : Shape)
    (m : NodeId) : (w.reshape n shape).shape? m = if m = n then some shape else w.shape? m := by
  split
  · rename_i hmn
    subst hmn
    obtain ⟨node, hn, -⟩ := Option.map_eq_some_iff.mp h
    exact shape?_modify_self hn _
  · rename_i hmn
    exact shape?_modify_of_ne hmn _

/-- A pointer is bound if it has no pointee, and only then. -/
theorem of_bind? {pointer pointee : NodeId} (h : w.bind? pointer pointee = some (.ok w')) :
    ∃ storage made, w.shape? pointer = some (.formed (.pointer none storage) made) ∧
      w' = w.reshape pointer (.formed (.pointer (some pointee) storage) made) := by
  obtain ⟨node, hn, h⟩ := Option.bind_eq_some_iff.mp h
  obtain ⟨result, hresult, h⟩ := Option.map_eq_some_iff.mp h
  have hshape := shape?_eq hn
  obtain ⟨start, guard, shape⟩ := node
  rcases shape with type | ⟨⟨bound, storage⟩ | _ | _, made⟩ | _
  · exact nomatch hresult
  · cases bound with
    | some old =>
      cases hresult
      exact nomatch h
    | none =>
      cases hresult
      rw [← Except.ok.inj h]
      exact ⟨storage, made, hshape, modify_congr hn rfl⟩
  · exact nomatch hresult
  · exact nomatch hresult
  · exact nomatch hresult

/-- A struct is given another member if it is not complete, and only then. -/
theorem of_addMember? {struct : NodeId} {member : Member}
    (h : w.addMember? struct member = some (.ok w')) :
    ∃ type layout, w.shape? struct = some (.struct type layout) ∧ layout.complete = false ∧
      w' = w.reshape struct (.struct type (layout.push member)) := by
  obtain ⟨node, hn, h⟩ := Option.bind_eq_some_iff.mp h
  obtain ⟨result, hresult, h⟩ := Option.map_eq_some_iff.mp h
  have hshape := shape?_eq hn
  obtain ⟨start, guard, shape⟩ := node
  rcases shape with type | ⟨former, made⟩ | ⟨type, layout⟩
  · cases hresult
  · cases hresult
  · rw [Node.addMember?] at hresult
    dsimp only at hresult
    split at hresult
    · cases hresult
      cases h
    · rename_i hc
      cases hresult
      rw [← Except.ok.inj h]
      exact ⟨type, layout, hshape, Bool.eq_false_iff.mpr hc, modify_congr hn rfl⟩

theorem act_bind (w : Workspace) (pointer pointee : NodeId) :
    w.act (.bind pointer pointee) = (w.outcome (w.bind? pointer pointee)).2 := by
  rw [act, Changing.runIn_bind]

theorem act_addMember (w : Workspace) (struct type : NodeId) (decorations : List Decoration) :
    w.act (.addMember struct decorations type) =
      (w.outcome (w.addMember? struct { decorations, type })).2 := by
  rw [act, Changing.runIn_addMember]

/-- A struct with the given members is added along with its type. -/
abbrev withStruct (w : Workspace) (name : String) (members : List (List Decoration × NodeId))
    (start : Nat) : Workspace :=
  (w.addStruct name (members.map fun m => { decorations := m.1, type := m.2 }) start).2

theorem shape?_withStruct (w : Workspace) (name : String)
    (members : List (List Decoration × NodeId)) (start : Nat) (m : NodeId) :
    (w.withStruct name members start).shape? m =
      if m.index = w.graph.nodes.size then
        some (.struct (w.arena.struct name).1
          (.ofMembers (members.map fun m => { decorations := m.1, type := m.2 })))
      else w.shape? m :=
  shape?_add { w with arena := (w.arena.struct name).2 } _ m

/-- **What an action can do.** The nodes it names are there if it does anything. -/
inductive Performs (w : Workspace) : Action → Workspace → Prop
  /-- The action is refused. -/
  | nothing (action : Action) : Performs w action w
  /-- The types change alone. -/
  | arena (a : TypeAction) : Performs w (.arena a) { w with arena := w.arena.perform a }
  /-- A node is added that is no struct and that nothing was produced for. -/
  | added {action : Action} (node : Node) (hguard : node.guard = {})
      (hmade : node.shape.skeleton = node.shape) (hstruct : node.shape.structType? = none)
      (hrefs : ∀ m ∈ node.refs, (w.node? m).isSome) : Performs w action (w.add node).2
  /-- A struct is added along with its type. -/
  | addStruct (name : String) (members : List (List Decoration × NodeId)) (start : Nat)
      (hrefs : ∀ m ∈ members, (w.node? m.2).isSome) :
    Performs w (.addStruct name members start) (w.withStruct name members start)
  /-- A pointer without a pointee is given one. -/
  | bind {pointer pointee : NodeId} {storage : StorageClass} {made : Option Ty}
      (hs : w.shape? pointer = some (.formed (.pointer none storage) made))
      (hrefs : (w.node? pointee).isSome) :
    Performs w (.bind pointer pointee)
      (w.reshape pointer (.formed (.pointer (some pointee) storage) made))
  /-- A struct that is not complete is given another member. -/
  | addMember {struct member : NodeId} {decorations : List Decoration} {type : Ty}
      {layout : Layout} (hs : w.shape? struct = some (.struct type layout))
      (hc : layout.complete = false) (hrefs : (w.node? member).isSome) :
    Performs w (.addMember struct decorations member)
      (w.reshape struct (.struct type (layout.push { decorations, type := member })))
  /-- A node is produced. -/
  | produce (n : NodeId) (complete : Bool) (hn : (w.node? n).isSome) :
    Performs w (.produce n complete) (w.produce n complete).2

theorem performs (w : Workspace) (action : Action) : w.Performs action (w.perform action) := by
  by_cases hsize : ∀ n ∈ action.refs, n.index < w.graph.nodes.size
  · have hact : w.perform action = w.act action := if_pos hsize
    have hrefs : ∀ n ∈ action.refs, (w.node? n).isSome := fun n hn =>
      lt_size_iff.mp (hsize n hn)
    rw [hact]
    cases action with
    | arena a => exact .arena a
    | addSimple type start => exact .added _ rfl rfl rfl (List.forall_mem_nil _)
    | addFormed former start => exact .added _ rfl rfl rfl hrefs
    | addStruct name members start =>
      exact .addStruct name members start fun m hm => hrefs _ (List.mem_map_of_mem hm)
    | bind pointer pointee =>
      rcases w.outcome_cases (w.bind? pointer pointee) with h | h
      · rw [act_bind, h]
        exact .nothing _
      · obtain ⟨storage, made, hs, heq⟩ := of_bind? h
        rw [act_bind, heq]
        exact .bind hs (hrefs pointee (by simp [Action.refs]))
    | addMember struct decorations member =>
      rcases w.outcome_cases (w.addMember? struct { decorations, type := member }) with h | h
      · rw [act_addMember, h]
        exact .nothing _
      · obtain ⟨type, layout, hs, hc, heq⟩ := of_addMember? h
        rw [act_addMember, heq]
        exact .addMember hs hc (hrefs member (by simp [Action.refs]))
    | produce n complete => exact .produce n complete (hrefs n (by simp [Action.refs]))
  · rw [perform, if_neg hsize]
    exact .nothing _

/-! ### The graph grows -/

theorem graphGrows_add (w : Workspace) (node : Node) : w.GraphGrows (w.add node).2 := by
  intro n s hs
  obtain ⟨before, hn, rfl⟩ := Option.map_eq_some_iff.mp hs
  exact ⟨_, shape?_eq (node?_add_of_node? hn node), .refl _⟩

theorem graphGrows_reshape {before : Shape} (hs : w.shape? n = some before)
    (hgrows : before.Grows shape) : w.GraphGrows (w.reshape n shape) := by
  intro m s hm
  rw [shape?_reshape hs]
  split
  · rename_i hmn
    rw [hmn, hs, Option.some.injEq] at hm
    exact ⟨shape, rfl, hm ▸ hgrows⟩
  · exact ⟨s, hm, .refl s⟩

theorem graphGrows_withStruct (w : Workspace) (name : String)
    (members : List (List Decoration × NodeId)) (start : Nat) :
    w.GraphGrows (w.withStruct name members start) :=
  (GraphGrows.congr rfl).trans (graphGrows_add { w with arena := (w.arena.struct name).2 } _)

theorem Performs.graphGrows {action : Action} (h : w.Performs action w') : w.GraphGrows w' := by
  rcases h with _ | _ | ⟨node⟩ | ⟨name, members, start⟩ | ⟨hs, -⟩ | ⟨hs, -, -⟩ | ⟨n, complete⟩
  · exact .refl w
  · exact .congr rfl
  · exact w.graphGrows_add node
  · exact w.graphGrows_withStruct name members start
  · exact graphGrows_reshape hs (.bound ..)
  · exact graphGrows_reshape hs (.struct _ (Layout.grows_push _ _))
  · exact (w.produced n complete).graphGrows

/-- **Nodes go on declaring what they declared.** -/
theorem graphGrows_run (w : Workspace) (actions : List Action) : w.GraphGrows (w.run actions) :=
  run_keeps GraphGrows.refl GraphGrows.trans (fun w action => (w.performs action).graphGrows)
    w actions

/-- What every action preserves, any number of them preserve. -/
theorem run_preserves {P : Workspace → Prop}
    (h : ∀ {w action w'}, Performs w action w' → P w → P w') (hw : P w)
    (actions : List Action) : P (w.run actions) :=
  run_keeps (R := fun w w' => P w → P w') (fun _ => id) (fun h h' => h' ∘ h)
    (fun w action => h (w.performs action)) w actions hw

/-! ### No production is under way -/

/-- Nothing is being produced. -/
def Idle (w : Workspace) : Prop :=
  ∀ n, w.held n = 0

theorem idle_empty (arena : TypeArena) : ({ arena } : Workspace).Idle := by
  intro n
  simp [held, node?]

theorem Idle.add (h : w.Idle) (hguard : node.guard = {}) : (w.add node).2.Idle := by
  intro n
  rw [held, node?_add]
  split
  · simp [hguard]
  · exact h n

theorem Idle.reshape (h : w.Idle) (n : NodeId) (shape : Shape) : (w.reshape n shape).Idle := by
  have hheld : (w.reshape n shape).held = w.held :=
    held_modify (f := fun node => { node with shape }) fun _ => rfl
  rw [Idle, hheld]
  exact h

theorem Performs.idle {action : Action} (h : w.Performs action w') (hw : w.Idle) : w'.Idle := by
  rcases h with _ | _ | ⟨node, hguard⟩ | ⟨name, members, start⟩ | _ | _ | ⟨n, complete⟩
  · exact hw
  · exact hw
  · exact hw.add hguard
  · exact Idle.add (w := { w with arena := (w.arena.struct name).2 }) hw rfl
  · exact hw.reshape _ _
  · exact hw.reshape _ _
  · rw [Idle, (w.produced n complete).held_eq]
    exact hw

theorem Idle.run (h : w.Idle) (actions : List Action) : (w.run actions).Idle :=
  run_preserves Performs.idle h actions

/-! ### Nodes refer to nodes -/

/-- Whatever a node refers to is there. -/
def Closed (w : Workspace) : Prop :=
  ∀ n m, w.Refers n m → (w.node? m).isSome

theorem closed_empty (arena : TypeArena) : ({ arena } : Workspace).Closed := by
  rintro n m ⟨node, hn, -⟩
  simp [node?] at hn

theorem Closed.congr (h : w.Closed) (hskeleton : w'.skeleton = w.skeleton) : w'.Closed := by
  intro n m hrefers
  rw [isSome_node?_congr hskeleton]
  exact h n m (refers_congr hskeleton ▸ hrefers)

/-- A node of a workspace is one of every later workspace. -/
theorem GraphGrows.isSome (h : w.GraphGrows w') (hn : (w.node? n).isSome) :
    (w'.node? n).isSome := by
  obtain ⟨node, hn⟩ := Option.isSome_iff_exists.mp hn
  obtain ⟨s', hs', -⟩ := h n _ (shape?_eq hn)
  obtain ⟨node', hn', -⟩ := Option.map_eq_some_iff.mp hs'
  exact Option.isSome_of_eq_some hn'

/-- The references of a node after it declares something else. -/
theorem refers_reshape {l : NodeId} (h : (w.reshape n shape).Refers m l) :
    w.Refers m l ∨ m = n ∧ l ∈ ({ shape } : Node).refs := by
  obtain ⟨node, hm, hl⟩ := h
  obtain ⟨old, hold, hnode⟩ := node?_modify_eq_some hm
  by_cases hmn : m = n
  · rw [if_pos hmn] at hnode
    rw [hnode] at hl
    exact Or.inr ⟨hmn, hl⟩
  · rw [if_neg hmn] at hnode
    exact Or.inl ⟨old, hold, hnode ▸ hl⟩

theorem Closed.add (h : w.Closed) (hrefs : ∀ m ∈ node.refs, (w.node? m).isSome) :
    (w.add node).2.Closed := by
  rintro n m ⟨node', hn, hm⟩
  refine (w.graphGrows_add node).isSome ?_
  rw [node?_add] at hn
  split at hn
  · rw [← Option.some.inj hn] at hm
    exact hrefs m hm
  · exact h n m ⟨node', hn, hm⟩

theorem Closed.reshape {before : Shape} (h : w.Closed) (hs : w.shape? n = some before)
    (hgrows : before.Grows shape)
    (hrefs : ∀ m ∈ ({ shape } : Node).refs, (w.node? m).isSome) : (w.reshape n shape).Closed := by
  intro m l hl
  refine (graphGrows_reshape hs hgrows).isSome ?_
  rcases refers_reshape hl with hold | ⟨-, hnew⟩
  · exact h m l hold
  · exact hrefs l hnew

/-- A struct that is closed stays so when a member is added that is there. -/
theorem Closed.push {struct member : NodeId} {decorations : List Decoration} {type : Ty}
    {layout : Layout} (h : w.Closed) (hs : w.shape? struct = some (.struct type layout))
    (hm : (w.node? member).isSome) :
    (w.reshape struct (.struct type (layout.push { decorations, type := member }))).Closed := by
  refine h.reshape hs (.struct _ (Layout.grows_push _ _)) fun l hl => ?_
  obtain ⟨node, hn, hshape⟩ := Option.map_eq_some_iff.mp hs
  have hl' : l ∈ layout.members.map Member.type ∨ l = member := by
    simpa [Node.refs, Layout.push] using hl
  rcases hl' with hl | rfl
  · exact h struct l ⟨node, hn, by rwa [Node.refs, hshape]⟩
  · exact hm

theorem Performs.closed {action : Action} (h : w.Performs action w') (hw : w.Closed) :
    w'.Closed := by
  rcases h with _ | _ | ⟨node, -, -, -, hrefs⟩ | ⟨name, members, start, hrefs⟩ | ⟨hs, hm⟩ |
    ⟨hs, -, hm⟩ | ⟨n, complete⟩
  · exact hw
  · exact hw
  · exact hw.add hrefs
  · refine Closed.add (w := { w with arena := (w.arena.struct name).2 }) hw fun m hm => ?_
    simp only [Node.refs, Layout.members_ofMembers, List.map_map, List.mem_map] at hm
    obtain ⟨member, hmember, rfl⟩ := hm
    exact hrefs member hmember
  · refine hw.reshape hs (.bound ..) fun l hl => ?_
    rw [List.mem_singleton.mp hl]
    exact hm
  · exact hw.push hs hm
  · intro l m hr
    have hproduced := w.produced n complete
    exact hproduced.graphGrows.isSome (hw l m (refers_of_skeleton_eq hproduced.skeleton_eq hr))

theorem Closed.run (h : w.Closed) (actions : List Action) : (w.run actions).Closed :=
  run_preserves Performs.closed h actions

end Workspace

end ShaderLowering
