import ShaderLowering.Proofs.TypeGraph.Image

/-!
# How a graph grows

Nodes are added to a graph and never taken away. A node that is there goes on declaring
what it declared, with three exceptions that all go one way: a pointer without a pointee
gets one, a struct gets more members behind those it has, and what is found out about a
struct – that it is complete, that it lies within itself – stays found out. So the nodes
that a node refers to only ever become more
(`ShaderLowering.Workspace.GraphGrows.refers`).
-/

namespace ShaderLowering

/-- What the layout of a struct may become. -/
structure Layout.Grows (l l' : Layout) : Prop where
  types : l.members.map Member.type <+: l'.members.map Member.type
  complete : l.complete = true → l'.complete = true
  looped : l.containsItself = true → l'.containsItself = true

/-- What the shape of a node may become. -/
inductive Shape.Grows : Shape → Shape → Prop
  /-- A simple node stays as it is. -/
  | simple (type : Ty) : Grows (.simple type) (.simple type)
  /-- A formed node keeps its former. -/
  | formed (former : Former) (made made' : Option Ty) :
    Grows (.formed former made) (.formed former made')
  /-- A pointer without a pointee gets one. -/
  | bound (pointee : NodeId) (storage : StorageClass) (made made' : Option Ty) :
    Grows (.formed (.pointer none storage) made) (.formed (.pointer (some pointee) storage) made')
  /-- A struct keeps its type. -/
  | struct (type : Ty) {l l' : Layout} (h : l.Grows l') :
    Grows (.struct type l) (.struct type l')

theorem Layout.Grows.refl (l : Layout) : l.Grows l :=
  ⟨List.prefix_rfl, id, id⟩

theorem Layout.Grows.trans {l l' l'' : Layout} (h : l.Grows l') (h' : l'.Grows l'') :
    l.Grows l'' :=
  ⟨h.types.trans h'.types, h'.complete ∘ h.complete, h'.looped ∘ h.looped⟩

theorem Layout.grows_looped (l : Layout) : l.Grows l.looped :=
  ⟨List.prefix_rfl, id, fun _ => rfl⟩

theorem Layout.grows_laidOut (l : Layout) : l.Grows l.laidOut :=
  ⟨(Layout.types_of_skeleton_eq l.skeleton_laidOut) ▸ List.prefix_rfl, fun _ => rfl, id⟩

theorem Layout.grows_push (l : Layout) (m : Member) : l.Grows (l.push m) :=
  ⟨by simp [push], id, id⟩

namespace Shape.Grows

variable {s s' s'' : Shape}

theorem refl (s : Shape) : s.Grows s :=
  match s with
  | .simple type => .simple type
  | .formed former made => .formed former made made
  | .struct type l => .struct type (.refl l)

theorem trans (h : s.Grows s') (h' : s'.Grows s'') : s.Grows s'' := by
  cases h with
  | simple type => exact h'
  | formed former made made' =>
    cases h' with
    | formed _ _ made'' => exact .formed former made made''
    | bound pointee storage _ made'' => exact .bound pointee storage made made''
  | bound pointee storage made made' =>
    cases h' with
    | formed _ _ made'' => exact .bound pointee storage made made''
  | struct type hl =>
    cases h' with
    | struct _ hl' => exact .struct type (hl.trans hl')

end Shape.Grows

namespace Workspace

variable {u v w w' : Workspace} {n m : NodeId}

/-- Every node of the first workspace is one of the second, and declares what it did or
more. -/
def GraphGrows (w w' : Workspace) : Prop :=
  ∀ n s, w.shape? n = some s → ∃ s', w'.shape? n = some s' ∧ s.Grows s'

/-- One node refers to another. -/
def Refers (w : Workspace) (n m : NodeId) : Prop :=
  ∃ node, w.node? n = some node ∧ m ∈ node.refs

/-- The node is a pointer, bound or not. -/
def IsPointer (w : Workspace) (n : NodeId) : Prop :=
  ∃ pointee storage made, w.shape? n = some (.formed (.pointer pointee storage) made)

/-- The node is a struct. -/
def IsStruct (w : Workspace) (n : NodeId) : Prop :=
  ∃ type layout, w.shape? n = some (.struct type layout)

/-- The node is a struct that is complete: its type has the body it was laid out with. -/
def IsComplete (w : Workspace) (n : NodeId) : Prop :=
  ∃ layout, w.layout? n = some layout ∧ layout.complete = true

/-- What a node refers to can be seen by its shape. -/
theorem refers_iff_of_shape? {shape : Shape} (hs : w.shape? n = some shape) :
    w.Refers n m ↔ m ∈ ({ shape } : Node).refs := by
  obtain ⟨node, hn, rfl⟩ := Option.map_eq_some_iff.mp hs
  constructor
  · rintro ⟨node', hn', hm⟩
    obtain rfl := Option.some.inj (hn.symm.trans hn')
    exact hm
  · intro hm
    exact ⟨node, hn, hm⟩

theorem not_isStruct_of_formed {former : Former} {made : Option Ty}
    (hs : w.shape? n = some (.formed former made)) : ¬w.IsStruct n := by
  rintro ⟨t, layout, hstruct⟩
  rw [hs] at hstruct
  exact absurd hstruct (by simp)

namespace GraphGrows

theorem refl (w : Workspace) : w.GraphGrows w :=
  fun _ s h => ⟨s, h, .refl s⟩

theorem trans (h : u.GraphGrows v) (h' : v.GraphGrows w) : u.GraphGrows w := by
  intro n s hs
  obtain ⟨s', hs', hgrows⟩ := h n s hs
  obtain ⟨s'', hs'', hgrows'⟩ := h' n s' hs'
  exact ⟨s'', hs'', hgrows.trans hgrows'⟩

theorem congr (h : w'.shape? = w.shape?) : w.GraphGrows w' :=
  fun n s hs => ⟨s, by rw [h, hs], .refl s⟩

/-- A change of one node to what it may become. -/
theorem modify {f : Node → Node} (h : ∀ node : Node, node.shape.Grows (f node).shape) :
    w.GraphGrows (w.modify n f) := by
  intro m s hs
  by_cases hmn : m = n
  · subst hmn
    obtain ⟨node, hn, rfl⟩ := Option.map_eq_some_iff.mp hs
    exact ⟨_, shape?_modify_self hn f, h node⟩
  · exact ⟨s, by rwa [shape?_modify_of_ne hmn], .refl s⟩

theorem isComplete (h : w.GraphGrows w') (hn : w.IsComplete n) : w'.IsComplete n := by
  obtain ⟨layout, hlayout, hc⟩ := hn
  obtain ⟨t, hs⟩ := layout?_eq_some_iff.mp hlayout
  obtain ⟨s', hs', hgrows⟩ := h n _ hs
  cases hgrows with
  | struct _ hl => exact ⟨_, layout?_eq_some_iff.mpr ⟨t, hs'⟩, hl.complete hc⟩

theorem looped (h : w.GraphGrows w') (hn : w.Looped n) : w'.Looped n := by
  obtain ⟨layout, hlayout, hc⟩ := hn
  obtain ⟨t, hs⟩ := layout?_eq_some_iff.mp hlayout
  obtain ⟨s', hs', hgrows⟩ := h n _ hs
  cases hgrows with
  | struct _ hl => exact ⟨_, layout?_eq_some_iff.mpr ⟨t, hs'⟩, hl.looped hc⟩

theorem structType? (h : w.GraphGrows w') {t : Ty} (hn : w.structType? n = some t) :
    w'.structType? n = some t := by
  obtain ⟨layout, hs⟩ := structType?_eq_some_iff.mp hn
  obtain ⟨s', hs', hgrows⟩ := h n _ hs
  cases hgrows with
  | struct _ hl => exact structType?_eq_some_iff.mpr ⟨_, hs'⟩

/-- References stay. -/
theorem refers (h : w.GraphGrows w') (hr : w.Refers n m) : w'.Refers n m := by
  obtain ⟨node, hn, hm⟩ := hr
  obtain ⟨s', hs', hgrows⟩ := h n _ (shape?_eq hn)
  obtain ⟨node', hn', rfl⟩ := Option.map_eq_some_iff.mp hs'
  refine ⟨node', hn', ?_⟩
  obtain ⟨start, guard, shape⟩ := node
  obtain ⟨start', guard', shape'⟩ := node'
  cases hgrows with
  | simple type => exact hm
  | formed former => exact hm
  | bound => exact nomatch hm
  | struct _ hl => exact hl.types.subset hm

/-- A node that is no pointer does not become one. -/
theorem not_isPointer (h : w.GraphGrows w') (hr : w.Refers n m) (hn : ¬w.IsPointer n) :
    ¬w'.IsPointer n := by
  rintro ⟨pointee, storage, made, hp⟩
  obtain ⟨node, hnode, -⟩ := hr
  obtain ⟨s', hs', hgrows⟩ := h n _ (shape?_eq hnode)
  rw [hp, Option.some.injEq] at hs'
  refine hn ?_
  rw [IsPointer, shape?_eq hnode]
  obtain ⟨start, guard, shape⟩ := node
  cases hgrows with
  | simple => exact absurd hs' (by simp)
  | formed former made₀ => cases hs'; exact ⟨_, _, _, rfl⟩
  | bound => exact ⟨_, _, _, rfl⟩
  | struct => exact absurd hs' (by simp)

end GraphGrows

/-! ### Pointees -/

/-- The pointee of a pointer node that has one. -/
def pointee? (w : Workspace) (n : NodeId) : Option NodeId :=
  (w.node? n).bind Node.pointee?

theorem pointee?_eq_some_iff :
    w.pointee? n = some m ↔
      ∃ storage made, w.shape? n = some (.formed (.pointer (some m) storage) made) := by
  rw [pointee?, shape?]
  rcases w.node? n with _ | ⟨start, guard, _ | ⟨⟨_ | _, _⟩ | _ | _, made⟩ | _⟩
  all_goals simp [Node.pointee?, Node.former?]

/-- What a pointer points to is part of its skeleton. -/
theorem pointee?_congr (h : w'.skeleton = w.skeleton) : w'.pointee? n = w.pointee? n := by
  refine Option.ext fun m => ?_
  rw [pointee?_eq_some_iff, pointee?_eq_some_iff]
  constructor
  · rintro ⟨storage, made, hs⟩
    obtain ⟨made', hs'⟩ := formed_of_skeleton_eq h.symm hs
    exact ⟨storage, made', hs'⟩
  · rintro ⟨storage, made, hs⟩
    obtain ⟨made', hs'⟩ := formed_of_skeleton_eq h hs
    exact ⟨storage, made', hs'⟩

theorem former?_of_pointee? (h : w.pointee? n = some m) :
    ∃ storage, (w.node? n).bind Node.former? = some (.pointer (some m) storage) := by
  obtain ⟨storage, made, hs⟩ := pointee?_eq_some_iff.mp h
  obtain ⟨node, hn, hshape⟩ := Option.map_eq_some_iff.mp hs
  exact ⟨storage, by rw [hn, Option.bind_some, Node.former?, hshape]⟩

/-- A pointer that is bound stays bound to what it is bound to. -/
theorem GraphGrows.pointee? (h : w.GraphGrows w') (hn : w.pointee? n = some m) :
    w'.pointee? n = some m := by
  obtain ⟨storage, made, hs⟩ := pointee?_eq_some_iff.mp hn
  obtain ⟨s', hs', hgrows⟩ := h n _ hs
  cases hgrows with
  | formed _ _ made' => exact pointee?_eq_some_iff.mpr ⟨storage, made', hs'⟩

end Workspace

/-! ### Production -/

theorem Node.grows_withMade (node : Node) (type : Ty) :
    node.shape.Grows (node.withMade type).shape := by
  obtain ⟨start, guard, shape⟩ := node
  cases shape with
  | formed former made => exact .formed former made _
  | _ => exact .refl _

theorem Node.grows_mapLayout (node : Node) {f : Layout → Layout} (h : ∀ l : Layout, l.Grows (f l)) :
    node.shape.Grows (node.mapLayout f).shape := by
  obtain ⟨start, guard, shape⟩ := node
  cases shape with
  | struct type l => exact .struct type (h l)
  | _ => exact .refl _

namespace Workspace

theorem graphGrows_leave (w : Workspace) (n : NodeId) : w.GraphGrows (w.leave n) :=
  .congr (w.shape?_leave n)

theorem graphGrows_form (w : Workspace) (n : NodeId) (data : TypeData) :
    w.GraphGrows (w.form n data) :=
  .modify fun node => node.grows_withMade _

theorem graphGrows_layOut (w : Workspace) (n : NodeId) (arena : TypeArena) :
    w.GraphGrows (w.layOut n arena) :=
  .modify fun node => node.grows_mapLayout Layout.grows_laidOut

/-- A step of a production makes the graph grow. -/
theorem Works.graphGrows {w w' : Workspace} (h : w.Works w') : w.GraphGrows w' := by
  cases h with
  | enter n => exact .congr (w.shape?_enter n)
  | leave n => exact w.graphGrows_leave n
  | looped => exact .modify fun node => node.grows_mapLayout Layout.grows_looped
  | form => exact w.graphGrows_form _ _
  | layOut => exact w.graphGrows_layOut _ _

end Workspace

/-- Production makes the graph grow. -/
theorem Produced.graphGrows {r : Request} {w w' : Workspace} {result : Except Diagnostic Ty}
    (h : Produced r w result w') : w.GraphGrows w' :=
  h.keeps Workspace.GraphGrows.refl Workspace.GraphGrows.trans Workspace.Works.graphGrows

theorem InTurn.graphGrows {rs : List Request} {w w' : Workspace}
    {result : Except Diagnostic (List Ty)} (h : InTurn Produced rs w result w') :
    w.GraphGrows w' :=
  (h.imp fun _ _ _ _ h => h.graphGrows).keeps Workspace.GraphGrows.refl
    Workspace.GraphGrows.trans

end ShaderLowering
