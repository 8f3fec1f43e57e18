import ShaderLowering.Proofs.TypeGraph.Marks

/-!
# Graphs whose pointers are detached

When a unit has been put together, every pointer loses its pointee and keeps its type. The
other nodes stay as they are: the types of all nodes, the layouts of structs and whatever was
found out about them. What nodes refer to in the end is what they held before
(`ShaderLowering.Workspace.refers_detachAll`).
-/

namespace ShaderLowering

/-- What a node declares once it has no pointee. -/
def Shape.detached : Shape → Shape
  | .formed (.pointer _ storage) made => .formed (.pointer none storage) made
  | shape => shape

theorem Node.shape_detached (n : Node) : n.detached.shape = n.shape.detached := by
  obtain ⟨start, guard, _ | ⟨⟨_, _⟩ | _ | _, made⟩ | _⟩ := n
  all_goals rfl

namespace Workspace

variable {w : Workspace} {n m : NodeId} {t : Ty} {layout : Layout}

theorem node?_detachAll (w : Workspace) (n : NodeId) :
    w.detachAll.node? n = (w.node? n).map Node.detached := by
  simp [detachAll, node?]

theorem shape?_detachAll (w : Workspace) (n : NodeId) :
    w.detachAll.shape? n = (w.shape? n).map Shape.detached := by
  rw [shape?, shape?, node?_detachAll, Option.map_map, Option.map_map]
  exact Option.map_congr fun node _ => node.shape_detached

/-- Detaching the pointers leaves the other nodes alone. -/
theorem shape?_detachAll_iff {shape : Shape}
    (h : ∀ pointee storage made, shape ≠ .formed (.pointer pointee storage) made) :
    w.detachAll.shape? n = some shape ↔ w.shape? n = some shape := by
  rw [shape?_detachAll]
  rcases w.shape? n with _ | type | ⟨⟨pointee, storage⟩ | _ | _, made⟩ | _
  · exact Iff.rfl
  · exact Iff.rfl
  · refine iff_of_false (fun hcon => ?_) fun hcon => ?_
    · exact h none storage made (Option.some.inj hcon).symm
    · exact h pointee storage made (Option.some.inj hcon).symm
  · exact Iff.rfl
  · exact Iff.rfl
  · exact Iff.rfl

theorem shape?_detachAll_struct :
    w.detachAll.shape? n = some (.struct t layout) ↔ w.shape? n = some (.struct t layout) :=
  shape?_detachAll_iff nofun

/-- Detaching the pointers leaves the types of structs alone. -/
theorem structType?_detachAll (w : Workspace) : w.detachAll.structType? = w.structType? := by
  funext n
  refine Option.ext fun t => ?_
  rw [structType?_eq_some_iff, structType?_eq_some_iff]
  exact exists_congr fun layout => shape?_detachAll_struct

/-- Detaching the pointers leaves the types of nodes alone. -/
theorem handle?_detachAll (w : Workspace) : w.detachAll.handle? = w.handle? := by
  funext n
  rw [handle?, handle?, shape?_detachAll]
  rcases w.shape? n with _ | _ | ⟨⟨_, _⟩ | _ | _, made⟩ | _
  all_goals rfl

theorem layout?_detachAll (w : Workspace) : w.detachAll.layout? = w.layout? := by
  funext n
  refine Option.ext fun layout => ?_
  rw [layout?_eq_some_iff, layout?_eq_some_iff]
  exact exists_congr fun t => shape?_detachAll_struct

theorem looped_detachAll (w : Workspace) : w.detachAll.Looped = w.Looped :=
  looped_congr w.layout?_detachAll

theorem isComplete_detachAll (w : Workspace) : w.detachAll.IsComplete = w.IsComplete :=
  isComplete_congr w.layout?_detachAll

/-- A pointer has no pointee any more. -/
theorem pointer_of_detachAll {pointee : Option NodeId} {storage : StorageClass} {made : Option Ty}
    (h : w.detachAll.shape? n = some (.formed (.pointer pointee storage) made)) :
    pointee = none := by
  rw [shape?_detachAll] at h
  obtain ⟨shape, -, hshape⟩ := Option.map_eq_some_iff.mp h
  rcases shape with _ | ⟨⟨_, _⟩ | _ | _, made⟩ | _
  all_goals cases hshape
  rfl

/-- **What nodes refer to is what they held.** -/
theorem refers_detachAll (w : Workspace) : w.detachAll.Refers = w.Holds := by
  funext n m
  refine propext ?_
  cases hs : w.shape? n with
  | none =>
    have hnone : w.node? n = none := Option.map_eq_none_iff.mp hs
    simp [Holds, Refers, node?_detachAll, hnone]
  | some shape =>
    have hdetached : w.detachAll.shape? n = some shape.detached := by
      rw [shape?_detachAll, hs]
      rfl
    rw [Holds, refers_iff_of_shape? hdetached, refers_iff_of_shape? hs, IsPointer, hs]
    -- a pointer refers to nothing any more, and the others to what they did
    rcases shape with _ | ⟨⟨_, _⟩ | _ | _, made⟩ | _
    all_goals simp [Shape.detached, Node.refs, Former.refs]

end Workspace

end ShaderLowering
