import ShaderLowering.Proofs.TypeGraph.Acceptance

/-!
# Which nodes have values that can be stored

Whether values of a type can be stored is looked up in the arena, where it depends on which
structs have their bodies. Of a node in which nothing is left to lay out it can be read off
the graph instead (`ShaderLowering.Workspace.Course.isSized_iff`): the arena is an image of
the graph, and there is no struct in the image that may still get a body.
-/

namespace ShaderLowering

/-- What is true of all members of a list is true of all members of another that goes with
it. -/
theorem forall_mem_iff_of_forall₂ {α β : Type} {R : α → β → Prop} {P : α → Prop} {Q : β → Prop}
    {as : List α} {bs : List β} (h : List.Forall₂ R as bs)
    (hiff : ∀ a ∈ as, ∀ b, R a b → (Q b ↔ P a)) : (∀ b ∈ bs, Q b) ↔ ∀ a ∈ as, P a := by
  induction h with
  | nil => exact ⟨fun _ => List.forall_mem_nil _, fun _ => List.forall_mem_nil _⟩
  | @cons a b as bs hab _ ih =>
    rw [List.forall_mem_cons, List.forall_mem_cons, hiff a List.mem_cons_self b hab,
      ih fun a ha => hiff a (List.mem_cons_of_mem _ ha)]

/-- Values of a node of the shape can be stored, if those of the nodes in question can. -/
def Shape.Stores (arena : TypeArena) (stored : NodeId → Prop) : Shape → Prop
  | .simple type => arena.isSized type = true
  | .formed (.pointer _ _) _ => True
  | .formed (.function _ _ _) _ => False
  | .formed (.array element _) _ => stored element
  | .struct _ layout => ∀ m ∈ layout.members.map Member.type, stored m

namespace Workspace

variable {u w : Workspace} {n m : NodeId} {t : Ty} {asked : Request → Prop}

/-- **Values of the node can be stored**, the types of simple nodes being as they are and
all structs being complete. -/
inductive Sizable (w : Workspace) : NodeId → Prop
  /-- A type that refers to no other. -/
  | simple {n : NodeId} {type : Ty} (hs : w.shape? n = some (.simple type))
      (h : w.arena.isSized type = true) : Sizable w n
  /-- A pointer. -/
  | pointer {n : NodeId} {pointee : Option NodeId} {storage : StorageClass} {made : Option Ty}
      (hs : w.shape? n = some (.formed (.pointer pointee storage) made)) : Sizable w n
  /-- An array of what can be stored. -/
  | array {n element : NodeId} {count : Nat} {made : Option Ty}
      (hs : w.shape? n = some (.formed (.array element count) made)) (h : Sizable w element) :
    Sizable w n
  /-- A struct all of whose members can be stored. -/
  | struct {n : NodeId} {type : Ty} {layout : Layout}
      (hs : w.shape? n = some (.struct type layout))
      (h : ∀ m ∈ layout.members.map Member.type, Sizable w m) : Sizable w n

theorem sizable_iff {shape : Shape} (hs : w.shape? n = some shape) :
    w.Sizable n ↔ shape.Stores w.arena w.Sizable := by
  constructor
  · intro h
    cases h with
    | simple hs' h | pointer hs' | array hs' h | struct hs' h =>
      obtain rfl := Option.some.inj (hs.symm.trans hs')
      first | exact h | trivial
  · intro h
    rcases shape with type | ⟨_ | _ | _, made⟩ | ⟨type, layout⟩
    · exact .simple hs h
    · exact .pointer hs
    · exact h.elim
    · exact .array hs h
    · exact .struct hs h

/-! ### The graph and its image -/

/-- The types of simple nodes that are asked for are settled from the start. -/
theorem Separate.settled_simple (hu : u.Separate asked) (hn : asked ⟨n, true⟩)
    (hs : u.shape? n = some (.simple t)) : u.arena.Settled t := by
  obtain ⟨node, hnode, hshape⟩ := Option.map_eq_some_iff.mp hs
  have hknown : u.Knows n := ⟨node, t, hnode, by rw [Node.known?, hshape]⟩
  obtain ⟨hsimple, -, -⟩ := hu.settled n hn (Or.inl hknown)
  exact hsimple t hs

/-- **Whether values can be stored can be read off the graph**, once nothing in the node is
left to lay out. -/
theorem Course.isSized_iff (hu : u.Separate asked) (hw : u.Course asked w)
    (hn : asked ⟨n, true⟩) (hsettled : w.Settled n) (ht : w.handle? n = some t) :
    w.arena.isSized t = true ↔ u.Sizable n := by
  have hskeleton := hw.onward.skeleton.symm
  induction hsettled generalizing t with
  | @intro n simple struct inner ih =>
    have hinner {m : NodeId} (hm : w.Holds n m) {t : Ty} (ht : w.handle? m = some t) :
        w.arena.isSized t = true ↔ u.Sizable m := by
      refine ih m hm (hu.calls _ _ hn (.held ?_)) ht
      rwa [← holds_congr hw.onward.skeleton]
    obtain ⟨shape, hs, hhandle⟩ := Option.bind_eq_some_iff.mp ht
    cases shape with
    | simple type =>
      obtain rfl : type = t := Option.some.inj hhandle
      have hs' := simple_of_skeleton_eq hskeleton hs
      rw [sizable_iff hs', (hu.settled_simple hn hs').isSized_iff hw.onward.keeps.1]
      rfl
    | formed former made =>
      obtain rfl : made = some t := hhandle
      obtain ⟨made', hs'⟩ := formed_of_skeleton_eq hskeleton hs
      obtain ⟨data, hdata, himage⟩ := hw.faithful.formed n former t hs
      rw [sizable_iff hs', TypeArena.isSized_iff_of_data? hdata]
      cases himage with
      | pointer => simp [TypeData.isStorable, TypeData.contained, Shape.Stores]
      | function => simp [TypeData.isStorable, Shape.Stores]
      | @array element count type htype =>
        have hholds : w.Holds n element :=
          holds_of_shape? hs (by simp) (List.mem_singleton_self _)
        simp only [TypeData.isStorable, TypeData.contained, List.forall_mem_singleton, true_and]
        exact hinner hholds htype
    | struct type layout =>
      obtain rfl : type = t := Option.some.inj hhandle
      obtain ⟨layout', hs', hlayout⟩ := struct_of_skeleton_eq hskeleton hs
      obtain ⟨data, hdata, hl⟩ := hw.faithful.struct n type layout hs
      obtain ⟨layout₁, hlayout₁, hcomplete⟩ := struct ⟨type, layout, hs⟩
      rw [layout?_eq_some_iff.mpr ⟨type, hs⟩, Option.some.injEq] at hlayout₁
      obtain ⟨types, hbody, htypes⟩ := hl.body (hlayout₁ ▸ hcomplete)
      rw [sizable_iff hs', TypeArena.isSized_iff_of_data? hdata]
      simp only [TypeData.isStorable, TypeData.contained, hbody, Option.isSome_some,
        Option.getD_some, true_and, Shape.Stores, Layout.types_of_skeleton_eq hlayout]
      refine forall_mem_iff_of_forall₂ htypes fun m hm t ht => ?_
      exact hinner (holds_of_shape? hs (by simp) hm) ht

/-- The node stands for the type without values. -/
def IsVoid (w : Workspace) (n : NodeId) : Prop :=
  ∃ t, w.shape? n = some (.simple t) ∧ w.arena.data? t = some .void

/-- The type without values is that of a node that stands for it, and of no other. -/
theorem Course.isVoid_iff (hu : u.Separate asked) (hw : u.Course asked w)
    (hn : asked ⟨n, true⟩) (ht : w.handle? n = some t) :
    w.arena.data? t = some .void ↔ u.IsVoid n := by
  have hskeleton := hw.onward.skeleton
  constructor
  · intro hvoid
    obtain ⟨shape, hs, hhandle⟩ := Option.bind_eq_some_iff.mp ht
    cases shape with
    | simple type =>
      obtain rfl : type = t := Option.some.inj hhandle
      have hs' := simple_of_skeleton_eq hskeleton.symm hs
      refine ⟨type, hs', ?_⟩
      rw [← (hu.settled_simple hn hs').data?_eq hw.onward.keeps.1, hvoid]
    | formed former made =>
      obtain rfl : made = some t := hhandle
      obtain ⟨data, hdata, himage⟩ := hw.faithful.formed n former t hs
      obtain rfl := Option.some.inj (hdata.symm.trans hvoid)
      exact nomatch himage
    | struct type layout =>
      obtain rfl : type = t := Option.some.inj hhandle
      obtain ⟨data, hdata, -⟩ := hw.faithful.struct n type layout hs
      exact absurd (hdata.symm.trans hvoid) (by simp)
  · rintro ⟨type, hs, hvoid⟩
    rw [handle?_eq (simple_of_skeleton_eq hskeleton hs)] at ht
    obtain rfl : type = t := Option.some.inj ht
    exact hw.onward.keeps.1.data? hvoid trivial

end Workspace

end ShaderLowering
