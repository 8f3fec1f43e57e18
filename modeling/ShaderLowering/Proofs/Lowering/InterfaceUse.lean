import Mathlib.Data.Finset.Image
import Mathlib.Data.Set.Finite.Basic
import ShaderLowering.Proofs.Lowering.Correspondence
import ShaderLowering.Proofs.Lowering.Cycles
import ShaderLowering.Proofs.TypeGraph.Stability

/-!
# What can be done with the interface struct afterwards

When a unit has been put together the pointers of its graph are detached, and a pointer
without a pointee can never be produced again. Whoever goes through the interface struct
then, member by member, has to find every type made already.

Not everything that was asked for is as it should be by that alone. An array may have been
asked for by somebody who wanted nothing complete, and is not looked at again when the
struct is laid out. But the members of the struct are checked: values of them can be stored.
That takes a body for every struct in them, whichever way it is contained, and only a struct
that is complete has one (`ShaderLowering.Workspace.Untouched`). So from the check it follows
that all nodes inside are settled (`ShaderLowering.lower_interface_finished`).
-/

namespace ShaderLowering

namespace Workspace

variable {w : Workspace} {n m : NodeId} {t : Ty} {layout : Layout}

/-! ### Nodes of whose types values can be stored -/

/-- The node has a type, of which values can be stored. -/
def Stored (w : Workspace) (n : NodeId) : Prop :=
  ∃ t, w.handle? n = some t ∧ w.arena.isSized t = true

/-- A struct of which values can be stored is complete. -/
theorem Untouched.complete_of_isSized (h : w.Untouched n)
    (hs : w.shape? n = some (.struct t layout)) (ht : w.arena.isSized t = true) :
    layout.complete = true := by
  by_contra hcon
  obtain ⟨name, packed, hdata⟩ := h t layout hs (Bool.eq_false_iff.mpr hcon)
  exact absurd ((TypeArena.isSized_iff_of_data? hdata).mp ht).1 (by simp [TypeData.isStorable])

theorem Stored.complete (h : w.Stored n) (hu : w.Untouched n)
    (hs : w.shape? n = some (.struct t layout)) : layout.complete = true := by
  obtain ⟨t', ht', hsized⟩ := h
  rw [handle?_eq hs] at ht'
  obtain rfl : t = t' := Option.some.inj ht'
  exact hu.complete_of_isSized hs hsized

/-- **Values of what is held can be stored** if values of the node can. -/
theorem Stored.of_holds (h : w.Stored n) (hw : w.Faithful) (hu : w.Untouched n)
    (hm : w.Holds n m) : w.Stored m := by
  obtain ⟨t, ht, hsized⟩ := h
  obtain ⟨hrefers, hpointer⟩ := hm
  obtain ⟨shape, hs, hhandle⟩ := Option.bind_eq_some_iff.mp ht
  rw [refers_iff_of_shape? hs] at hrefers
  cases shape with
  | simple type => exact (List.not_mem_nil hrefers).elim
  | formed former made =>
    obtain rfl : made = some t := hhandle
    obtain ⟨data, hdata, himage⟩ := hw.formed n former t hs
    obtain ⟨hstorable, hparts⟩ := (TypeArena.isSized_iff_of_data? hdata).mp hsized
    cases himage with
    | pointer => exact absurd ⟨_, _, _, hs⟩ hpointer
    | function => exact absurd hstorable (by simp [TypeData.isStorable])
    | @array element count type htype =>
      obtain rfl : m = element := List.mem_singleton.mp hrefers
      exact ⟨type, htype, hparts type (List.mem_singleton_self _)⟩
  | struct type layout =>
    obtain rfl : type = t := Option.some.inj hhandle
    obtain ⟨body, hbody, htypes⟩ := hw.exists_body hs (hu.complete_of_isSized hs hsized)
    obtain ⟨member, hmember, hmemberHandle⟩ := exists_of_forall₂_left htypes hrefers
    exact ⟨member, hmemberHandle, (TypeArena.isSized_iff_of_body? hbody).mp hsized member hmember⟩

/-- The struct of which values can be stored is the node of one. -/
theorem Storable.stored (h : w.Storable n) : w.Stored n := by
  obtain ⟨t, body, ht, hbody, hmembers⟩ := h
  obtain ⟨layout, hs⟩ := structType?_eq_some_iff.mp ht
  exact ⟨t, handle?_eq hs, (TypeArena.isSized_iff_of_body? hbody).mpr hmembers⟩

/-- A node of which values can be stored has nothing left to lay out. -/
theorem Stored.settledOn (h : w.Stored n) (hu : w.Untouched n) (ht : w.handle? n = some t) :
    w.SettledOn n t where
  handle := ht
  complete := by
    rintro ⟨type, layout, hs⟩
    exact ⟨layout, layout?_eq_some_iff.mpr ⟨type, hs⟩, h.complete hu hs⟩

/-- What is settled stays so when pointers are detached. -/
theorem SettledOn.detachAll (h : w.SettledOn n t) : w.detachAll.SettledOn n t where
  handle := w.handle?_detachAll ▸ h.handle
  complete := by
    rintro ⟨type, layout, hs⟩
    rw [isComplete_detachAll]
    exact h.complete ⟨type, layout, shape?_detachAll_struct.mp hs⟩

/-! ### Nodes that are finished -/

/-- Whatever the node is asked for, it answers with the type, and nothing changes. -/
def Gives (w : Workspace) (n : NodeId) (t : Ty) : Prop :=
  ∀ complete, w.produce n complete = (.ok t, w)

/-- **The node is finished**: it gives a type. If it is a pointer, it has no pointee. If it is
a struct, it is complete, its members are numbered, and its type has the body of the types
that these give. If it is an array, its type is that of arrays of what its element gives. It is
no function. -/
structure Finished (w : Workspace) (n : NodeId) : Prop where
  gives : ∃ t, w.Gives n t
  pointer : ∀ pointee storage made, w.shape? n = some (.formed (.pointer pointee storage) made) →
    pointee = none
  struct : ∀ t layout, w.shape? n = some (.struct t layout) →
    w.Gives n t ∧ layout.complete = true ∧
      (∀ (k : Nat) (member : Member), layout.members[k]? = some member →
        member.bodyIndex = some k) ∧
      ∃ body, w.arena.body? t = some body ∧
        List.Forall₂ w.Gives (layout.members.map Member.type) body
  array : ∀ element count made, w.shape? n = some (.formed (.array element count) made) →
    ∃ t type, w.Gives n t ∧ w.arena.data? t = some (.array type count) ∧ w.Gives element type
  function : ¬w.IsFunction n

/-- Nodes of which values can be stored give their types, and so do their parts. -/
theorem Stored.gives (h : w.Stored n) (hu : w.Untouched n) (ht : w.handle? n = some t) :
    w.detachAll.Gives n t :=
  (h.settledOn hu ht).detachAll.produce_eq

/-- **A node of which values can be stored is finished** when pointers are detached. -/
theorem Stored.finished (h : w.Stored n) (hw : w.Faithful) (hu : ∀ m, w.Untouched m) :
    w.detachAll.Finished n := by
  have ⟨t, ht, hsized⟩ := h
  have hinner {m : NodeId} {type : Ty} (hm : w.Holds n m) (htype : w.handle? m = some type) :
      w.detachAll.Gives m type :=
    (h.of_holds hw (hu n) hm).gives (hu m) htype
  refine ⟨⟨t, h.gives (hu n) ht⟩, fun _ _ _ hs => pointer_of_detachAll hs, fun type layout hs => ?_,
    fun element count made hs => ?_, ?_⟩
  · rw [shape?_detachAll_struct] at hs
    have hc := h.complete (hu n) hs
    obtain ⟨body, hbody, htypes⟩ := hw.exists_body hs hc
    refine ⟨h.gives (hu n) (handle?_eq hs), hc, fun k member hk => hw.placed hs hc hk,
      body, hbody, ?_⟩
    have hheld : ∀ m ∈ layout.members.map Member.type, w.Holds n m :=
      fun m hm => holds_of_shape? hs nofun hm
    exact ((List.forall₂_and_left _ _).mpr ⟨hheld, htypes⟩).imp fun m type hm => hinner hm.1 hm.2
  · rw [shape?_detachAll_iff (by simp)] at hs
    have hheld : w.Holds n element := holds_of_shape? hs nofun (List.mem_singleton_self _)
    rw [handle?_eq hs] at ht
    obtain rfl : made = some t := ht
    obtain ⟨data, hdata, himage⟩ := hw.formed n _ t hs
    cases himage with
    | @array _ _ type htype =>
      exact ⟨t, type, h.gives (hu n) (handle?_eq hs), hdata, hinner hheld htype⟩
  · rintro ⟨result, args, variadic, made, hs⟩
    rw [shape?_detachAll_iff (by simp)] at hs
    rw [handle?_eq hs] at ht
    obtain rfl : made = some t := ht
    obtain ⟨data, hdata, himage⟩ := hw.formed n _ t hs
    cases himage with
    | function =>
      exact absurd ((TypeArena.isSized_iff_of_data? hdata).mp hsized).1
        (by simp [TypeData.isStorable])

/-- Values of all nodes that are reached can be stored. -/
theorem Stored.reaches (h : w.Stored n) (hw : w.Faithful) (hu : ∀ m, w.Untouched m)
    (hm : w.detachAll.Reaches n m) : w.Stored m := by
  induction hm with
  | refl => exact h
  | tail _ hrefers ih =>
    rw [refers_detachAll] at hrefers
    exact ih.of_holds hw (hu _) hrefers

/-- Only so many nodes have types. -/
theorem finite_of_handle? (w : Workspace) {P : NodeId → Prop}
    (h : ∀ n, P n → (w.handle? n).isSome) : {n | P n}.Finite := by
  refine (Finset.finite_toSet ((Finset.range w.graph.nodes.size).image NodeId.mk)).subset
    fun n hn => ?_
  obtain ⟨t, ht⟩ := Option.isSome_iff_exists.mp (h n hn)
  have hthere := isSome_shape?_of_handle? ht
  rw [shape?, Option.isSome_map] at hthere
  exact Finset.mem_coe.mpr (Finset.mem_image.mpr
    ⟨n.index, Finset.mem_range.mpr (lt_size_iff.mpr hthere), rfl⟩)

end Workspace

open Workspace Declarations

/-- **The interface struct can be used as it is.** If a shader is lowered and has an interface
struct, then finitely many nodes are reached from it in the end, no node leads back to itself,
and all that are reached are finished: whatever they are asked for they answer with their
types, which are those that the types around them contain, and nothing changes. -/
theorem lower_interface_finished {arena : TypeArena} {shader : ShaderModule} {name : String}
    {m : LoweredModule} {n : NodeId} (hu : arena.Uniqued) (h : lower arena shader name = .ok m)
    (hn : m.interfaceStruct = some n) :
    {k | m.workspace.Reaches n k}.Finite ∧
      (∀ k, ¬Relation.TransGen m.workspace.Refers k k) ∧
      ∀ k, m.workspace.Reaches n k → m.workspace.Finished k := by
  obtain ⟨d, hd, hemit⟩ := of_bind_eq_ok h
  have hsound := sound_ofInstructions hd
  obtain ⟨w, hw, heq⟩ := asking_of_emit hemit
  have hfaithful : w.Faithful := hw.faithful (hsound.faithful hu)
  have huntouched : ∀ k, w.Untouched k :=
    (hsound.history.trans (hw.imp fun _ ha => ha.plain.givesNoBody)).untouched hu
  have hstored : w.Stored n := by
    have hstorable := ((hsound.emit hu hemit).2 n hn).stored
    rwa [heq, Stored, handle?_detachAll] at hstorable
  rw [heq]
  refine ⟨w.finite_of_handle? fun k hk => ?_, fun k => ?_, fun k hk => ?_⟩
  · obtain ⟨t, ht, -⟩ := hstored.reaches hfaithful huntouched hk
    exact Option.isSome_of_eq_some ht
  · rw [refers_detachAll]
    exact ((ordered_ofInstructions hd).untangled hsound hw).holds k
  · exact (hstored.reaches hfaithful huntouched hk).finished hfaithful huntouched

/-- A shader with an output that is an array of structs, each of which has a pointer to such
structs, declared ahead of them. -/
theorem lower_interface_finished_list :
    let instructions : List Instruction :=
      [⟨22, [2, 32], 5, 8⟩, ⟨39, [3, 6], 8, 11⟩, ⟨30, [4, 2, 3], 11, 15⟩, ⟨32, [3, 6, 4], 15, 19⟩,
        ⟨21, [5, 32, 0], 19, 23⟩, ⟨43, [5, 6, 4], 23, 27⟩, ⟨28, [7, 4, 6], 27, 31⟩,
        ⟨32, [8, 3, 7], 31, 35⟩, ⟨59, [8, 9, 3], 35, 39⟩]
    ∃ m, lower {} ⟨⟨1, 0, 0, 10⟩, instructions⟩ "unit" = .ok m ∧
      m.interfaceStruct = some ⟨6⟩ ∧ m.workspace.Reaches ⟨6⟩ ⟨1⟩ ∧
      {k | m.workspace.Reaches ⟨6⟩ k}.Finite ∧
      (∀ k, ¬Relation.TransGen m.workspace.Refers k k) ∧ m.workspace.Finished ⟨1⟩ := by
  intro instructions
  have hrun : (lower {} ⟨⟨1, 0, 0, 10⟩, instructions⟩ "unit").toOption.map
      (fun m => (m.interfaceStruct, [6, 4, 2].map fun k => (m.workspace.node? ⟨k⟩).map Node.refs)) =
      some (some ⟨6⟩, [some [⟨4⟩], some [⟨2⟩], some [⟨0⟩, ⟨1⟩]]) := by
    decide +kernel
  obtain ⟨m, h, hm⟩ := of_toOption_map_eq_some hrun
  obtain ⟨hinterface, hrefs⟩ := Prod.mk.inj hm
  simp only [List.map_cons, List.map_nil, List.cons.injEq, and_true] at hrefs
  obtain ⟨harray, hstruct, hpointer⟩ := hrefs
  have hrefers {k l : NodeId} {refs : List NodeId}
      (hk : (m.workspace.node? k).map Node.refs = some refs) (hl : l ∈ refs) :
      m.workspace.Refers k l := by
    obtain ⟨node, hn, rfl⟩ := Option.map_eq_some_iff.mp hk
    exact ⟨node, hn, hl⟩
  have hreaches : m.workspace.Reaches ⟨6⟩ ⟨1⟩ :=
    ((Relation.ReflTransGen.single (hrefers harray (by simp))).tail
      (hrefers hstruct (by simp))).tail (hrefers hpointer (by simp))
  obtain ⟨hfinite, hacyclic, hfinished⟩ :=
    lower_interface_finished TypeArena.uniqued_empty h hinterface
  exact ⟨m, h, hinterface, hreaches, hfinite, hacyclic, hfinished _ hreaches⟩

end ShaderLowering
