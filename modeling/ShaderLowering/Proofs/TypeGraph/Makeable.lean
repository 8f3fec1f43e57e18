import ShaderLowering.Proofs.Target.Renaming
import ShaderLowering.Proofs.TypeGraph.Bound

/-!
# Requests that can be met

A request leads to others, and these to others again. It can be met if the nodes that are
asked for on the way are there, none of them is a pointer without a pointee, and there is an
end to them (`ShaderLowering.Workspace.Makeable`). All of this can be read off the graph:
what is known already has no part in it.

A request that can be met is always answered, by
`ShaderLowering.Produced.ok_of_ready`. The converse is true as long as nothing has to be
complete: a type is made of types that were made before it, so that there has been an end to
the requests (`ShaderLowering.Workspace.Faithful.makeable_of_handle?`), and it stays true
whatever is produced (`ShaderLowering.Produced.madeFrom`).
-/

namespace ShaderLowering

/-- Everything that a former refers to has its type among those of its image. -/
theorem Former.Image.exists_part {handle : NodeId → Option Ty} {former : Former}
    {data : TypeData} (hi : former.Image handle data) {m : NodeId} (hm : m ∈ former.refs) :
    ∃ t ∈ data.parts, handle m = some t := by
  cases hi with
  | @pointer pointee storage type ht =>
    obtain rfl : m = pointee := List.mem_singleton.mp hm
    exact ⟨type, List.mem_singleton_self _, ht⟩
  | function hresult hparams =>
    rcases List.mem_cons.mp hm with rfl | hm
    · exact ⟨_, List.mem_cons_self, hresult⟩
    · obtain ⟨t, ht, hhandle⟩ := exists_of_forall₂_left hparams hm
      exact ⟨t, List.mem_cons_of_mem _ ht, hhandle⟩
  | @array element count type ht =>
    obtain rfl : m = element := List.mem_singleton.mp hm
    exact ⟨type, List.mem_singleton_self _, ht⟩

namespace Workspace

variable {u w w' : Workspace} {n m : NodeId} {node : Node} {complete : Bool} {t : Ty}
  {former : Former} {r r' : Request}

/-! ### Requests that can be met -/

/-- **The request can be met**: its node is there and is no pointer without a pointee, and
the requests that it leads to can be met. -/
inductive Makeable (w : Workspace) : Request → Prop
  /-- The requests come to an end. -/
  | intro {r : Request} (there : (w.node? r.node).isSome)
      (bound : ∀ storage made, w.shape? r.node ≠ some (.formed (.pointer none storage) made))
      (inner : ∀ r', w.Calls r r' → Makeable w r') : Makeable w r

theorem Makeable.inner (h : w.Makeable r) (hcalls : w.Calls r r') : w.Makeable r' := by
  obtain ⟨-, -, hinner⟩ := h
  exact hinner r' hcalls

theorem Makeable.there (h : w.Makeable r) : (w.node? r.node).isSome := by
  obtain ⟨hthere, -, -⟩ := h
  exact hthere

theorem Makeable.bound (h : w.Makeable r) (storage : StorageClass) (made : Option Ty) :
    w.shape? r.node ≠ some (.formed (.pointer none storage) made) := by
  obtain ⟨-, hbound, -⟩ := h
  exact hbound storage made

/-- A request that can be met does not lead to itself. -/
theorem Makeable.not_transGen (h : w.Makeable r) : ¬Relation.TransGen w.Calls r r := by
  induction h with
  | @intro r there bound inner ih =>
    intro hcon
    obtain ⟨r', hcalls, hback⟩ := Relation.TransGen.head'_iff.mp hcon
    exact ih r' hcalls (Relation.TransGen.tail' hback hcalls)

/-- What can be met can be granted, however much is known. -/
theorem grantable_makeable (w : Workspace) : w.Grantable w.Makeable where
  calls _ _ h hcalls := h.inner hcalls
  there _ h := h.there
  bound _ h := h.bound
  not_holds _ h hcon :=
    h.not_transGen (hcon.lift (fun m => (⟨m, true⟩ : Request)) fun _ _ => .held)
  not_formedFrom _ h hcon :=
    h.not_transGen (hcon.lift (fun m => (⟨m, false⟩ : Request)) fun _ _ => .formed)

/-! ### Nodes that have their types -/

/-- What a formed node refers to is formed into it. -/
theorem formedFrom_iff {made : Option Ty} (hs : w.shape? n = some (.formed former made)) :
    w.FormedFrom n m ↔ m ∈ former.refs := by
  rw [FormedFrom, refers_iff_of_shape? hs]
  exact and_iff_left (not_isStruct_of_formed hs)

/-- What refers to other nodes without being a struct is formed from them. -/
theorem FormedFrom.exists_former (h : w.FormedFrom n m) :
    ∃ former made, w.shape? n = some (.formed former made) ∧ m ∈ former.refs := by
  obtain ⟨⟨node, hn, hm⟩, hstruct⟩ := h
  have hshape := shape?_eq hn
  obtain ⟨start, guard, shape⟩ := node
  rcases shape with type | ⟨former, made⟩ | ⟨type, layout⟩
  · exact (List.not_mem_nil hm).elim
  · exact ⟨former, made, hshape, hm⟩
  · exact absurd ⟨type, layout, hshape⟩ hstruct

/-- A type that was made without its structs can be made without them: it is made of types
that were made before it. -/
theorem Faithful.makeable_of_handle? (hw : w.Faithful) (hfounded : w.arena.Founded)
    (ht : w.handle? n = some t) : w.Makeable ⟨n, false⟩ := by
  -- by the place of the type in the arena
  obtain ⟨index, hindex⟩ : ∃ index, t.index = index := ⟨_, rfl⟩
  induction index using Nat.strong_induction_on generalizing n t with
  | _ index ih =>
    obtain ⟨shape, hshape, hhandle⟩ := Option.bind_eq_some_iff.mp ht
    obtain ⟨node, hn, -⟩ := Option.map_eq_some_iff.mp hshape
    refine .intro (Option.isSome_of_eq_some hn) (fun storage made hs => ?_) fun r' hcalls => ?_
    · rw [handle?_eq hs, hw.unbound hs] at ht
      exact absurd ht (by simp [Shape.handle?])
    · cases hcalls with
      | @formed _ m hformed =>
        obtain ⟨former, made, hs, hm⟩ := hformed.exists_former
        rw [handle?_eq hs] at ht
        obtain rfl : made = some t := ht
        obtain ⟨data, hdata, himage⟩ := hw.formed n former t hs
        obtain ⟨part, hpart, hpartHandle⟩ := himage.exists_part hm
        have hlt := hfounded.below t data hdata himage.isStructural part hpart
        exact ih part.index (by omega) hpartHandle rfl

/-- All types that there are can be made without their structs. -/
def MadeFrom (u w : Workspace) : Prop :=
  ∀ n t, w.handle? n = some t → u.Makeable ⟨n, false⟩

theorem MadeFrom.congr (h : u.MadeFrom w) (hhandle : w'.handle? = w.handle?) : u.MadeFrom w' := by
  rw [MadeFrom, hhandle]
  exact h

/-- A node is formed from nodes that have their types. -/
theorem MadeFrom.form (h : u.MadeFrom w) (hskeleton : w.skeleton = u.skeleton) {made : Option Ty}
    {data : TypeData} (hs : w.shape? n = some (.formed former made))
    (hi : former.Image w.handle? data) : u.MadeFrom (w.form n data) := by
  intro m t ht
  by_cases hmn : m = n
  · obtain ⟨node, hn, -⟩ := Option.map_eq_some_iff.mp hs
    obtain ⟨node', hn', -⟩ := exists_node_of_skeleton_eq hskeleton.symm hn
    rw [hmn]
    refine .intro (Option.isSome_of_eq_some hn') (fun storage made' hunbound => ?_) ?_
    · obtain ⟨made'', hs'⟩ := formed_of_skeleton_eq hskeleton hunbound
      rw [hs] at hs'
      cases hs'
      exact nomatch hi
    · rintro r' (_ | _ | ⟨hformed⟩)
      rw [← formedFrom_congr hskeleton, formedFrom_iff hs] at hformed
      obtain ⟨part, -, hpart⟩ := hi.exists_part hformed
      exact h _ part hpart
  · rw [handle?, shape?_form hs, if_neg hmn] at ht
    exact h m t ht

end Workspace

/-- When what a formed node refers to has been produced, the data that its type is made from
is the image of its former. -/
theorem InTurn.image_of_data? {n : NodeId} {complete : Bool} {node : Node} {former : Former}
    {w w₁ : Workspace} {types : List Ty} {data : TypeData} (hw : w.Faithful)
    (hn : w.node? n = some node) (hs : node.shape = .formed former none)
    (h : InTurn Produced (node.requests complete) (w.enter n) (.ok types) w₁)
    (hd : former.data? types = some data) :
    (∃ made, w₁.shape? n = some (.formed former made)) ∧ former.Image w₁.handle? data := by
  obtain ⟨-, -, htypes, hskeleton⟩ := (h.imp fun _ _ _ _ h => ⟨h, h.imaged⟩).imaged_enter hw
  have hrefs : (node.requests complete).map Request.node = former.refs := by
    rw [node.map_node_requests, Node.refs, hs]
  exact ⟨Workspace.formed_of_skeleton_eq hskeleton (Workspace.shape?_eq_of_shape_eq hn hs),
    Former.image_of_data? hd (hrefs ▸ htypes _ rfl)⟩

/-- **Production makes what can be made**, whether it succeeds or fails. -/
theorem Produced.madeFrom {u : Workspace} {r : Request} {w w' : Workspace}
    {result : Except Diagnostic Ty} (h : Produced r w result w') (hw : w.Faithful)
    (hskeleton : w.skeleton = u.skeleton) (hmade : u.MadeFrom w) : u.MadeFrom w' := by
  refine h.induct (motive := fun _ w _ w' => w.Faithful → w.skeleton = u.skeleton →
    u.MadeFrom w → u.MadeFrom w') (fun {r w result w'} h hw hskeleton hmade => ?_)
    hw hskeleton hmade
  have hturn {n : NodeId} {rs : List Request} {w₁ : Workspace}
      {result : Except Diagnostic (List Ty)}
      (h : InTurn (fun r w result w' => Produced r w result w' ∧
        (w.Faithful → w.skeleton = u.skeleton → u.MadeFrom w → u.MadeFrom w'))
        rs (w.enter n) result w₁) : u.MadeFrom w₁ := by
    have henter : (w.enter n).Faithful ∧ (w.enter n).skeleton = u.skeleton :=
      ⟨hw.congr (w.shape?_enter n) rfl, (w.skeleton_enter n).trans hskeleton⟩
    refine (h.imp fun _ w _ w' h => ⟨h.1, fun hw => h.2 hw.1 hw.2⟩).keeps_within
      (P := fun _ w => w.Faithful ∧ w.skeleton = u.skeleton)
      (R := fun w w' => u.MadeFrom w → u.MadeFrom w') (fun _ => id) (fun h h' => h' ∘ h)
      (fun h _ hw => ⟨(h.imaged hw.1).1, h.skeleton_eq.trans hw.2⟩) (fun _ _ => henter)
      (hmade.congr (Workspace.handle?_congr (w.shape?_enter n)))
  have hleave {n : NodeId} {w₁ : Workspace} (h : u.MadeFrom w₁) : u.MadeFrom (w₁.leave n) :=
    h.congr (Workspace.handle?_congr (w₁.shape?_leave n))
  cases h with
  | missing | known | full | unbound => exact hmade
  | nested hn hs =>
    exact hmade.congr (Workspace.handle?_mapLayout (Workspace.shape?_eq_of_shape_eq hn hs) _)
  | failed hn ho h => exact hleave (hturn h)
  | looped hn hs ho h hl => exact hleave (hturn h)
  | refused hn hs ho h hl hb => exact hleave (hturn h)
  | formed hn hs ho h hd =>
    obtain ⟨⟨made, hs₁⟩, himage⟩ := h.left.image_of_data? hw hn hs hd
    have hskeleton₁ := h.left.skeleton_eq.trans (w.skeleton_enter _)
    exact hleave ((hturn h).form (hskeleton₁.trans hskeleton) hs₁ himage)
  | @laidOut n complete _ w₁ node t layout types arena hn hs ho h hl hb =>
    obtain ⟨layout₁, hs₁, -⟩ := Workspace.struct_of_skeleton_eq
      (h.left.skeleton_eq.trans (w.skeleton_enter n)) (Workspace.shape?_eq_of_shape_eq hn hs)
    exact hleave ((hturn h).congr (Workspace.handle?_mapLayout (w := { w₁ with arena }) hs₁ _))

end ShaderLowering
