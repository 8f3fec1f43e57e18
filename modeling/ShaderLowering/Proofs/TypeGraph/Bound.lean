import ShaderLowering.Proofs.TypeGraph.Marks

/-!
# The guard turns no legal type away

The guard of a node lets in five productions at a time. A type that a shader may declare
never needs more than two (`ShaderLowering.Workspace.Admits`), so that it is always
produced (`ShaderLowering.Workspace.run_produce_legal`).

The productions that are under way at any one time fall into two stretches. In the first,
complete types are asked for; each node of it holds the next, and none comes up twice.
The first pointer ends it: from there on nothing has to be complete, and a struct makes
no requests. So each node of the second stretch is formed from the next, and again none
comes up twice. A node can be in both stretches, once in each.

Which requests a request leads to is a matter of how nodes refer to one another
(`ShaderLowering.Workspace.Calls`). What production relies on is said of a set of requests
that contains whatever its members lead to (`ShaderLowering.Workspace.Grantable`).
-/

namespace ShaderLowering

namespace Workspace

variable {w w' w₀ : Workspace} {n n₀ m : NodeId} {node : Node} {complete : Bool}
  {r r' : Request} {granted : Request → Prop}

/-! ### Requests that lead to others -/

/-- **One request leads to another**, as long as nothing is known. -/
inductive Calls (w : Workspace) : Request → Request → Prop
  /-- What a node holds has to be complete if the node has to be. -/
  | held {n m : NodeId} (h : w.Holds n m) : Calls w ⟨n, true⟩ ⟨m, true⟩
  /-- What a pointer points to need not be complete. -/
  | pointed {n m : NodeId} (hn : w.IsPointer n) (h : w.Refers n m) : Calls w ⟨n, true⟩ ⟨m, false⟩
  /-- Nothing has to be complete. -/
  | formed {n m : NodeId} (h : w.FormedFrom n m) : Calls w ⟨n, false⟩ ⟨m, false⟩

theorem calls_congr (h : w'.skeleton = w.skeleton) : w'.Calls = w.Calls := by
  funext r r'
  have hiff {u v : Workspace} (h : v.skeleton = u.skeleton) (hr : v.Calls r r') :
      u.Calls r r' := by
    cases hr with
    | held hholds => exact .held (holds_congr h ▸ hholds)
    | pointed hpointer hrefers =>
      exact .pointed (isPointer_congr h ▸ hpointer) (refers_congr h ▸ hrefers)
    | formed hformed => exact .formed (formedFrom_congr h ▸ hformed)
  exact propext ⟨hiff h, hiff h.symm⟩

theorem Calls.refers (h : w.Calls r r') : w.Refers r.node r'.node := by
  cases h with
  | held hholds => exact hholds.1
  | pointed _ hrefers => exact hrefers
  | formed hformed => exact hformed.1

/-- A request inside that is for no complete type is made by a node formed from what it
is for: a struct asks for complete types only. -/
theorem formedFrom_of_mem_requests (hn : w.node? n = some node)
    (hr : r ∈ node.requests complete) (hc : r.complete = false) : w.FormedFrom n r.node := by
  refine ⟨refers_of_mem_requests hn hr, ?_⟩
  rintro ⟨t, layout, hs⟩
  rw [shape?_eq hn, Option.some.injEq] at hs
  rw [Node.requests, hs] at hr
  obtain ⟨m, -, rfl⟩ := List.mem_map.mp hr
  exact absurd hc (by simp)

/-- Only a pointer that has to be complete asks for something that need not be. -/
theorem isPointer_of_mem_requests (hn : w.node? n = some node) (hr : r ∈ node.requests true)
    (hc : r.complete = false) : w.IsPointer n := by
  have hshape := shape?_eq hn
  obtain ⟨start, guard, shape⟩ := node
  rcases shape with type | ⟨former, made⟩ | ⟨type, layout⟩
  · exact (List.not_mem_nil hr).elim
  · obtain ⟨m, -, rfl⟩ := List.mem_map.mp hr
    cases former with
    | pointer pointee storage => exact ⟨_, _, _, hshape⟩
    | function => exact absurd hc (by simp [Former.passes])
    | array => exact absurd hc (by simp [Former.passes])
  · obtain ⟨m, -, rfl⟩ := List.mem_map.mp hr
    exact absurd hc (by simp)

/-- **A request leads to the requests that are made inside it.** -/
theorem calls_of_mem_requests (hn : w.node? n = some node) (ho : node.Opens complete)
    (hr : r ∈ node.requests complete) : w.Calls ⟨n, complete⟩ r := by
  obtain ⟨m, inner⟩ := r
  cases inner with
  | true =>
    obtain ⟨rfl, hholds⟩ := holds_of_mem_requests hn ho hr rfl
    exact .held hholds
  | false =>
    cases complete with
    | true => exact .pointed (isPointer_of_mem_requests hn hr rfl) (refers_of_mem_requests hn hr)
    | false => exact .formed (formedFrom_of_mem_requests hn hr rfl)

/-! ### Stacks of productions -/

/-- **What is under way when a request is made.** Whatever is produced so that it is complete
holds the node, and is under way once. A node that is under way twice while nothing has to be
complete is formed from the next, and so on up to the request. -/
structure Circling (w : Workspace) (r : Request) : Prop where
  stacked : w.Stacked r
  once : r.complete = true → ∀ v, w.held v ≤ 1
  formed : r.complete = false → ∀ v, 2 ≤ w.held v → Relation.TransGen w.FormedFrom v r.node

theorem Idle.circling (h : w.Idle) (r : Request) : w.Circling r where
  stacked := h.stacked r
  once _ v := by simp [h v]
  formed _ v hv := by
    rw [h v] at hv
    exact absurd hv (by simp)

theorem Circling.congr (h : w.Circling r) (hheld : w'.held = w.held)
    (hskeleton : w'.skeleton = w.skeleton) : w'.Circling r where
  stacked := h.stacked.congr hheld hskeleton
  once := hheld ▸ h.once
  formed := by
    rw [hheld, formedFrom_congr hskeleton]
    exact h.formed

/-- A node that is asked for its complete type is not being produced. -/
theorem Circling.held_eq_zero (h : w.Circling ⟨n, true⟩)
    (hnot : ¬Relation.TransGen w.Holds n n) : w.held n = 0 :=
  Nat.eq_zero_of_not_pos fun hpos => hnot (h.stacked rfl n hpos)

/-- **The requests inside find the same** if no node holds itself. -/
theorem Circling.enter (h : w.Circling ⟨n, complete⟩) (hn : w.node? n = some node)
    (ho : node.Opens complete) (hr : r ∈ node.requests complete)
    (hholds : complete = true → ¬Relation.TransGen w.Holds n n) : (w.enter n).Circling r := by
  refine ⟨h.stacked.enter hn ho hr, fun hc v => ?_, fun hc v hv => ?_⟩
  -- the first stretch goes on: nothing was under way twice, and the node not at all
  · obtain ⟨rfl, -⟩ := holds_of_mem_requests hn ho hr hc
    by_cases hvn : v = n
    · have hzero := h.held_eq_zero (hholds rfl)
      rw [hvn, held_enter_self hn]
      omega
    · rw [held_enter_of_ne hvn]
      exact h.once rfl v
  -- the second stretch begins or goes on: what is under way twice leads to the node
  · have hnext := formedFrom_of_mem_requests hn hr hc
    rw [formedFrom_congr (w.skeleton_enter n)]
    by_cases hvn : v = n
    · rw [hvn]
      exact .single hnext
    · rw [held_enter_of_ne hvn] at hv
      -- two productions of a node are under way in the second stretch only
      have hcomplete : complete = false := by
        refine Bool.eq_false_iff.mpr fun hcon => ?_
        have hle := h.once hcon v
        omega
      exact (h.formed hcomplete v hv).tail hnext

/-- What is being produced when a request is made of a legal graph. -/
structure Admits (w : Workspace) (r : Request) : Prop where
  stacked : w.Stacked r
  once : r.complete = true → ∀ v, w.held v ≤ 1
  twice : ∀ v, w.held v ≤ 2
  formed : r.complete = false → ∀ v, w.held v = 2 → Relation.TransGen w.FormedFrom v r.node

theorem Circling.admits (h : w.Circling r) (htwice : ∀ v, w.held v ≤ 2) : w.Admits r :=
  ⟨h.stacked, h.once, htwice, fun hc v hv => h.formed hc v (Nat.le_of_eq hv.symm)⟩

theorem Admits.circling (h : w.Admits r) : w.Circling r :=
  ⟨h.stacked, h.once, fun hc v hv => h.formed hc v (Nat.le_antisymm (h.twice v) hv)⟩

theorem Idle.admits (h : w.Idle) (r : Request) : w.Admits r :=
  (h.circling r).admits fun v => by simp [h v]

theorem Admits.congr (h : w.Admits r) (hheld : w'.held = w.held)
    (hskeleton : w'.skeleton = w.skeleton) : w'.Admits r :=
  (h.circling.congr hheld hskeleton).admits (hheld ▸ h.twice)

/-- A node is asked for at most once while it is being produced. -/
theorem Admits.held_le_one (h : w.Admits ⟨n, complete⟩)
    (hholds : complete = true → ¬Relation.TransGen w.Holds n n)
    (hformed : complete = false → ¬Relation.TransGen w.FormedFrom n n) : w.held n ≤ 1 := by
  cases complete with
  | true =>
    have hzero := h.circling.held_eq_zero (hholds rfl)
    omega
  | false =>
    have htwo := h.twice n
    have hne : w.held n ≠ 2 := fun hcon => hformed rfl (h.formed rfl n hcon)
    omega

/-- **The requests inside are admitted** if the request itself is. -/
theorem Admits.enter (h : w.Admits ⟨n, complete⟩) (hn : w.node? n = some node)
    (ho : node.Opens complete) (hr : r ∈ node.requests complete)
    (hholds : complete = true → ¬Relation.TransGen w.Holds n n)
    (hformed : complete = false → ¬Relation.TransGen w.FormedFrom n n) :
    (w.enter n).Admits r := by
  refine (h.circling.enter hn ho hr hholds).admits fun v => ?_
  by_cases hvn : v = n
  · have hone := h.held_le_one hholds hformed
    rw [hvn, held_enter_self hn]
    omega
  · rw [held_enter_of_ne hvn]
    exact h.twice v

/-! ### What production relies on -/

/-- **Requests that can be granted**: their nodes are there, no pointer among them is
without a pointee, what they lead to can be granted too, and no node comes up again on the
way. -/
structure Grantable (w₀ : Workspace) (granted : Request → Prop) : Prop where
  calls : ∀ r r', granted r → w₀.Calls r r' → granted r'
  there : ∀ r, granted r → (w₀.node? r.node).isSome
  bound : ∀ r, granted r → ∀ storage made,
    w₀.shape? r.node ≠ some (.formed (.pointer none storage) made)
  not_holds : ∀ n, granted ⟨n, true⟩ → ¬Relation.TransGen w₀.Holds n n
  not_formedFrom : ∀ n, granted ⟨n, false⟩ → ¬Relation.TransGen w₀.FormedFrom n n

/-- The workspace is one in which the requests that can be granted can be answered. -/
structure Sound (w₀ : Workspace) (granted : Request → Prop) (w : Workspace) : Prop where
  skeleton : w.skeleton = w₀.skeleton
  faithful : w.Faithful
  untouched : ∀ r, granted r → w.Untouched r.node
  unlooped : ∀ n, granted ⟨n, true⟩ → ¬w.Looped n

theorem Sound.enter (hw : w₀.Sound granted w) (n : NodeId) : w₀.Sound granted (w.enter n) where
  skeleton := (w.skeleton_enter n).trans hw.skeleton
  faithful := hw.faithful.congr (w.shape?_enter n) rfl
  untouched r hr := (hw.untouched r hr).congr (w.shape?_enter n) rfl
  unlooped m hm := by
    rw [looped_enter]
    exact hw.unlooped m hm

theorem Sound.produced (hw : w₀.Sound granted w) (hg : w₀.Grantable granted)
    {result : Except Diagnostic Ty} (h : Produced r w result w') (hstacked : w.Stacked r) :
    w₀.Sound granted w' where
  skeleton := h.skeleton_eq.trans hw.skeleton
  faithful := (h.imaged hw.faithful).1
  untouched r hr := h.untouched hw.faithful (hw.untouched r hr)
  unlooped m hm hlooped := by
    rcases h.looped_holds hstacked hlooped with hold | hholds
    · exact hw.unlooped m hm hold
    · rw [holds_congr hw.skeleton] at hholds
      exact hg.not_holds m hm hholds

/-- What a request needs in order to be answered. -/
structure Ready (w₀ : Workspace) (granted : Request → Prop) (r : Request) (w : Workspace) :
    Prop where
  mem : granted r
  admits : w.Admits r
  sound : w₀.Sound granted w

theorem Ready.produced (h : w₀.Ready granted r w) (hg : w₀.Grantable granted)
    {result : Except Diagnostic Ty} (hproduced : Produced r' w result w')
    (hr' : w₀.Ready granted r' w) : w₀.Ready granted r w' where
  mem := h.mem
  admits := h.admits.congr hproduced.held_eq hproduced.skeleton_eq
  sound := h.sound.produced hg hproduced hr'.admits.stacked

theorem Ready.enter (h : w₀.Ready granted ⟨n, complete⟩ w) (hg : w₀.Grantable granted)
    (hn : w.node? n = some node) (ho : node.Opens complete) (hr : r ∈ node.requests complete) :
    w₀.Ready granted r (w.enter n) where
  mem := by
    have hcalls := calls_of_mem_requests hn ho hr
    rw [calls_congr h.sound.skeleton] at hcalls
    exact hg.calls _ _ h.mem hcalls
  admits := by
    refine h.admits.enter hn ho hr ?_ ?_
    · rintro rfl
      rw [holds_congr h.sound.skeleton]
      exact hg.not_holds n h.mem
    · rintro rfl
      rw [formedFrom_congr h.sound.skeleton]
      exact hg.not_formedFrom n h.mem
  sound := h.sound.enter n

end Workspace

/-! ### Requests -/

section Requests

variable {w₀ w w' : Workspace} {granted : Request → Prop} {r : Request} {rs : List Request}

/-- Requests that are ready are all answered, if each of them is. -/
theorem InTurn.ok_of_ready (hg : w₀.Grantable granted) {result : Except Diagnostic (List Ty)}
    (h : InTurn (fun r w result w' => Produced r w result w' ∧
      (w₀.Ready granted r w → ∃ t, result = .ok t)) rs w result w')
    (hready : ∀ r ∈ rs, w₀.Ready granted r w) : ∃ ts, result = .ok ts := by
  have hlater {r r' : Request} {rs : List Request} {w w₁ : Workspace}
      {result : Except Diagnostic Ty} (hproduced : Produced r w result w₁)
      (hready : ∀ r' ∈ r :: rs, w₀.Ready granted r' w) (hr' : r' ∈ rs) :
      w₀.Ready granted r' w₁ :=
    (hready r' (List.mem_cons_of_mem _ hr')).produced hg hproduced
      (hready r List.mem_cons_self)
  induction h with
  | nil w => exact ⟨[], rfl⟩
  | stop head =>
    obtain ⟨t, ht⟩ := head.2 (hready _ List.mem_cons_self)
    exact absurd ht (by simp)
  | stopLater head _ ih =>
    obtain ⟨ts, hts⟩ := ih fun r hr => hlater head.1 hready hr
    exact absurd hts (by simp)
  | cons head _ ih => exact ⟨_, rfl⟩

/-- Requests that are ready leave the workspace sound. -/
theorem InTurn.sound (hg : w₀.Grantable granted) {result : Except Diagnostic (List Ty)}
    (h : InTurn Produced rs w result w') (hready : ∀ r ∈ rs, w₀.Ready granted r w)
    (hw : w₀.Sound granted w) : w₀.Sound granted w' :=
  (h.imp fun r w _ _ h => ⟨h, fun (hr : w₀.Ready granted r w) hw =>
      hw.produced hg h hr.admits.stacked⟩).keeps_within
    (R := fun w w' => w₀.Sound granted w → w₀.Sound granted w')
    (fun _ => id) (fun h h' => h' ∘ h) (fun h hr' hr => hr.produced hg h hr') hready hw

/-- **A request that is ready is answered.** -/
theorem Produced.ok_of_ready (hg : w₀.Grantable granted) {result : Except Diagnostic Ty}
    (h : Produced r w result w') (hr : w₀.Ready granted r w) : ∃ t, result = .ok t := by
  refine h.induct (motive := fun r w result _ => w₀.Ready granted r w → ∃ t, result = .ok t)
    (fun {r w result w'} h hr => ?_) hr
  have hready {n : NodeId} {complete : Bool} {node : Node}
      (hr : w₀.Ready granted ⟨n, complete⟩ w) (hn : w.node? n = some node)
      (ho : node.Opens complete) :
      ∀ r ∈ node.requests complete, w₀.Ready granted r (w.enter n) :=
    fun r hmem => hr.enter hg hn ho hmem
  cases h with
  | known hn ht => exact ⟨_, rfl⟩
  | nested hn hs hk hroom hheld => exact ⟨_, rfl⟩
  | formed hn hs ho h hd => exact ⟨_, rfl⟩
  | laidOut hn hs ho h hlooped hb => exact ⟨_, rfl⟩
  | @missing n complete w hn =>
    obtain ⟨node₀, hn₀⟩ := Option.isSome_iff_exists.mp (hg.there _ hr.mem)
    obtain ⟨node, hnode, -⟩ := Workspace.exists_node_of_skeleton_eq hr.sound.skeleton hn₀
    rw [hn] at hnode
    exact absurd hnode (by simp)
  | @full n complete w node hn hk hfull =>
    have htwice := hr.admits.twice n
    rw [Workspace.held_eq hn] at htwice
    have hmax : maxHeld = 5 := rfl
    omega
  | unbound hn hs hroom =>
    obtain ⟨made, hs₀⟩ := Workspace.formed_of_skeleton_eq hr.sound.skeleton.symm
      (Workspace.shape?_eq_of_shape_eq hn hs)
    exact absurd hs₀ (hg.bound _ hr.mem _ _)
  | failed hn ho h =>
    obtain ⟨ts, hts⟩ := h.ok_of_ready hg (hready hr hn ho)
    exact absurd hts (by simp)
  | @looped n complete w w₁ node t layout types hn hs ho h hlooped =>
    obtain ⟨rfl, -⟩ := Workspace.opens_struct hs ho
    have hsound := h.left.sound hg (hready hr hn ho) (hr.sound.enter _)
    exact absurd hlooped (hsound.unlooped _ hr.mem)
  | @refused n complete w w₁ node t layout types fault hn hs ho h hlooped hb =>
    have hproduced := h.left
    have hsound := hproduced.sound hg (hready hr hn ho) (hr.sound.enter n)
    have hskeleton : w₁.skeleton = w.skeleton := hsound.skeleton.trans hr.sound.skeleton.symm
    have hshape := Workspace.shape?_eq_of_shape_eq hn hs
    obtain ⟨layout₁, hs₁, -⟩ := Workspace.struct_of_skeleton_eq hskeleton hshape
    obtain ⟨arena, harena⟩ := (hsound.untouched _ hr.mem).exists_setBody hs₁
      (hproduced.not_isComplete hn hs ho) types
    rw [hb] at harena
    exact absurd harena (by simp)

end Requests

namespace Workspace

variable {w : Workspace} {n m : NodeId}

/-! ### Legal types are produced -/

/-- What can be reached from a node of a closed graph is in the graph. -/
theorem Closed.reaches (h : w.Closed) (hn : (w.node? n).isSome) (hm : w.Reaches n m) :
    (w.node? m).isSome := by
  rcases Relation.ReflTransGen.cases_tail hm with rfl | ⟨l, -, hl⟩
  · exact hn
  · exact h l m hl

/-- Whatever is asked of the nodes that are reached from a legal one can be granted. -/
theorem Legal.grantable (h : w.Legal n) (hthere : ∀ m, w.Reaches n m → (w.node? m).isSome) :
    w.Grantable fun r => w.Reaches n r.node where
  calls _ _ hr hcalls := hr.tail hcalls.refers
  there r hr := hthere r.node hr
  bound r hr storage made := h.bound r.node storage made hr
  not_holds _ hm := h.not_holds hm
  not_formedFrom _ hm := h.not_formedFrom hm

/-- **Every legal type is produced**, asked for complete or not. Whatever was done to the
workspace before, if no struct that is reached from the node was given a body from
outside, the production of the node is not reported: no guard is full, no pointer is
found without a pointee, and no struct is refused its body. -/
theorem run_produce_legal (actions : List Action) (n : NodeId)
    (hn : ((({} : Workspace).run actions).node? n).isSome)
    (hlegal : (({} : Workspace).run actions).Legal n)
    (hspared : ∀ m, (({} : Workspace).run actions).Reaches n m → ∀ action ∈ actions,
      (({} : Workspace).run actions).SparedBy m action)
    (complete : Bool) :
    ∃ t, ((({} : Workspace).run actions).produce n complete).1 = .ok t := by
  have hidle := (idle_empty {}).run actions
  have hclosed := (closed_empty {}).run actions
  have hfaithful := faithful_empty TypeArena.uniqued_empty
  have hlooped : ∀ m, ({} : Workspace).Looped m → Relation.TransGen ({} : Workspace).Holds m m := by
    rintro m ⟨layout, hm, -⟩
    simp [layout?, node?] at hm
  have huntouched (m : NodeId) : ({} : Workspace).Untouched m := by
    intro t layout hs
    simp [shape?, node?] at hs
  refine ((({} : Workspace).run actions).produced n complete).ok_of_ready
    (hlegal.grantable fun m hm => hclosed.reaches hn hm) ⟨.refl, hidle.admits _, ?_⟩
  exact
    { skeleton := rfl
      faithful := hfaithful.run actions
      untouched := fun r hr => hfaithful.untouched_run (huntouched r.node) (hspared r.node hr)
      unlooped := fun m hm hcon =>
        hlegal.not_holds hm (looped_holds_run (idle_empty {}) hlooped actions hcon) }

/-- An array of a struct whose member is a pointer to the array: production comes back
to the array below the pointer, while it is being produced. -/
theorem run_produce_legal_circle :
    let actions : List Action :=
      [.addFormed (.pointer none .uniform) 0, .addStruct "S" [] 1, .addFormed (.array ⟨1⟩ 4) 2,
        .bind ⟨0⟩ ⟨2⟩, .addMember ⟨1⟩ [] ⟨0⟩]
    (({} : Workspace).run actions).Refers ⟨1⟩ ⟨0⟩ ∧
      ∃ t, ((({} : Workspace).run actions).produce ⟨2⟩ true).1 = .ok t := by
  refine ⟨⟨_, rfl, by decide +kernel⟩, run_produce_legal _ ⟨2⟩ (by decide +kernel) ?_ ?_ true⟩
  · refine legal_of_ranked NodeId.index (fun m => if m.index = 0 then 2 else m.index - 1)
      ?_ ?_ ?_ ⟨2⟩
    · decide +kernel
    · decide +kernel
    · decide +kernel
  · intro m _ action haction t members packed heq
    rw [heq] at haction
    simp at haction

end Workspace

end ShaderLowering
