import ShaderLowering.Proofs.TypeGraph.Acceptance
import ShaderLowering.Proofs.TypeGraph.Recursion
import ShaderLowering.Proofs.TypeGraph.Stability

/-!
# Failing again

A production that fails is not rolled back. What was made on the way stays: arrays and
functions have got their types, structs inside are complete, and structs that were found among
their own members are marked. When the same is asked again at once, the requests that were
answered the first time are answered as they were, and now nothing is left to do for them
(`ShaderLowering.Produced.again_of_ok`). So the second production comes by the same way to the
request that failed, and fails there as the first did
(`ShaderLowering.Produced.again_of_error`).

There is one exception. An array or a function may be formed in the course of its own
production, if it is met again inside, and the production may fail nevertheless. It is then
known the second time, and is answered before the request that failed is made
(`ShaderLowering.Workspace.run_produce_error_forgotten`). With this excluded
(`ShaderLowering.Workspace.Unmade`), a failure repeats
(`ShaderLowering.Workspace.run_produce_error_again`). The exclusion is about nothing but
arrays and functions that are to be complete: a pointer, or anything that need not be complete,
has no type after it failed (`ShaderLowering.Produced.handle?_eq_none`), since its type is
made of types that were made before.
-/

namespace ShaderLowering

namespace Workspace

variable {u v w w' : Workspace} {n m : NodeId} {node : Node} {complete : Bool} {t : Ty}
  {r r' : Request}

/-! ### Workspaces that differ in their guards -/

/-- The workspaces are the same but for their guards. -/
structure SameTypes (w v : Workspace) : Prop where
  arena : v.arena = w.arena
  shape : v.shape? = w.shape?
  skeleton : v.skeleton = w.skeleton

theorem SameTypes.refl (w : Workspace) : w.SameTypes w :=
  ⟨rfl, rfl, rfl⟩

/-- What is the same after a node was left is so while it is entered. -/
theorem SameTypes.enter (h : (w.leave n).SameTypes v) : w.SameTypes (v.enter n) where
  arena := h.arena
  shape := by rw [shape?_enter, h.shape, shape?_leave]
  skeleton := by rw [skeleton_enter, h.skeleton, skeleton_leave]

theorem SameTypes.onward (h : w.SameTypes v) : w.Onward v :=
  ⟨h.skeleton, .congr h.shape, .congr h.shape h.arena⟩

theorem SameTypes.looped (h : w.SameTypes v) (hn : v.Looped n) : w.Looped n :=
  GraphGrows.looped (.congr h.shape.symm) hn

theorem SameTypes.isComplete (h : w.SameTypes v) (hn : v.IsComplete n) : w.IsComplete n :=
  GraphGrows.isComplete (.congr h.shape.symm) hn

/-- Nothing differs between workspaces that are the same but for their guards, if these are the
same too. -/
theorem SameTypes.node?_eq (h : w.SameTypes v) (hheld : v.held = w.held) (n : NodeId) :
    v.node? n = w.node? n := by
  cases hn : w.node? n with
  | none =>
    have hshape : v.shape? n = none := by rw [h.shape, shape?, hn]; rfl
    exact Option.map_eq_none_iff.mp hshape
  | some node =>
    obtain ⟨node', hn', hnode⟩ := exists_node_of_skeleton_eq h.skeleton hn
    have hstart : node'.start = node.start := by
      rw [← node'.start_skeleton, hnode, node.start_skeleton]
    have hguard : node'.guard.held = node.guard.held := by rw [← held_eq hn', hheld, held_eq hn]
    have hshape : node'.shape = node.shape := by
      refine Option.some.inj ?_
      rw [← shape?_eq hn', h.shape, shape?_eq hn]
    obtain ⟨start, ⟨held⟩, shape⟩ := node
    obtain ⟨start', ⟨held'⟩, shape'⟩ := node'
    obtain rfl : start' = start := hstart
    obtain rfl : held' = held := hguard
    obtain rfl : shape' = shape := hshape
    exact hn'

/-- Entering a node comes to the same, whatever was held before. -/
theorem held_enter_congr (hn : w.node? n = some node) (hskeleton : v.skeleton = w.skeleton)
    (hheld : v.held = w.held) : (v.enter n).held = (w.enter n).held := by
  obtain ⟨node', hn', -⟩ := exists_node_of_skeleton_eq hskeleton hn
  funext m
  by_cases hmn : m = n
  · rw [hmn, held_enter_self hn, held_enter_self hn', hheld]
  · rw [held_enter_of_ne hmn, held_enter_of_ne hmn, hheld]

end Workspace

@[simp] theorem Node.requests_skeleton (node : Node) (complete : Bool) :
    node.skeleton.requests complete = node.requests complete := by
  obtain ⟨start, guard, shape⟩ := node
  cases shape <;> simp [skeleton, Shape.skeleton, requests, Layout.skeleton]

@[simp] theorem Node.isStruct_skeleton (node : Node) : node.skeleton.isStruct = node.isStruct := by
  obtain ⟨start, guard, shape⟩ := node
  cases shape <;> rfl

namespace Workspace

variable {u v w w' : Workspace} {n m : NodeId} {node : Node} {complete : Bool} {t : Ty}
  {r r' : Request}

/-! ### What is known the second time -/

/-- A node that has no type is not known. -/
theorem known?_of_handle?_eq_none (hn : w.node? n = some node) (ht : w.handle? n = none) :
    node.known? complete = none := by
  rw [handle?_eq (shape?_eq hn)] at ht
  obtain ⟨start, guard, shape⟩ := node
  cases shape with
  | simple type => exact nomatch ht
  | formed former made => exact ht
  | struct type layout => exact nomatch ht

/-- A struct that is not complete is not known where it has to be. -/
theorem known?_of_not_isComplete {layout : Layout} (hn : w.node? n = some node)
    (hs : node.shape = .struct t layout) (hc : ¬w.IsComplete n) : node.known? true = none := by
  have hincomplete : layout.complete = false := Bool.eq_false_iff.mpr fun hcon =>
    hc ⟨layout, layout?_eq_some_iff.mpr ⟨t, shape?_eq_of_shape_eq hn hs⟩, hcon⟩
  simp [Node.known?, hs, hincomplete]

/-- Marking a struct that is marked changes nothing. -/
theorem modify_looped (hn : w.node? n = some node) (hl : w.Looped n) :
    (w.modify n fun node => node.mapLayout Layout.looped) = w := by
  obtain ⟨t, layout, hs, hmarked⟩ := looped_iff.mp hl
  refine (modify_congr hn ?_).trans (w.modify_id n)
  rw [shape?_eq hn, Option.some.injEq] at hs
  obtain ⟨start, guard, shape⟩ := node
  obtain ⟨members, slots, complete, containsItself⟩ := layout
  cases hs
  cases hmarked
  rfl

/-- A node opens again in a workspace in which it is not known and as much of it is under way
as there was. -/
theorem exists_opens (hn : w.node? n = some node) (ho : node.Opens complete)
    (hskeleton : v.skeleton = w.skeleton) (hheld : v.held = w.held)
    (hunknown : ∀ node', v.node? n = some node' → node'.known? complete = none) :
    ∃ node', v.node? n = some node' ∧ node'.skeleton = node.skeleton ∧ node'.Opens complete := by
  obtain ⟨node', hn', hnode⟩ := exists_node_of_skeleton_eq hskeleton hn
  have hguard : node'.guard.held = node.guard.held := by
    rw [← held_eq hn', hheld, held_eq hn]
  refine ⟨node', hn', hnode, hunknown node' hn', hguard ▸ ho.room, fun hstruct => ?_⟩
  rw [hguard]
  exact ho.first (by rw [← node.isStruct_skeleton, ← hnode, node'.isStruct_skeleton, hstruct])

end Workspace

/-- A struct that is being laid out, and was found among its own members, answers with its type
and stays as it is. -/
theorem Produced.of_looped {n : NodeId} {v v' : Workspace} {node : Node} {t : Ty}
    {layout : Layout} {result : Except Diagnostic Ty} (h : Produced ⟨n, true⟩ v result v')
    (hn : v.node? n = some node) (hs : node.shape = .struct t layout) (hc : ¬v.IsComplete n)
    (hroom : node.guard.held < maxHeld) (hheld : 0 < node.guard.held) (hl : v.Looped n) :
    result = .ok t ∧ v' = v := by
  have hstruct : node.isStruct = true := by
    rw [Node.isStruct, Node.layout?, hs]
    rfl
  have hfirst {node' : Node} (hn' : v.node? n = some node') : ¬node'.Opens true := by
    intro ho
    obtain rfl := Option.some.inj (hn.symm.trans hn')
    exact absurd (ho.first hstruct) (Nat.ne_of_gt hheld)
  have hshape {node' : Node} (hn' : v.node? n = some node') : node'.shape = .struct t layout := by
    rw [← Option.some.inj (hn.symm.trans hn'), hs]
  cases h.answer with
  | missing hn' => exact absurd (hn.symm.trans hn') (by simp)
  | known hn' ht =>
    refine absurd (Workspace.isComplete_of_known? hn' ?_ ht) hc
    exact ⟨t, layout, Workspace.shape?_eq_of_shape_eq hn hs⟩
  | full hn' _ hfull =>
    rw [← Option.some.inj (hn.symm.trans hn')] at hfull
    exact absurd hroom (Nat.not_lt.mpr hfull)
  | nested hn' hs' =>
    rw [hshape hn', Shape.struct.injEq] at hs'
    exact ⟨by rw [hs'.1], Workspace.modify_looped hn hl⟩
  | unbound hn' hs' => exact absurd ((hshape hn').symm.trans hs') (by simp)
  | failed hn' ho => exact absurd ho (hfirst hn')
  | formed hn' _ ho => exact absurd ho (hfirst hn')
  | looped hn' _ ho => exact absurd ho (hfirst hn')
  | refused hn' _ ho => exact absurd ho (hfirst hn')
  | laidOut hn' _ ho => exact absurd ho (hfirst hn')

/-- **What was answered is answered again, and nothing is done for it.** In between, other
requests may have been made, but as much has to be under way as the first time. -/
theorem Produced.again_of_ok {r : Request} {v v' w w' : Workspace} {t : Ty}
    {result : Except Diagnostic Ty} (h : Produced r w (.ok t) w') (hw : w.Faithful)
    (hv : w'.Onward v) (hheld : v.held = w.held) (hagain : Produced r v result v') :
    result = .ok t ∧ v' = v := by
  obtain ⟨n, complete⟩ := r
  have hhandle : v.handle? n = some t := hv.keeps.2 n t ((h.imaged hw).2.2 t rfl)
  obtain ⟨shape, hshape, ht⟩ := Option.bind_eq_some_iff.mp hhandle
  obtain ⟨node', hn', rfl⟩ := Option.map_eq_some_iff.mp hshape
  by_cases hc : complete = true → v.IsStruct n → v.IsComplete n
  · exact hagain.of_known? hn' (Workspace.known?_of_handle? hn' hhandle hc)
  · simp only [Classical.not_imp] at hc
    obtain ⟨rfl, hstruct, hincomplete⟩ := hc
    have hskeleton : v.skeleton = w.skeleton := hv.skeleton.trans h.skeleton_eq
    have hstruct₀ : w.IsStruct n := Workspace.isStruct_congr hskeleton ▸ hstruct
    cases h.answer with
    | known hn ht =>
      exact absurd (hv.graph.isComplete (Workspace.isComplete_of_known? hn hstruct₀ ht)) hincomplete
    | formed hn hs =>
      exact absurd hstruct₀
        (Workspace.not_isStruct_of_formed (Workspace.shape?_eq_of_shape_eq hn hs))
    | laidOut hn hs ho hturn =>
      obtain ⟨layout₁, hs₁, -⟩ := Workspace.struct_of_skeleton_eq
        (hturn.skeleton_eq.trans (w.skeleton_enter n)) (Workspace.shape?_eq_of_shape_eq hn hs)
      refine absurd (hv.graph.isComplete ?_) hincomplete
      rw [Workspace.isComplete_leave]
      exact Workspace.isComplete_layOut_self _ ⟨_, layout₁, hs₁⟩
    -- the struct is being laid out, both times
    | @nested _ _ _ node _ layout hn hs hk hroom hpos =>
      have hguard : node'.guard.held = node.guard.held := by
        rw [← Workspace.held_eq hn', hheld, Workspace.held_eq hn]
      obtain ⟨type', layout', hs'⟩ := hstruct
      rw [hshape, Option.some.injEq] at hs'
      rw [hs'] at ht
      obtain rfl : type' = t := Option.some.inj ht
      refine hagain.of_looped hn' hs' hincomplete (hguard ▸ hroom) (hguard ▸ hpos) ?_
      have hmarked := Workspace.shape?_mapLayout (Workspace.shape?_eq_of_shape_eq hn hs)
        Layout.looped n
      rw [if_pos rfl] at hmarked
      exact hv.graph.looped (Workspace.looped_iff.mpr ⟨_, _, hmarked, rfl⟩)

/-- Requests that were all answered are answered again. -/
theorem InTurn.again_of_ok {rs : List Request} {v v' w w' : Workspace} {types : List Ty}
    {result : Except Diagnostic (List Ty)} (h : InTurn Produced rs w (.ok types) w')
    (hw : w.Faithful) (hv : w'.Onward v) (hheld : v.held = w.held)
    (hagain : InTurn Produced rs v result v') : result = .ok types ∧ v' = v := by
  induction rs generalizing w types result with
  | nil =>
    cases h
    cases hagain
    exact ⟨rfl, rfl⟩
  | cons r rs ih =>
    cases h with
    | @cons _ _ _ w₁ _ t types head tail =>
      have hw₁ := (head.imaged hw).1
      have hv₁ := (tail.onward hw₁).trans hv
      have hheld₁ : v.held = w₁.held := hheld.trans head.held_eq.symm
      cases hagain with
      | stop head' => exact absurd (head.again_of_ok hw hv₁ hheld head').1 nofun
      | stopLater head' tail' =>
        obtain ⟨-, rfl⟩ := head.again_of_ok hw hv₁ hheld head'
        exact absurd (ih tail hw₁ hheld₁ tail').1 nofun
      | cons head' tail' =>
        obtain ⟨ht, rfl⟩ := head.again_of_ok hw hv₁ hheld head'
        obtain ⟨htypes, rfl⟩ := ih tail hw₁ hheld₁ tail'
        exact ⟨by rw [Except.ok.inj ht, Except.ok.inj htypes], rfl⟩

/-- Where requests were answered up to one that failed, and that one fails again, all of them
do as before. -/
theorem InTurn.again_of_error {before after : List Request} {r : Request} {v v' w w₁ : Workspace}
    {types : List Ty} {e : Diagnostic} {result : Except Diagnostic (List Ty)}
    (hbefore : InTurn Produced before w (.ok types) w₁) (hw : w.Faithful) (hv : w₁.Onward v)
    (hheld : v.held = w.held)
    (hfails : ∀ result v', Produced r v result v' → result = .error e ∧ v' = v)
    (hagain : InTurn Produced (before ++ r :: after) v result v') :
    result = .error e ∧ v' = v := by
  induction before generalizing w types result with
  | nil =>
    cases hagain with
    | stop head =>
      obtain ⟨he, rfl⟩ := hfails _ _ head
      exact ⟨by rw [Except.error.inj he], rfl⟩
    | stopLater head => exact absurd (hfails _ _ head).1 nofun
    | cons head => exact absurd (hfails _ _ head).1 nofun
  | cons r₀ before ih =>
    cases hbefore with
    | @cons _ _ _ w₂ _ t types head tail =>
      have hw₂ := (head.imaged hw).1
      have hv₂ := (tail.onward hw₂).trans hv
      have hheld₂ : v.held = w₂.held := hheld.trans head.held_eq.symm
      cases hagain with
      | stop head' => exact absurd (head.again_of_ok hw hv₂ hheld head').1 nofun
      | stopLater head' tail' =>
        obtain ⟨-, rfl⟩ := head.again_of_ok hw hv₂ hheld head'
        obtain ⟨he, rfl⟩ := ih tail hw₂ hheld₂ tail'
        exact ⟨by rw [Except.error.inj he], rfl⟩
      | cons head' tail' =>
        obtain ⟨-, rfl⟩ := head.again_of_ok hw hv₂ hheld head'
        exact absurd (ih tail hw₂ hheld₂ tail').1 nofun

/-! ### What has no type after it failed -/

namespace Workspace

variable {w w' : Workspace} {n m : NodeId} {node : Node} {complete : Bool} {r : Request}

/-- A node of which the type is not known has none, unless it is a struct that has to be
complete. -/
theorem handle?_eq_none_of_known? (hn : w.node? n = some node)
    (hk : node.known? complete = none) (hr : complete = false ∨ ¬w.IsStruct n) :
    w.handle? n = none := by
  rw [handle?_eq (shape?_eq hn)]
  have hshape := shape?_eq hn
  obtain ⟨start, guard, shape⟩ := node
  cases shape with
  | simple type => exact nomatch hk
  | formed former made => exact hk
  | struct type layout =>
    rcases hr with rfl | hstruct
    · exact nomatch hk
    · exact absurd ⟨type, layout, hshape⟩ hstruct

/-- A node has no type as long as something that it is formed from has none. -/
theorem Faithful.handle?_eq_none_of_formedFrom (hw : w.Faithful) (hnm : w.FormedFrom n m)
    (hm : w.handle? m = none) : w.handle? n = none := by
  obtain ⟨former, made, hs, hmem⟩ := hnm.exists_former
  rw [handle?_eq hs]
  cases made with
  | none => rfl
  | some t =>
    obtain ⟨data, -, himage⟩ := hw.formed n former t hs
    obtain ⟨part, -, hpart⟩ := himage.exists_part hmem
    exact absurd (hm.symm.trans hpart) nofun

/-- A pointer, or a node that need not be complete, is formed from what it asks for, and does
not ask for that to be complete. -/
theorem formedFrom_of_opens (hn : w.node? n = some node) (ho : node.Opens complete)
    (hr : complete = false ∨ w.IsPointer n) (hmem : r ∈ node.requests complete) :
    r.complete = false ∧ w.FormedFrom n r.node := by
  have hcomplete : r.complete = false := by
    refine Bool.eq_false_iff.mpr fun hcon => ?_
    obtain ⟨hc, hholds⟩ := holds_of_mem_requests hn ho hmem hcon
    rcases hr with hr | hr
    · exact absurd (hc.symm.trans hr) nofun
    · exact hholds.2 hr
  exact ⟨hcomplete, formedFrom_of_mem_requests hn hmem hcomplete⟩

end Workspace

/-- **A failed request leaves no type behind** at a pointer, nor at a node that need not be
complete: had its type been made in the course of the request, so had that of the node at
which the request failed. -/
theorem Produced.handle?_eq_none {r : Request} {w w' : Workspace} {e : Diagnostic}
    (h : Produced r w (.error e) w') (hw : w.Faithful)
    (hr : r.complete = false ∨ w.IsPointer r.node) : w'.handle? r.node = none := by
  refine h.induct (motive := fun r w result w' => ∀ e, result = .error e → w.Faithful →
    (r.complete = false ∨ w.IsPointer r.node) → w'.handle? r.node = none)
    (fun {r w result w'} h e he hw hr => ?_) e rfl hw hr
  -- the node is no struct that has to be complete
  have hplain {n : NodeId} {complete : Bool} (hr : complete = false ∨ w.IsPointer n) :
      complete = false ∨ ¬w.IsStruct n := by
    refine hr.imp_right ?_
    rintro ⟨pointee, storage, made, hs⟩
    exact Workspace.not_isStruct_of_formed hs
  have hstruct {n : NodeId} {complete : Bool} {node : Node} {t : Ty} {layout : Layout}
      (hr : complete = false ∨ w.IsPointer n) (hn : w.node? n = some node)
      (hs : node.shape = .struct t layout) (ho : node.Opens complete) : False := by
    rcases hplain hr with rfl | hnot
    · exact absurd (Workspace.opens_struct hs ho).1 nofun
    · exact hnot ⟨t, layout, Workspace.shape?_eq_of_shape_eq hn hs⟩
  cases h with
  | known | nested | formed | laidOut => exact nomatch he
  | missing hn => simp [Workspace.handle?, Workspace.shape?, hn]
  | full hn hk hfull => exact Workspace.handle?_eq_none_of_known? hn hk (hplain hr)
  | unbound hn hs hroom => rw [Workspace.handle?_eq (Workspace.shape?_eq_of_shape_eq hn hs)]; rfl
  | looped hn hs ho h hl => exact (hstruct hr hn hs ho).elim
  | refused hn hs ho h hl hb => exact (hstruct hr hn hs ho).elim
  | @failed n complete w w₁ node d hn ho h =>
    obtain ⟨before, r, after, types, w₂, hrs, hbefore, hinner, hfailed⟩ := h.split_error
    have hmem : r ∈ node.requests complete := hrs ▸ List.mem_append_right _ List.mem_cons_self
    obtain ⟨hcomplete, hformed⟩ := Workspace.formedFrom_of_opens hn ho hr hmem
    have henter : (w.enter n).Faithful := hw.congr (w.shape?_enter n) rfl
    have hw₂ : w₂.Faithful := ((hbefore.left.imp fun _ _ _ _ h => h.imaged).imaged henter).1
    have hw₁ : w₁.Faithful := (hinner.imaged hw₂).1
    have hskeleton : w₁.skeleton = w.skeleton := h.left.skeleton_eq.trans (w.skeleton_enter n)
    rw [Workspace.handle?_congr (w₁.shape?_leave n)]
    rw [← Workspace.formedFrom_congr hskeleton] at hformed
    exact hw₁.handle?_eq_none_of_formedFrom hformed (hfailed d rfl hw₂ (Or.inl hcomplete))

/-! ### The second failure -/

theorem Produced.of_missing {n : NodeId} {complete : Bool} {w w' : Workspace}
    {result : Except Diagnostic Ty} (h : Produced ⟨n, complete⟩ w result w')
    (hn : w.node? n = none) : result = .error (.pointing 0 (.unknownNode n.index)) ∧ w' = w := by
  cases h.answer with
  | missing => exact ⟨rfl, rfl⟩
  | known hn' | full hn' | nested hn' | unbound hn' | failed hn' | formed hn' | looped hn'
  | refused hn' | laidOut hn' => exact absurd (hn.symm.trans hn') nofun

theorem Produced.of_full {n : NodeId} {complete : Bool} {w w' : Workspace} {node : Node}
    {result : Except Diagnostic Ty} (h : Produced ⟨n, complete⟩ w result w')
    (hn : w.node? n = some node) (hk : node.known? complete = none)
    (hfull : maxHeld ≤ node.guard.held) :
    result = .error (.pointing node.start .tooManyRecursions) ∧ w' = w := by
  have hroom {node' : Node} (hn' : w.node? n = some node') : ¬node'.guard.held < maxHeld := by
    rw [← Option.some.inj (hn.symm.trans hn')]
    exact Nat.not_lt.mpr hfull
  cases h.answer with
  | missing hn' => exact absurd (hn.symm.trans hn') nofun
  | known hn' ht =>
    obtain rfl := Option.some.inj (hn.symm.trans hn')
    exact absurd (hk.symm.trans ht) nofun
  | full hn' => exact ⟨by rw [Option.some.inj (hn.symm.trans hn')], rfl⟩
  | nested hn' _ _ hroom' => exact absurd hroom' (hroom hn')
  | unbound hn' _ hroom' => exact absurd hroom' (hroom hn')
  | failed hn' ho => exact absurd ho.room (hroom hn')
  | formed hn' _ ho => exact absurd ho.room (hroom hn')
  | looped hn' _ ho => exact absurd ho.room (hroom hn')
  | refused hn' _ ho => exact absurd ho.room (hroom hn')
  | laidOut hn' _ ho => exact absurd ho.room (hroom hn')

theorem Produced.of_unbound {n : NodeId} {complete : Bool} {w w' : Workspace} {node : Node}
    {storage : StorageClass} {result : Except Diagnostic Ty}
    (h : Produced ⟨n, complete⟩ w result w') (hn : w.node? n = some node)
    (hs : node.shape = .formed (.pointer none storage) none)
    (hroom : node.guard.held < maxHeld) :
    result = .error (.pointing node.start .unboundPointer) ∧ w' = w := by
  have hrequests : node.requests complete = [] := by
    rw [Node.requests, hs]
    rfl
  cases h.answer with
  | missing hn' => exact absurd (hn.symm.trans hn') (by simp)
  | known hn' ht =>
    obtain rfl := Option.some.inj (hn.symm.trans hn')
    simp [Node.known?, hs] at ht
  | full hn' _ hfull =>
    obtain rfl := Option.some.inj (hn.symm.trans hn')
    exact absurd hroom (Nat.not_lt.mpr hfull)
  | unbound hn' => exact ⟨by rw [Option.some.inj (hn.symm.trans hn')], rfl⟩
  | failed hn' _ hturn =>
    obtain rfl := Option.some.inj (hn.symm.trans hn')
    rw [hrequests] at hturn
    cases hturn
  | formed hn' hs' _ hturn hd =>
    obtain rfl := Option.some.inj (hn.symm.trans hn')
    rw [hrequests] at hturn
    cases hturn
    rw [hs, Shape.formed.injEq] at hs'
    simp [← hs'.1, Former.data?] at hd
  | nested hn' hs' | looped hn' hs' | refused hn' hs' | laidOut hn' hs' =>
    obtain rfl := Option.some.inj (hn.symm.trans hn')
    exact absurd (hs.symm.trans hs') (by simp)

/-- What comes of a node that opens and is no pointer without a pointee: a request inside it
fails, or a struct gets no layout once its members are answered. -/
theorem Produced.of_opens {n : NodeId} {complete : Bool} {w w' : Workspace} {node : Node}
    {result : Except Diagnostic Ty} (h : Produced ⟨n, complete⟩ w result w')
    (hn : w.node? n = some node) (ho : node.Opens complete)
    (hbound : ∀ storage, node.shape ≠ .formed (.pointer none storage) none) :
    ∃ inner w₁, InTurn Produced (node.requests complete) (w.enter n) inner w₁ ∧
      (∀ d, inner = .error d → result = .error d ∧ w' = w₁.leave n) ∧
      ∀ types t layout, inner = .ok types → node.shape = .struct t layout →
        (w₁.Looped n → result = .error (.pointing node.start .tooManyRecursions) ∧
          w' = w₁.leave n) ∧
        ∀ fault, ¬w₁.Looped n → w₁.arena.setBody t types false = .error fault →
          result = .error (.pointing node.start (.refusedType fault)) ∧ w' = w₁.leave n := by
  cases h.answer with
  | missing hn' => exact absurd (hn.symm.trans hn') (by simp)
  | known hn' ht =>
    obtain rfl := Option.some.inj (hn.symm.trans hn')
    exact absurd (ho.unknown.symm.trans ht) (by simp)
  | full hn' hk hfull =>
    obtain rfl := Option.some.inj (hn.symm.trans hn')
    exact absurd ho.room (Nat.not_lt.mpr hfull)
  | nested hn' hs hk hroom hpos =>
    obtain rfl := Option.some.inj (hn.symm.trans hn')
    have hfirst := ho.first (by rw [Node.isStruct, Node.layout?, hs]; rfl)
    omega
  | unbound hn' hs =>
    obtain rfl := Option.some.inj (hn.symm.trans hn')
    exact absurd hs (hbound _)
  | failed hn' ho' hturn =>
    obtain rfl := Option.some.inj (hn.symm.trans hn')
    refine ⟨_, _, hturn, fun d hd => ?_, by simp⟩
    cases hd
    exact ⟨rfl, rfl⟩
  | formed hn' hs ho' hturn hd =>
    obtain rfl := Option.some.inj (hn.symm.trans hn')
    exact ⟨_, _, hturn, by simp, fun types t layout _ hs' => absurd (hs.symm.trans hs') (by simp)⟩
  | looped hn' hs ho' hturn hl =>
    obtain rfl := Option.some.inj (hn.symm.trans hn')
    exact ⟨_, _, hturn, by simp, fun types t layout _ _ => ⟨fun _ => ⟨rfl, rfl⟩,
      fun fault hnot => absurd hl hnot⟩⟩
  | refused hn' hs ho' hturn hl hb =>
    obtain rfl := Option.some.inj (hn.symm.trans hn')
    refine ⟨_, _, hturn, by simp, fun types t layout htypes hs' => ⟨fun hcon => absurd hcon hl,
      fun fault _ hb' => ?_⟩⟩
    cases htypes
    rw [hs, Shape.struct.injEq] at hs'
    rw [hs'.1, hb'] at hb
    cases hb
    exact ⟨rfl, rfl⟩
  | laidOut hn' hs ho' hturn hl hb =>
    obtain rfl := Option.some.inj (hn.symm.trans hn')
    refine ⟨_, _, hturn, by simp, fun types t layout htypes hs' => ⟨fun hcon => absurd hcon hl,
      fun fault _ hb' => ?_⟩⟩
    cases htypes
    rw [hs, Shape.struct.injEq] at hs'
    rw [hs'.1, hb'] at hb
    cases hb

/-- **Nothing is made in vain**: of the arrays and functions whose complete type was asked for
in the course of a request, those that were not answered have no type in the end. -/
def Workspace.Unmade (w : Workspace) (r : Request) (final : Workspace) : Prop :=
  ∀ m w₁ d w₂, Asks r w ⟨m, true⟩ w₁ → Produced ⟨m, true⟩ w₁ (.error d) w₂ →
    ¬final.IsStruct m → ¬final.IsPointer m → final.handle? m = none

theorem Workspace.Unmade.inner {n : NodeId} {complete : Bool} {w w₁ final : Workspace}
    {node : Node} {before after : List Request} {r : Request} {types : List Ty}
    (h : w.Unmade ⟨n, complete⟩ final) (hn : w.node? n = some node) (ho : node.Opens complete)
    (hrs : node.requests complete = before ++ r :: after)
    (hbefore : InTurn Produced before (w.enter n) (.ok types) w₁) :
    w₁.Unmade r (final.enter n) := by
  intro m w₂ d w₃ hasks hfailed hstruct hpointer
  rw [isStruct_congr (final.skeleton_enter n)] at hstruct
  rw [isPointer_congr (final.skeleton_enter n)] at hpointer
  rw [handle?_congr (final.shape?_enter n)]
  exact h m w₂ d w₃ (.inner hn ho hrs hbefore hasks) hfailed hstruct hpointer

/-- A node at which a request failed is not known afterwards: a struct is not complete, and
any other node has no type. -/
theorem Produced.known?_eq_none {n : NodeId} {complete : Bool} {v w w₁ : Workspace}
    {node node' : Node} {e : Diagnostic} {inner : Except Diagnostic (List Ty)}
    (h : Produced ⟨n, complete⟩ w (.error e) (w₁.leave n)) (hw : w.Faithful)
    (hn : w.node? n = some node) (ho : node.Opens complete)
    (hturn : InTurn Produced (node.requests complete) (w.enter n) inner w₁)
    (hv : (w₁.leave n).SameTypes v) (hunmade : w.Unmade ⟨n, complete⟩ v)
    (hn' : v.node? n = some node') : node'.known? complete = none := by
  have hskeleton : v.skeleton = w.skeleton := hv.skeleton.trans h.skeleton_eq
  by_cases hstruct : v.IsStruct n
  · obtain ⟨t, layout, hs⟩ := Workspace.isStruct_congr hskeleton ▸ hstruct
    rw [Workspace.shape?_eq hn, Option.some.injEq] at hs
    obtain ⟨t', layout', hs'⟩ := hstruct
    rw [Workspace.shape?_eq hn', Option.some.injEq] at hs'
    obtain ⟨rfl, -⟩ := Workspace.opens_struct hs ho
    refine Workspace.known?_of_not_isComplete hn' hs' fun hc => ?_
    have hc₁ := hv.isComplete hc
    rw [Workspace.isComplete_leave] at hc₁
    exact hturn.not_isComplete hn hs ho hc₁
  · refine Workspace.known?_of_handle?_eq_none hn' ?_
    by_cases hplain : complete = false ∨ w.IsPointer n
    · rw [Workspace.handle?_congr hv.shape]
      exact h.handle?_eq_none hw hplain
    · obtain ⟨hcomplete, hpointer⟩ := not_or.mp hplain
      obtain rfl : complete = true := Bool.eq_true_of_not_eq_false hcomplete
      rw [← Workspace.isPointer_congr hskeleton] at hpointer
      exact hunmade n w e _ (.self _ _) h hstruct hpointer

/-- **A failed request fails again** in the workspace it left, with the same report, and
changes nothing. -/
theorem Produced.again_of_error {r : Request} {v v' w w' : Workspace} {e : Diagnostic}
    {result : Except Diagnostic Ty} (h : Produced r w (.error e) w') (hw : w.Faithful)
    (hv : w'.SameTypes v) (hheld : v.held = w.held) (hunmade : w.Unmade r v)
    (hagain : Produced r v result v') : result = .error e ∧ v' = v := by
  refine h.induct (motive := fun r w result₀ w' => Produced r w result₀ w' → ∀ e v result v',
    result₀ = .error e → w.Faithful → w'.SameTypes v → v.held = w.held → w.Unmade r v →
    Produced r v result v' → result = .error e ∧ v' = v)
    (fun {r w result₀ w'} h hself e v result v' he hw hv hheld hunmade hagain => ?_)
    h e v result v' rfl hw hv hheld hunmade hagain
  have hskeleton : v.skeleton = w.skeleton := hv.skeleton.trans hself.skeleton_eq
  -- where a node opened, it opens again, and asks for the same
  have hopens {n : NodeId} {complete : Bool} {node : Node} {w₁ : Workspace} {d : Diagnostic}
      {inner : Except Diagnostic (List Ty)}
      (hself : Produced ⟨n, complete⟩ w (.error d) (w₁.leave n)) (hn : w.node? n = some node)
      (ho : node.Opens complete)
      (hturn : InTurn Produced (node.requests complete) (w.enter n) inner w₁)
      (hv : (w₁.leave n).SameTypes v) (hunmade : w.Unmade ⟨n, complete⟩ v) :
      ∃ node', v.node? n = some node' ∧ node'.skeleton = node.skeleton ∧ node'.Opens complete ∧
        node'.requests complete = node.requests complete := by
    obtain ⟨node', hn', hnode, ho'⟩ := Workspace.exists_opens hn ho hskeleton hheld
      fun node' hn' => hself.known?_eq_none hw hn ho hturn hv hunmade hn'
    exact ⟨node', hn', hnode, ho', by rw [← node'.requests_skeleton, hnode, node.requests_skeleton]⟩
  have henter {n : NodeId} : (w.enter n).Faithful := hw.congr (w.shape?_enter n) rfl
  have hstart {node node' : Node} (h : node'.skeleton = node.skeleton) :
      node'.start = node.start := by
    rw [← node'.start_skeleton, h, node.start_skeleton]
  have hstruct {n : NodeId} {node node' : Node} {t : Ty} {layout : Layout}
      (hn : w.node? n = some node) (hs : node.shape = .struct t layout)
      (hn' : v.node? n = some node') :
      ∃ layout', node'.shape = .struct t layout' := by
    obtain ⟨layout', hs', -⟩ := Workspace.struct_of_skeleton_eq hskeleton
      (Workspace.shape?_eq_of_shape_eq hn hs)
    exact ⟨layout', Option.some.inj ((Workspace.shape?_eq hn').symm.trans hs')⟩
  cases h with
  | known | nested | formed | laidOut => exact nomatch he
  | @missing n complete w hn =>
    cases he
    exact hagain.of_missing ((hv.node?_eq hheld n).trans hn)
  | @full n complete w node hn hk hfull =>
    cases he
    exact hagain.of_full ((hv.node?_eq hheld n).trans hn) hk hfull
  | @unbound n complete w node storage hn hs hroom =>
    cases he
    exact hagain.of_unbound ((hv.node?_eq hheld n).trans hn) hs hroom
  | @failed n complete w w₁ node d hn ho h =>
    cases he
    obtain ⟨node', hn', hnode, ho', hrequests⟩ := hopens hself hn ho h.left hv hunmade
    obtain ⟨before, r, after, types, w₂, hrs, hbefore, hinner, hfails⟩ := h.split_error
    have hw₂ : w₂.Faithful := ((hbefore.left.imp fun _ _ _ _ h => h.imaged).imaged henter).1
    have hbound (storage : StorageClass) : node'.shape ≠ .formed (.pointer none storage) none := by
      intro hcon
      rw [Node.requests, hcon] at hrequests
      exact absurd (hrequests.trans hrs) (by simp [Former.requests, Former.refs])
    obtain ⟨inner, v₁, hturn, herror, -⟩ := hagain.of_opens hn' ho' hbound
    rw [hrequests, hrs] at hturn
    have hheld₁ := Workspace.held_enter_congr hn hskeleton hheld
    have hheld₂ : (v.enter n).held = w₂.held := hheld₁.trans hbefore.left.held_eq.symm
    obtain ⟨rfl, rfl⟩ := hbefore.left.again_of_error henter
      ((hinner.onward hw₂).trans hv.enter.onward) hheld₁
      (fun result v' => hfails hinner _ (v.enter n) result v' rfl hw₂ hv.enter hheld₂
        (hunmade.inner hn ho hrs hbefore.left)) hturn
    obtain ⟨rfl, rfl⟩ := herror _ rfl
    exact ⟨rfl, v.leave_enter n⟩
  | @looped n complete w w₁ node t layout types hn hs ho h hl =>
    cases he
    obtain ⟨node', hn', hnode, ho', hrequests⟩ := hopens hself hn ho h.left hv hunmade
    obtain ⟨layout', hs'⟩ := hstruct hn hs hn'
    obtain ⟨inner, v₁, hturn, -, hlayout⟩ := hagain.of_opens hn' ho' (by simp [hs'])
    rw [hrequests] at hturn
    obtain ⟨rfl, rfl⟩ := h.left.again_of_ok henter hv.enter.onward
      (Workspace.held_enter_congr hn hskeleton hheld) hturn
    obtain ⟨rfl, rfl⟩ := (hlayout types t layout' rfl hs').1 (hv.enter.onward.graph.looped hl)
    exact ⟨by rw [hstart hnode], v.leave_enter n⟩
  | @refused n complete w w₁ node t layout types fault hn hs ho h hl hb =>
    cases he
    obtain ⟨node', hn', hnode, ho', hrequests⟩ := hopens hself hn ho h.left hv hunmade
    obtain ⟨layout', hs'⟩ := hstruct hn hs hn'
    obtain ⟨inner, v₁, hturn, -, hlayout⟩ := hagain.of_opens hn' ho' (by simp [hs'])
    rw [hrequests] at hturn
    obtain ⟨rfl, rfl⟩ := h.left.again_of_ok henter hv.enter.onward
      (Workspace.held_enter_congr hn hskeleton hheld) hturn
    obtain ⟨rfl, rfl⟩ :=
      (hlayout types t layout' rfl hs').2 fault (fun hcon => hl (hv.enter.looped hcon))
      (by rw [hv.enter.arena, hb])
    exact ⟨by rw [hstart hnode], v.leave_enter n⟩

namespace Workspace

/-- Nothing that need not be complete is made in vain. -/
theorem unmade_of_not_complete (w : Workspace) (n : NodeId) (final : Workspace) :
    w.Unmade ⟨n, false⟩ final :=
  fun _ _ _ _ hasks => absurd (hasks.contains rfl).1 nofun

/-- **A failed production fails again.** Whatever was done to the workspace before: if the
production of a node is reported, it is reported again in the same way when the node is asked
for at once in the same way, and then changes nothing. If the node has to be complete, it is
assumed that no array and no function was made in vain. -/
theorem run_produce_error_again (actions : List Action) (n : NodeId) (complete : Bool)
    (e : Diagnostic) (h : ((({} : Workspace).run actions).produce n complete).1 = .error e)
    (hunmade : complete = true → (({} : Workspace).run actions).Unmade ⟨n, true⟩
      ((({} : Workspace).run actions).produce n complete).2) :
    let w := ((({} : Workspace).run actions).produce n complete).2
    w.produce n complete = (.error e, w) := by
  intro w
  have hfaithful := (faithful_empty TypeArena.uniqued_empty).run actions
  have hfirst : Produced ⟨n, complete⟩ (({} : Workspace).run actions) (.error e) w :=
    h ▸ (({} : Workspace).run actions).produced n complete
  have hunmade' : (({} : Workspace).run actions).Unmade ⟨n, complete⟩ w := by
    cases complete with
    | false => exact unmade_of_not_complete _ n w
    | true => exact hunmade rfl
  obtain ⟨hresult, hw⟩ := hfirst.again_of_error hfaithful (.refl w) hfirst.held_eq hunmade'
    (w.produced n complete)
  exact Prod.ext hresult hw

/-- A struct of an array of pointers, which have no pointee yet. -/
theorem run_produce_error_again_unbound :
    let actions : List Action :=
      [.addFormed (.pointer none .uniform) 3, .addFormed (.array ⟨0⟩ 4) 6,
        .addStruct "S" [([], ⟨1⟩)] 10]
    let w := (({} : Workspace).run actions).produce ⟨2⟩ true |>.2
    w.produce ⟨2⟩ true = (.error (.pointing 3 .unboundPointer), w) := by
  intro actions w
  have hpointer : w.shape? ⟨0⟩ = some (.formed (.pointer none .uniform) none) := by decide +kernel
  have harray : w.shape? ⟨1⟩ = some (.formed (.array ⟨0⟩ 4) none) := by decide +kernel
  have hstruct : w.shape? ⟨2⟩ = some (.struct ⟨0⟩
      { members := [{ decorations := [], type := ⟨1⟩ }] }) := by decide +kernel
  have hsize : w.graph.nodes.size = 3 := by decide +kernel
  refine run_produce_error_again actions ⟨2⟩ true _ (by decide +kernel) fun _ => ?_
  rintro ⟨_ | _ | _ | i⟩ _ _ _ _ _ hnotStruct hnotPointer
  · exact absurd ⟨_, _, _, hpointer⟩ hnotPointer
  · exact handle?_eq harray
  · exact absurd ⟨_, _, hstruct⟩ hnotStruct
  · have hnone : w.node? ⟨i + 3⟩ = none := by
      refine Option.not_isSome_iff_eq_none.mp fun hcon => ?_
      have hlt := lt_size_iff.mpr hcon
      rw [hsize] at hlt
      exact absurd hlt (Nat.not_lt.mpr (Nat.le_add_left 3 i))
    rw [handle?, shape?, hnone]
    rfl

/-- An array of a struct that contains the array. The struct is found among its own members
and fails, but the array has been formed inside it, and is answered the second time. -/
theorem run_produce_error_forgotten :
    let w := ({} : Workspace).run
      [.addStruct "S" [] 10, .addFormed (.array ⟨0⟩ 4) 20, .addMember ⟨0⟩ [] ⟨1⟩]
    (w.produce ⟨1⟩ true).1 = .error (.pointing 10 .tooManyRecursions) ∧
      ((w.produce ⟨1⟩ true).2.produce ⟨1⟩ true).1 = .ok ⟨1⟩ := by
  decide +kernel

end Workspace

end ShaderLowering
