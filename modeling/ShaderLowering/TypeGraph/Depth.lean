import ShaderLowering.TypeGraph.Production

/-!
# Production ends

Every request that has others open inside it, except the innermost, holds a guard, and
a guard lets in no more than `ShaderLowering.maxHeld` productions. So there is a bound
on how many requests can be open one inside another, whatever circles the nodes refer
to one another in: what the guards leave free shrinks with each production that gets
in, and is restored when it ends.

`ShaderLowering.Workspace.room` is what the guards leave free. A step that answers
whenever it is given more depth than there is room, and leaves the guards as they were,
is said to *settle*; settling steps compose, and
`ShaderLowering.produceWithin_settles` says that producing a node is one. Hence
`ShaderLowering.Workspace.produce`, which needs no bound from its caller.
-/

namespace ShaderLowering

namespace Workspace

/-- How many productions of each node are under way. -/
def guards (w : Workspace) : List Nat :=
  w.graph.nodes.toList.map fun node => node.guard.held

/-- How many more productions guards would let in that hold the given numbers. -/
def roomOf : List Nat → Nat
  | [] => 0
  | held :: guards => maxHeld - held + roomOf guards

/-- How many more productions the guards would let in, all nodes together. -/
def room (w : Workspace) : Nat :=
  roomOf w.guards

/-- A depth that is enough for every production. -/
def depth (w : Workspace) : Nat :=
  maxHeld * w.graph.nodes.size + 1

/-! ### The guards of a changed workspace -/

theorem guards_getElem? (w : Workspace) (i : Nat) :
    w.guards[i]? = (w.node? ⟨i⟩).map fun node => node.guard.held := by
  simp [guards, node?]

theorem node?_modify (w : Workspace) (n : NodeId) (f : Node → Node) (i : Nat) :
    (w.modify n f).node? ⟨i⟩ =
      if n.index = i then (w.node? ⟨i⟩).map f else w.node? ⟨i⟩ := by
  simp [modify, node?, Array.getElem?_modify]

/-- A change that leaves the guard of a node alone leaves all guards alone. -/
theorem guards_modify_of_guard_eq {w : Workspace} {n : NodeId} {f : Node → Node}
    (h : ∀ node, (f node).guard = node.guard) : (w.modify n f).guards = w.guards := by
  apply List.ext_getElem?
  intro i
  rw [guards_getElem?, guards_getElem?, node?_modify]
  split
  · cases w.node? ⟨i⟩ <;> simp [h]
  · rfl

/-- A change to a node's guard shows at that node only. -/
theorem guards_modify {w : Workspace} {n : NodeId} {node : Node} (hn : w.node? n = some node)
    (f : Node → Node) :
    (w.modify n f).guards = w.guards.set n.index (f node).guard.held := by
  apply List.ext_getElem?
  intro i
  rw [guards_getElem?, node?_modify, List.getElem?_set]
  split
  · rename_i h
    subst h
    have hlt : n.index < w.guards.length := by
      have := guards_getElem? w n.index
      rw [show (⟨n.index⟩ : NodeId) = n from rfl, hn] at this
      exact (List.getElem?_eq_some_iff.mp this).1
    rw [show (⟨n.index⟩ : NodeId) = n from rfl, hn]
    simp [hlt]
  · rw [guards_getElem?]

/-- Letting one more production in takes up one place of the room. -/
theorem roomOf_set {guards : List Nat} {i held : Nat} (hi : guards[i]? = some held)
    (hlt : held < maxHeld) : roomOf (guards.set i (held + 1)) + 1 = roomOf guards := by
  induction guards generalizing i with
  | nil => simp at hi
  | cons g guards ih =>
    cases i with
    | zero =>
      simp only [List.getElem?_cons_zero, Option.some.injEq] at hi
      subst hi
      simp only [List.set_cons_zero, roomOf]
      omega
    | succ i =>
      have := ih (by simpa using hi)
      simp only [List.set_cons_succ, roomOf]
      omega

/-- Guards have room for no more than each of them lets in. -/
theorem roomOf_le (guards : List Nat) : roomOf guards ≤ maxHeld * guards.length := by
  induction guards with
  | nil => exact Nat.zero_le _
  | cons g guards ih =>
    simp only [roomOf, List.length_cons, Nat.mul_succ]
    omega

/-- The depth that is enough is more than there ever is room for. -/
theorem room_lt_depth (w : Workspace) : w.room < w.depth := by
  have hlength : w.guards.length = w.graph.nodes.size := by simp [guards]
  have := roomOf_le w.guards
  rw [hlength] at this
  simp only [room, depth]
  omega

end Workspace

/-! ### Steps that settle -/

namespace Production

/-- The step answers or reports from every workspace that has less room than `depth`,
and leaves all guards as they were. -/
def Settles {α : Type} (depth : Nat) (step : Production α) : Prop :=
  ∀ w : Workspace, w.room < depth →
    ∃ result w', step w = some (result, w') ∧ w'.guards = w.guards

variable {α β : Type} {depth : Nat}

theorem settles_pure (a : α) : Settles depth (pure a : Production α) :=
  fun w _ => ⟨.ok a, w, rfl, rfl⟩

theorem settles_throw (d : Diagnostic) : Settles depth (throw d : Production α) :=
  fun w _ => ⟨.error d, w, rfl, rfl⟩

theorem settles_get : Settles depth (get : Production Workspace) :=
  fun w _ => ⟨.ok w, w, rfl, rfl⟩

/-- One settling step after another settles. -/
theorem Settles.bind {step : Production α} {next : α → Production β}
    (hstep : Settles depth step) (hnext : ∀ a, Settles depth (next a)) :
    Settles depth (step >>= next) := by
  intro w hw
  obtain ⟨result, w₁, hrun, hguards⟩ := hstep w hw
  have hrun' : (step >>= next) w =
      (ExceptT.bindCont next result : StateT Workspace Option (Except Diagnostic β)) w₁ := by
    change (StateT.bind step (ExceptT.bindCont next)) w = _
    simp only [StateT.bind, hrun]
    rfl
  cases result with
  | error d => exact ⟨.error d, w₁, hrun', hguards⟩
  | ok a =>
    have hroom : w₁.room < depth := by
      rw [Workspace.room, hguards]
      exact hw
    obtain ⟨result, w₂, hrun₂, hguards₂⟩ := hnext a w₁ hroom
    exact ⟨result, w₂, hrun'.trans hrun₂, hguards₂.trans hguards⟩

/-- Doing a settling step for each member of a list settles. -/
theorem Settles.mapM {step : α → Production β} (hstep : ∀ a, Settles depth (step a))
    (as : List α) : Settles depth (as.mapM step) := by
  induction as with
  | nil =>
    rw [List.mapM_nil]
    exact settles_pure _
  | cons a as ih =>
    rw [List.mapM_cons]
    exact (hstep a).bind fun b => ih.bind fun bs => settles_pure _

theorem settles_nodeAt (n : NodeId) : Settles depth (nodeAt n) := by
  refine settles_get.bind fun w => ?_
  split
  · exact settles_pure _
  · exact settles_throw _

theorem settles_modifyNode (n : NodeId) {f : Node → Node}
    (h : ∀ node, (f node).guard = node.guard) : Settles depth (modifyNode n f) :=
  fun w _ => ⟨.ok (), w.modify n f, rfl, Workspace.guards_modify_of_guard_eq h⟩

theorem settles_intern (data : TypeData) : Settles depth (intern data) :=
  fun w _ => ⟨.ok (w.arena.intern data).1, { w with arena := (w.arena.intern data).2 }, rfl, rfl⟩

theorem settles_setBody (start : Nat) (type : Ty) (members : List Ty) :
    Settles depth (setBody start type members) := by
  intro w _
  unfold setBody
  split
  · exact ⟨_, _, rfl, rfl⟩
  · exact ⟨_, _, rfl, rfl⟩

theorem settles_remember (n : NodeId) (type : Ty) : Settles depth (remember n type) :=
  settles_modifyNode n fun node => by
    unfold Node.withMade
    split <;> rfl

theorem settles_modifyLayout (n : NodeId) (f : Layout → Layout) :
    Settles depth (modifyLayout n f) :=
  settles_modifyNode n fun node => by
    unfold Node.mapLayout
    split <;> rfl

theorem settles_layOut (n : NodeId) (type : Ty) (members : List Ty) :
    Settles depth (layOut n type members) := by
  refine (settles_nodeAt n).bind fun node => ?_
  split
  · exact settles_throw _
  · exact (settles_setBody _ _ _).bind fun _ => settles_modifyLayout _ _

theorem settles_formedData {request : NodeId → Bool → Production Ty}
    (h : ∀ n complete, Settles depth (request n complete)) (start : Nat) (complete : Bool)
    (former : Former) : Settles depth (formedData request start complete former) := by
  match former with
  | .pointer none _ => exact settles_throw _
  | .pointer (some pointee) _ => exact (h _ _).bind fun _ => settles_pure _
  | .function result args variadic =>
    exact (h _ _).bind fun _ => (Settles.mapM (fun arg => h arg complete) args).bind
      fun _ => settles_pure _
  | .array element count => exact (h _ _).bind fun _ => settles_pure _

/-- **Guarded work gets by with one request less**, and the guard is as it was when the
work is over. -/
theorem settles_guarded (n : NodeId) {work : Bool → Production α}
    (h : ∀ nested, Settles depth (work nested)) : Settles (depth + 1) (guarded n work) := by
  intro w hw
  cases hn : w.node? n with
  | none => exact ⟨_, w, by simp only [guarded, hn]; rfl, rfl⟩
  | some node =>
    by_cases hheld : node.guard.held < maxHeld
    · have hacquire : node.guard.acquire? = some ⟨node.guard.held + 1⟩ := by
        simp [Guard.acquire?, hheld]
      have hheldAt : w.guards[n.index]? = some node.guard.held := by
        rw [Workspace.guards_getElem?, show (⟨n.index⟩ : NodeId) = n from rfl, hn]
        rfl
      obtain ⟨w₁, hw₁⟩ : ∃ w₁,
          w₁ = w.modify n fun node' => { node' with guard := ⟨node.guard.held + 1⟩ } := ⟨_, rfl⟩
      have hguards₁ : w₁.guards = w.guards.set n.index (node.guard.held + 1) := by
        rw [hw₁, Workspace.guards_modify hn]
      have hroom : w₁.room < depth := by
        have := Workspace.roomOf_set hheldAt hheld
        rw [Workspace.room] at hw
        rw [Workspace.room, hguards₁]
        omega
      obtain ⟨result, w₂, hrun, hguards₂⟩ :=
        h (Guard.isNested ⟨node.guard.held + 1⟩) w₁ hroom
      refine ⟨result, w₂.modify n Node.released, ?_, ?_⟩
      · simp only [guarded, hn, hacquire, ← hw₁, hrun]
        rfl
      · have hlt : n.index < w.guards.length := (List.getElem?_eq_some_iff.mp hheldAt).1
        have hheldAt₂ : w₂.guards[n.index]? = some (node.guard.held + 1) := by
          rw [hguards₂, hguards₁, List.getElem?_set_self hlt]
        rw [Workspace.guards_getElem?, Option.map_eq_some_iff] at hheldAt₂
        obtain ⟨node₂, hn₂, hheld₂⟩ := hheldAt₂
        have hreleased : (Node.released node₂).guard.held = node.guard.held := by
          simp [Node.released, Guard.release?, hheld₂]
        rw [Workspace.guards_modify hn₂, hreleased, hguards₂, hguards₁, List.set_set]
        apply List.ext_getElem?
        intro i
        rw [List.getElem?_set]
        split
        · rename_i hi
          subst hi
          rw [hheldAt]
        · rfl
    · have hacquire : node.guard.acquire? = none := by simp [Guard.acquire?, hheld]
      exact ⟨_, w, by simp only [guarded, hn, hacquire]; rfl, rfl⟩

end Production

open Production in
/-- **Producing a node settles**: as many open requests as the guards have room for, and
one more, are always enough. -/
theorem produceWithin_settles (depth : Nat) (n : NodeId) (complete : Bool) :
    Settles depth (produceWithin depth n complete) := by
  induction depth generalizing n complete with
  | zero => exact fun w hw => absurd hw (Nat.not_lt_zero _)
  | succ depth ih =>
    rw [produceWithin]
    refine (settles_nodeAt n).bind fun node => ?_
    match node.shape with
    | .simple type => exact settles_pure _
    | .formed _ (some type) => exact settles_pure _
    | .formed former none =>
      refine settles_guarded n fun _ => ?_
      refine (settles_formedData ih _ _ _).bind fun data => ?_
      exact (settles_intern _).bind fun type =>
        (settles_remember _ _).bind fun _ => settles_pure _
    | .struct type layout =>
      dsimp only
      split
      · refine (settles_guarded n fun nested => ?_).bind fun _ => settles_pure _
        split
        · exact settles_modifyLayout _ _
        · exact (Settles.mapM (fun m : Member => ih m.type true) _).bind fun members =>
            settles_layOut _ _ _
      · exact settles_pure _

/-! ### Producing a node -/

namespace Workspace

theorem isSome_produceWithin (w : Workspace) (n : NodeId) (complete : Bool) :
    (produceWithin w.depth n complete w).isSome := by
  obtain ⟨result, w', hrun, -⟩ := produceWithin_settles w.depth n complete w w.room_lt_depth
  rw [hrun]
  rfl

/-- The type of a node, made first if need be, and the workspace afterwards. With
`complete`, the structs found in the node by value are laid out. -/
def produce (w : Workspace) (n : NodeId) (complete : Bool) : Except Diagnostic Ty × Workspace :=
  (produceWithin w.depth n complete w).get (w.isSome_produceWithin n complete)

end Workspace

end ShaderLowering
