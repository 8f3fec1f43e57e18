import ShaderLowering.Proofs.TypeGraph.Answer

/-!
# Production is answering

The monadic program `ShaderLowering.produceWithin` is taken apart here, once. A step
that comes to an end consists of the steps it is composed of, each of them come to an
end (`ShaderLowering.Production.of_bind`, `ShaderLowering.Production.inTurn_of_mapM`),
so that a production is an `ShaderLowering.Answer` to its request whose inner requests
are productions with less depth (`ShaderLowering.answer_of_produceWithin`). Nothing
after this file mentions depth again.

What a production does to a workspace it does in steps of five kinds
(`ShaderLowering.Workspace.Works`), and what each of them keeps is kept
(`ShaderLowering.Produced.keeps`). Where it matters which productions a step is inside
of, there is `ShaderLowering.Produced.induct`.
-/

namespace ShaderLowering

namespace Production

variable {α β : Type} {w w' : Workspace}

theorem bind_apply (step : Production α) (next : α → Production β) (w : Workspace) :
    (step >>= next) w = (step w).bind fun p =>
      match p.1 with
      | .ok a => next a p.2
      | .error d => some (.error d, p.2) := by
  change (StateT.bind step (ExceptT.bindCont next)) w = _
  simp only [StateT.bind]
  rcases step w with _ | ⟨_ | _, _⟩ <;> rfl

/-- One step after another either reports in the first or goes on to the second. -/
theorem of_bind {step : Production α} {next : α → Production β} {result : Except Diagnostic β}
    (h : (step >>= next) w = some (result, w')) :
    (∃ d, step w = some (.error d, w') ∧ result = .error d) ∨
      ∃ a w₁, step w = some (.ok a, w₁) ∧ next a w₁ = some (result, w') := by
  rw [bind_apply, Option.bind_eq_some_iff] at h
  obtain ⟨⟨first, w₁⟩, hstep, hnext⟩ := h
  cases first with
  | error d =>
    cases hnext
    exact Or.inl ⟨d, hstep, rfl⟩
  | ok a => exact Or.inr ⟨a, w₁, hstep, hnext⟩

theorem of_pure {a : α} {result : Except Diagnostic α}
    (h : (pure a : Production α) w = some (result, w')) : result = .ok a ∧ w' = w := by
  cases h
  exact ⟨rfl, rfl⟩

theorem of_throw {d : Diagnostic} {result : Except Diagnostic α}
    (h : (throw d : Production α) w = some (result, w')) : result = .error d ∧ w' = w := by
  cases h
  exact ⟨rfl, rfl⟩

/-- Steps that answer requests, done for each member of a list, answer them in turn. -/
theorem inTurn_of_mapM {answers : Answers} {step : α → Production Ty} {request : α → Request}
    (hstep : ∀ a w result w', step a w = some (result, w') → answers (request a) w result w')
    {as : List α} {result : Except Diagnostic (List Ty)}
    (h : (as.mapM step) w = some (result, w')) :
    InTurn answers (as.map request) w result w' := by
  induction as generalizing w result with
  | nil =>
    rw [List.mapM_nil] at h
    obtain ⟨rfl, rfl⟩ := of_pure h
    exact .nil _
  | cons a as ih =>
    rw [List.mapM_cons] at h
    rcases of_bind h with ⟨d, hd, rfl⟩ | ⟨t, w₁, ht, hrest⟩
    · exact .stop (hstep _ _ _ _ hd)
    · rcases of_bind hrest with ⟨d, hd, rfl⟩ | ⟨ts, w₂, hts, hend⟩
      · exact .stopLater (hstep _ _ _ _ ht) (ih hd)
      · obtain ⟨rfl, rfl⟩ := of_pure hend
        exact .cons (hstep _ _ _ _ ht) (ih hts)

/-- The data of a formed type is found by answering the requests it is formed by. -/
theorem of_formedData {answers : Answers} {request : NodeId → Bool → Production Ty}
    (hrequest : ∀ r w result w', request r.node r.complete w = some (result, w') →
      answers r w result w')
    {start : Nat} {complete : Bool} {former : Former} {result : Except Diagnostic TypeData}
    (h : formedData request start complete former w = some (result, w')) :
    (∃ storage, former = .pointer none storage ∧
        result = .error (.pointing start .unboundPointer) ∧ w' = w) ∨
      (∃ d, result = .error d ∧ InTurn answers (former.requests complete) w (.error d) w') ∨
      ∃ types data, result = .ok data ∧ former.data? types = some data ∧
        InTurn answers (former.requests complete) w (.ok types) w' := by
  match former with
  | .pointer none storage =>
    obtain ⟨rfl, rfl⟩ := of_throw h
    exact Or.inl ⟨storage, rfl, rfl, rfl⟩
  | .pointer (some pointee) _ =>
    rcases of_bind h with ⟨d, hd, rfl⟩ | ⟨t, w₁, ht, hend⟩
    · exact Or.inr (Or.inl ⟨d, rfl, .stop (hrequest ⟨pointee, false⟩ _ _ _ hd)⟩)
    · obtain ⟨rfl, rfl⟩ := of_pure hend
      exact Or.inr (Or.inr ⟨[t], _, rfl, rfl,
        .cons (hrequest ⟨pointee, false⟩ _ _ _ ht) (.nil _)⟩)
  | .function res args variadic =>
    rcases of_bind h with ⟨d, hd, rfl⟩ | ⟨t, w₁, ht, hrest⟩
    · exact Or.inr (Or.inl ⟨d, rfl, .stop (hrequest ⟨res, complete⟩ _ _ _ hd)⟩)
    · have hargs {result : Except Diagnostic (List Ty)} {w₂ : Workspace}
          (h : (args.mapM fun arg => request arg complete) w₁ = some (result, w₂)) :
          InTurn answers (args.map fun arg => ⟨arg, complete⟩) w₁ result w₂ :=
        inTurn_of_mapM (fun arg => hrequest ⟨arg, complete⟩) h
      rcases of_bind hrest with ⟨d, hd, rfl⟩ | ⟨ts, w₂, hts, hend⟩
      · exact Or.inr (Or.inl ⟨d, rfl,
          .stopLater (hrequest ⟨res, complete⟩ _ _ _ ht) (hargs hd)⟩)
      · obtain ⟨rfl, rfl⟩ := of_pure hend
        exact Or.inr (Or.inr ⟨t :: ts, _, rfl, rfl,
          .cons (hrequest ⟨res, complete⟩ _ _ _ ht) (hargs hts)⟩)
  | .array element count =>
    rcases of_bind h with ⟨d, hd, rfl⟩ | ⟨t, w₁, ht, hend⟩
    · exact Or.inr (Or.inl ⟨d, rfl, .stop (hrequest ⟨element, complete⟩ _ _ _ hd)⟩)
    · obtain ⟨rfl, rfl⟩ := of_pure hend
      exact Or.inr (Or.inr ⟨[t], _, rfl, rfl,
        .cons (hrequest ⟨element, complete⟩ _ _ _ ht) (.nil _)⟩)

/-- Guarded work is refused for want of room, or is done between entering the node and
leaving it. -/
theorem of_guarded {n : NodeId} {node : Node} {work : Bool → Production α}
    {result : Except Diagnostic α} (hn : w.node? n = some node)
    (h : guarded n work w = some (result, w')) :
    (maxHeld ≤ node.guard.held ∧ result = .error (.pointing node.start .tooManyRecursions) ∧
        w' = w) ∨
      (node.guard.held < maxHeld ∧
        ∃ w₁, work (decide (0 < node.guard.held)) (w.enter n) = some (result, w₁) ∧
          w' = w₁.leave n) := by
  simp only [guarded, hn] at h
  by_cases hroom : node.guard.held < maxHeld
  · have hacquire : node.guard.acquire? = some ⟨node.guard.held + 1⟩ := by
      simp [Guard.acquire?, hroom]
    have henter : (w.modify n fun before => { before with guard := ⟨node.guard.held + 1⟩ }) =
        w.enter n := Workspace.modify_congr hn rfl
    have hnested : Guard.isNested ⟨node.guard.held + 1⟩ = decide (0 < node.guard.held) := by
      simp [Guard.isNested]
    simp only [hacquire, henter, hnested] at h
    obtain ⟨⟨inner, w₁⟩, hwork, hend⟩ := Option.bind_eq_some_iff.mp h
    cases hend
    exact Or.inr ⟨hroom, w₁, hwork, rfl⟩
  · have hacquire : node.guard.acquire? = none := by simp [Guard.acquire?, hroom]
    simp only [hacquire, Option.some.injEq, Prod.mk.injEq] at h
    obtain ⟨rfl, rfl⟩ := h
    exact Or.inl ⟨Nat.le_of_not_lt hroom, rfl, rfl⟩

theorem nodeAt_eq {n : NodeId} {node : Node} (hn : w.node? n = some node) :
    nodeAt n w = some (.ok node, w) := by
  have hget : (get : Production Workspace) w = some (.ok w, w) := rfl
  rw [nodeAt, bind_apply, hget]
  simp only [Option.bind_some, hn]
  rfl

theorem nodeAt_eq_of_none {n : NodeId} (hn : w.node? n = none) :
    nodeAt n w = some (.error (.pointing 0 (.unknownNode n.index)), w) := by
  have hget : (get : Production Workspace) w = some (.ok w, w) := rfl
  rw [nodeAt, bind_apply, hget]
  simp only [Option.bind_some, hn]
  rfl

/-- Laying out a struct is refused if it was found within itself, or if its type is
refused the body. -/
theorem of_layOut {n : NodeId} {node : Node} {type : Ty} {members : List Ty}
    {result : Except Diagnostic Unit} (hn : w.node? n = some node)
    (h : layOut n type members w = some (result, w')) :
    (w.Looped n ∧ result = .error (.pointing node.start .tooManyRecursions) ∧ w' = w) ∨
      (¬w.Looped n ∧
        ((∃ fault, w.arena.setBody type members false = .error fault ∧
            result = .error (.pointing node.start (.refusedType fault)) ∧ w' = w) ∨
          ∃ arena, w.arena.setBody type members false = .ok arena ∧ result = .ok () ∧
            w' = w.layOut n arena)) := by
  have hlooped : w.Looped n ↔ node.layout?.any Layout.containsItself = true := by
    simp [Workspace.Looped, Workspace.layout?, hn, Option.any_eq_true]
  rw [layOut, bind_apply, nodeAt_eq hn] at h
  simp only [Option.bind_some] at h
  split at h
  · rename_i hl
    obtain ⟨rfl, rfl⟩ := of_throw h
    exact Or.inl ⟨hlooped.mpr hl, rfl, rfl⟩
  · rename_i hl
    refine Or.inr ⟨fun hcon => hl (hlooped.mp hcon), ?_⟩
    rw [bind_apply, setBody] at h
    cases hb : w.arena.setBody type members false with
    | error fault =>
      simp only [hb, Option.bind_some, Option.some.injEq, Prod.mk.injEq] at h
      obtain ⟨rfl, rfl⟩ := h
      exact Or.inl ⟨fault, rfl, rfl, rfl⟩
    | ok arena =>
      simp only [hb, Option.bind_some] at h
      cases h
      exact Or.inr ⟨arena, rfl, rfl, rfl⟩

end Production

open Production

/-- What a production with some depth, and the productions inside it, do. -/
abbrev ProducedWithin (depth : Nat) : Answers := fun r w result w' =>
  produceWithin depth r.node r.complete w = some (result, w')

/-- A formed type is made from what the requests inside give, and remembered. -/
theorem answer_of_formed {depth : Nat} {n : NodeId} {complete : Bool} {node : Node}
    {former : Former} {w w' : Workspace} {result : Except Diagnostic Ty}
    (hn : w.node? n = some node) (hs : node.shape = .formed former none)
    (h : guarded n (fun _ => do
      let data ← formedData (produceWithin depth) node.start complete former
      let type ← intern data
      remember n type
      return type) w = some (result, w')) :
    Answer (ProducedWithin depth) ⟨n, complete⟩ w result w' := by
  have hk : node.known? complete = none := by rw [Node.known?, hs]
  rcases of_guarded hn h with ⟨hfull, rfl, rfl⟩ | ⟨hroom, w₁, hwork, rfl⟩
  · exact .full hn hk hfull
  · have ho : node.Opens complete :=
      ⟨hk, hroom, fun hstruct => by simp [Node.isStruct, Node.layout?, hs] at hstruct⟩
    have hrequests : node.requests complete = former.requests complete := by
      rw [Node.requests, hs]
    rcases of_bind hwork with ⟨d, hd, rfl⟩ | ⟨data, w₂, hdata, hend⟩
    · rcases of_formedData (fun _ _ _ _ h => h) hd with
        ⟨storage, rfl, hresult, rfl⟩ | ⟨d', hresult, hturn⟩ | ⟨types, data, hresult, -, -⟩
      · cases hresult
        rw [Workspace.leave_enter]
        exact .unbound hn hs hroom
      · cases hresult
        exact .failed hn ho (hrequests ▸ hturn)
      · exact absurd hresult (by simp)
    · rcases of_formedData (fun _ _ _ _ h => h) hdata with
        ⟨storage, -, hresult, -⟩ | ⟨d', hresult, -⟩ | ⟨types, data', hresult, hd, hturn⟩
      · exact absurd hresult (by simp)
      · exact absurd hresult (by simp)
      · cases hresult
        cases hend
        exact .formed hn hs ho (hrequests ▸ hturn) hd

/-- A struct whose complete type is asked for is found to lie within itself, or is laid
out from what the requests inside give; if neither is reported, its type is answered. -/
theorem answer_of_struct {depth : Nat} {n : NodeId} {complete : Bool} {node : Node}
    {type : Ty} {layout : Layout} {w w' : Workspace} {result : Except Diagnostic Unit}
    (hskeleton : ∀ r w result w', ProducedWithin depth r w result w' → w'.skeleton = w.skeleton)
    (hn : w.node? n = some node) (hs : node.shape = .struct type layout)
    (hk : node.known? complete = none)
    (h : guarded n (fun nested =>
        if nested then modifyLayout n Layout.looped
        else do
          let members ← layout.members.mapM fun m => produceWithin depth m.type true
          layOut n type members) w = some (result, w')) :
    Answer (ProducedWithin depth) ⟨n, complete⟩ w (result.map fun _ => type) w' := by
  have hrequests : node.requests complete = layout.members.map fun m => ⟨m.type, true⟩ := by
    rw [Node.requests, hs]
  have hturn {result : Except Diagnostic (List Ty)} {w₁ : Workspace}
      (h : (layout.members.mapM fun m => produceWithin depth m.type true) (w.enter n) =
        some (result, w₁)) :
      InTurn (ProducedWithin depth) (node.requests complete) (w.enter n) result w₁ :=
    hrequests ▸ inTurn_of_mapM (fun (m : Member) _ _ _ h => h) h
  rcases of_guarded hn h with ⟨hfull, rfl, rfl⟩ | ⟨hroom, w₂, hwork, rfl⟩
  · exact .full hn hk hfull
  · by_cases hheld : 0 < node.guard.held
    · rw [if_pos (decide_eq_true hheld)] at hwork
      cases hwork
      -- entering and leaving a node that is marked in between comes to marking it
      rw [Workspace.enter, Workspace.leave, Workspace.modify_modify, Workspace.modify_modify]
      rw [Workspace.modify_congr hn (g := fun node => node.mapLayout Layout.looped)
        (node.released_mapLayout_entered _)]
      exact .nested hn hs hk hroom hheld
    · have ho : node.Opens complete := ⟨hk, hroom, fun _ => by omega⟩
      rw [if_neg (by simp [hheld])] at hwork
      rcases of_bind hwork with ⟨d, hd, rfl⟩ | ⟨types, w₃, htypes, hlayout⟩
      · exact .failed hn ho (hturn hd)
      · -- the node is still there when the members have been produced, and starts where it did
        obtain ⟨node₃, hn₃, hskel⟩ := Workspace.exists_node_of_skeleton_eq
          (((hturn htypes).imp hskeleton).keeps (R := fun w w' => w'.skeleton = w.skeleton)
            (fun _ => rfl) fun h h' => h'.trans h)
          (Workspace.node?_modify_self hn Node.entered)
        have hstart : node₃.start = node.start := by
          rw [← node₃.start_skeleton, hskel, Node.start_skeleton]
          rfl
        rcases of_layOut hn₃ hlayout with
          ⟨hl, rfl, rfl⟩ | ⟨hl, ⟨fault, hb, rfl, rfl⟩ | ⟨arena, hb, rfl, rfl⟩⟩
        · rw [hstart]
          exact .looped hn hs ho (hturn htypes) hl
        · rw [hstart]
          exact .refused hn hs ho (hturn htypes) hl hb
        · exact .laidOut hn hs ho (hturn htypes) hl hb

/-- **A production is an answer**, the requests inside it being productions with less
depth. That those leave skeletons alone is needed to find the node again when its
members have been produced. -/
theorem answer_of_produceWithin {depth : Nat} {r : Request} {w w' : Workspace}
    {result : Except Diagnostic Ty}
    (hskeleton : ∀ r w result w', ProducedWithin depth r w result w' → w'.skeleton = w.skeleton)
    (h : ProducedWithin (depth + 1) r w result w') :
    Answer (ProducedWithin depth) r w result w' := by
  obtain ⟨n, complete⟩ := r
  change produceWithin (depth + 1) n complete w = some (result, w') at h
  rw [produceWithin, bind_apply] at h
  cases hn : w.node? n with
  | none =>
    rw [nodeAt_eq_of_none hn] at h
    cases h
    exact .missing hn
  | some node =>
    rw [nodeAt_eq hn] at h
    simp only [Option.bind_some] at h
    cases hs : node.shape with
    | simple type =>
      simp only [hs] at h
      obtain ⟨rfl, rfl⟩ := of_pure h
      exact .known hn (by rw [Node.known?, hs])
    | formed former made =>
      cases made with
      | some type =>
        simp only [hs] at h
        obtain ⟨rfl, rfl⟩ := of_pure h
        exact .known hn (by rw [Node.known?, hs])
      | none =>
        simp only [hs] at h
        exact answer_of_formed hn hs h
    | struct type layout =>
      simp only [hs] at h
      by_cases hopen : (complete && !layout.complete) = true
      · rw [if_pos hopen] at h
        have hk : node.known? complete = none := by
          simp only [Node.known?, hs, if_pos hopen]
        rcases of_bind h with ⟨d, hguarded, rfl⟩ | ⟨_, w₁, hguarded, hend⟩
        · exact answer_of_struct hskeleton hn hs hk hguarded
        · obtain ⟨rfl, rfl⟩ := of_pure hend
          exact answer_of_struct hskeleton hn hs hk hguarded
      · rw [if_neg hopen] at h
        obtain ⟨rfl, rfl⟩ := of_pure h
        refine .known hn ?_
        simp only [Node.known?, hs, if_neg hopen]

theorem skeleton_eq_of_produceWithin {depth : Nat} {r : Request} {w w' : Workspace}
    {result : Except Diagnostic Ty} (h : ProducedWithin depth r w result w') :
    w'.skeleton = w.skeleton := by
  induction depth generalizing r w result w' with
  | zero => exact nomatch h
  | succ depth ih =>
    have hskeleton r w result w' (h : ProducedWithin depth r w result w') := ih h
    exact (answer_of_produceWithin hskeleton h).skeleton_eq hskeleton

/-! ### Productions without depth -/

/-- The answer to a request that is given when there is depth enough. -/
def Produced : Answers := fun r w result w' =>
  ∃ depth, produceWithin depth r.node r.complete w = some (result, w')

namespace Produced

variable {r : Request} {w w' : Workspace} {result : Except Diagnostic Ty}

theorem answer (h : Produced r w result w') : Answer Produced r w result w' := by
  obtain ⟨depth, h⟩ := h
  cases depth with
  | zero => exact nomatch h
  | succ depth =>
    exact (answer_of_produceWithin (fun _ _ _ _ => skeleton_eq_of_produceWithin) h).imp
      fun _ _ _ _ h => ⟨depth, h⟩

/-- **Induction over a production.** What holds of a request whenever it holds of the
requests made inside it holds of every request that is produced. -/
theorem induct {motive : Answers}
    (step : ∀ {r w result w'},
      Answer (fun r w result w' => Produced r w result w' ∧ motive r w result w') r w result w' →
      motive r w result w')
    (h : Produced r w result w') : motive r w result w' := by
  obtain ⟨depth, h⟩ := h
  induction depth generalizing r w result w' with
  | zero => exact nomatch h
  | succ depth ih =>
    exact step ((answer_of_produceWithin (fun _ _ _ _ => skeleton_eq_of_produceWithin) h).imp
      fun _ _ _ _ h => ⟨⟨depth, h⟩, ih h⟩)

theorem skeleton_eq (h : Produced r w result w') : w'.skeleton = w.skeleton :=
  h.elim fun _ => skeleton_eq_of_produceWithin

/-- Only a node that is there is answered. -/
theorem isSome_node? {t : Ty} (h : Produced r w (.ok t) w') : (w.node? r.node).isSome := by
  cases h.answer with
  | known hn | nested hn | formed hn | laidOut hn => exact Option.isSome_of_eq_some hn

/-- Every guard is as it was when a production is over. -/
theorem held_eq (h : Produced r w result w') : w'.held = w.held := by
  refine h.induct (motive := fun _ w _ w' => w'.held = w.held) fun h => ?_
  have hturn {rs : List Request} {w w' : Workspace} {result : Except Diagnostic (List Ty)}
      (h : InTurn (fun r w result w' => Produced r w result w' ∧ w'.held = w.held)
        rs w result w') : w'.held = w.held :=
    h.right.keeps (R := fun w w' => w'.held = w.held) (fun _ => rfl)
      fun h h' => h'.trans h
  cases h with
  | missing | known | full | unbound => rfl
  | nested => exact Workspace.held_modify fun node => node.guard_mapLayout _
  | failed hn ho h => exact Workspace.held_leave_of_eq hn (hturn h)
  | looped hn hs ho h hl => exact Workspace.held_leave_of_eq hn (hturn h)
  | refused hn hs ho h hl hb => exact Workspace.held_leave_of_eq hn (hturn h)
  | formed hn hs ho h hd =>
    refine Workspace.held_leave_of_eq hn (Eq.trans ?_ (hturn h))
    exact Workspace.held_modify fun node => node.guard_withMade _
  | laidOut hn hs ho h hl hb =>
    refine Workspace.held_leave_of_eq hn (Eq.trans ?_ (hturn h))
    exact Workspace.held_modify fun node => node.guard_mapLayout _

end Produced

theorem InTurn.skeleton_eq {rs : List Request} {w w' : Workspace}
    {result : Except Diagnostic (List Ty)} (h : InTurn Produced rs w result w') :
    w'.skeleton = w.skeleton :=
  (h.imp fun _ _ _ _ h => h.skeleton_eq).keeps (R := fun w w' => w'.skeleton = w.skeleton)
    (fun _ => rfl) fun h h' => h'.trans h

theorem InTurn.held_eq {rs : List Request} {w w' : Workspace}
    {result : Except Diagnostic (List Ty)} (h : InTurn Produced rs w result w') :
    w'.held = w.held :=
  (h.imp fun _ _ _ _ h => h.held_eq).keeps (R := fun w w' => w'.held = w.held)
    (fun _ => rfl) fun h h' => h'.trans h

/-! ### The steps of a production -/

namespace Workspace

/-- **What is done in a production**, one thing at a time. -/
inductive Works (w : Workspace) : Workspace → Prop
  /-- A node is entered. -/
  | enter (n : NodeId) : Works w (w.enter n)
  /-- A node is left. -/
  | leave (n : NodeId) : Works w (w.leave n)
  /-- A struct is found among its own members. -/
  | looped {n : NodeId} {t : Ty} {layout : Layout} (hs : w.shape? n = some (.struct t layout)) :
    Works w (w.modify n fun node => node.mapLayout Layout.looped)
  /-- A type is formed. -/
  | form {n : NodeId} {former : Former} {made : Option Ty} {types : List Ty} {data : TypeData}
      (hs : w.shape? n = some (.formed former made)) (hd : former.data? types = some data) :
    Works w (w.form n data)
  /-- A struct is laid out. -/
  | layOut {n : NodeId} {t : Ty} {layout : Layout} {types : List Ty} {arena : TypeArena}
      (hs : w.shape? n = some (.struct t layout))
      (hb : w.arena.setBody t types false = .ok arena) :
    Works w (w.layOut n arena)

end Workspace

/-- **What every step keeps, a production keeps.** -/
theorem Produced.keeps {R : Workspace → Workspace → Prop} (hrefl : ∀ w, R w w)
    (htrans : ∀ {u v w}, R u v → R v w → R u w)
    (hworks : ∀ {w w' : Workspace}, w.Works w' → R w w') {r : Request} {w w' : Workspace}
    {result : Except Diagnostic Ty} (h : Produced r w result w') : R w w' := by
  refine h.induct (motive := fun _ w _ w' => R w w') fun {r w result w'} h => ?_
  have hturn {n : NodeId} {rs : List Request} {w₁ : Workspace}
      {result : Except Diagnostic (List Ty)}
      (h : InTurn (fun r w result w' => Produced r w result w' ∧ R w w') rs (w.enter n)
        result w₁) : R w w₁ ∧ w₁.skeleton = w.skeleton :=
    ⟨htrans (hworks (.enter n)) (h.right.keeps hrefl htrans),
      h.left.skeleton_eq.trans (w.skeleton_enter n)⟩
  cases h with
  | missing | known | full | unbound => exact hrefl _
  | nested hn hs => exact hworks (.looped (Workspace.shape?_eq_of_shape_eq hn hs))
  | failed hn ho h => exact htrans (hturn h).1 (hworks (.leave _))
  | looped hn hs ho h hl => exact htrans (hturn h).1 (hworks (.leave _))
  | refused hn hs ho h hl hb => exact htrans (hturn h).1 (hworks (.leave _))
  -- the node declares after the requests inside what it declared before
  | formed hn hs ho h hd =>
    obtain ⟨hinner, hskeleton⟩ := hturn h
    obtain ⟨made, hs₁⟩ := Workspace.formed_of_skeleton_eq hskeleton
      (Workspace.shape?_eq_of_shape_eq hn hs)
    exact htrans (htrans hinner (hworks (.form hs₁ hd))) (hworks (.leave _))
  | laidOut hn hs ho h hl hb =>
    obtain ⟨hinner, hskeleton⟩ := hturn h
    obtain ⟨layout₁, hs₁, -⟩ := Workspace.struct_of_skeleton_eq hskeleton
      (Workspace.shape?_eq_of_shape_eq hn hs)
    exact htrans (htrans hinner (hworks (.layOut hs₁ hb))) (hworks (.leave _))

/-- What every step preserves, a production preserves. -/
theorem Produced.preserves {P : Workspace → Prop}
    (hworks : ∀ {w w' : Workspace}, w.Works w' → P w → P w') {r : Request} {w w' : Workspace}
    {result : Except Diagnostic Ty} (h : Produced r w result w') (hw : P w) : P w' :=
  h.keeps (R := fun w w' => P w → P w') (fun _ => id) (fun h h' => h' ∘ h) hworks hw

/-- **What the requests inside keep**, if each of them keeps it under a condition that
answering the others does not touch. -/
theorem InTurn.keeps_within {P : Request → Workspace → Prop} {R : Workspace → Workspace → Prop}
    (hrefl : ∀ w, R w w) (htrans : ∀ {u v w}, R u v → R v w → R u w)
    (hstable : ∀ {r r' w result w'}, Produced r' w result w' → P r' w → P r w → P r w')
    {rs : List Request} {w w' : Workspace} {result : Except Diagnostic (List Ty)}
    (h : InTurn (fun r w result w' => Produced r w result w' ∧ (P r w → R w w'))
      rs w result w') (hpre : ∀ r ∈ rs, P r w) : R w w' := by
  have hlater {r r' : Request} {rs : List Request} {w w₁ : Workspace}
      {result : Except Diagnostic Ty} (hproduced : Produced r w result w₁)
      (hpre : ∀ r' ∈ r :: rs, P r' w) (hr' : r' ∈ rs) : P r' w₁ :=
    hstable hproduced (hpre r List.mem_cons_self) (hpre r' (List.mem_cons_of_mem _ hr'))
  induction h with
  | nil w => exact hrefl w
  | stop head => exact head.2 (hpre _ List.mem_cons_self)
  | stopLater head _ ih =>
    exact htrans (head.2 (hpre _ List.mem_cons_self)) (ih fun r hr => hlater head.1 hpre hr)
  | cons head _ ih =>
    exact htrans (head.2 (hpre _ List.mem_cons_self)) (ih fun r hr => hlater head.1 hpre hr)

/-- What a workspace produces is produced. -/
theorem Workspace.produced (w : Workspace) (n : NodeId) (complete : Bool) :
    Produced ⟨n, complete⟩ w (w.produce n complete).1 (w.produce n complete).2 :=
  ⟨w.depth, Option.some_get _ |>.symm⟩

end ShaderLowering
