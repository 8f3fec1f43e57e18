import ShaderLowering.Proofs.TypeGraph.History

/-!
# How deep requests are nested

The requests that are under way when another one is made form a stack: each was made
inside the one before it, by a node that the guard had let in. A request is
`ShaderLowering.AsksThrough` such a stack of another.

The stack is what depth counts. A production with a given depth comes to an end if, and
only if, no stack that is reached in its course takes up all of it
(`ShaderLowering.isSome_produceWithin_iff`); what comes to an end does so in the same way
with more depth (`ShaderLowering.produceWithin_eq_of_le`). The guards, in turn, bound the
stacks, since each node is held once for every request of it on the stack
(`ShaderLowering.AsksThrough.held_eq`). Together this says that production ends, whatever
the graph is (`ShaderLowering.Workspace.produce_ends`).
-/

namespace ShaderLowering

/-- **A request made in the course of another**, with the workspace in which it is made and
with the requests that are under way then, the outermost first. -/
inductive AsksThrough : Request → Workspace → List Request → Request → Workspace → Prop
  /-- The request itself; nothing else is under way. -/
  | self (r : Request) (w : Workspace) : AsksThrough r w [] r w
  /-- A request made inside, after those before it have been answered. -/
  | inner {n : NodeId} {complete : Bool} {w w₁ w₂ : Workspace} {node : Node}
      {before after under : List Request} {r r' : Request} {types : List Ty}
      (hn : w.node? n = some node) (ho : node.Opens complete)
      (hrs : node.requests complete = before ++ r :: after)
      (hbefore : InTurn Produced before (w.enter n) (.ok types) w₁)
      (h : AsksThrough r w₁ under r' w₂) :
    AsksThrough ⟨n, complete⟩ w (⟨n, complete⟩ :: under) r' w₂

/-! ### More depth changes nothing -/

namespace Production

variable {α β : Type} {step step' : Production α} {w w' : Workspace}

/-- Wherever the first step comes to an end, the second does so in the same way. -/
def Approximates (step step' : Production α) : Prop :=
  ∀ w p, step w = some p → step' w = some p

theorem Approximates.refl (step : Production α) : Approximates step step :=
  fun _ _ h => h

theorem Approximates.bind {next next' : α → Production β} (hstep : Approximates step step')
    (hnext : ∀ a, Approximates (next a) (next' a)) :
    Approximates (step >>= next) (step' >>= next') := by
  rintro w ⟨result, w'⟩ h
  rcases of_bind h with ⟨d, hd, rfl⟩ | ⟨a, w₁, ha, hrest⟩
  · rw [bind_apply, hstep _ _ hd]
    rfl
  · rw [bind_apply, hstep _ _ ha]
    exact hnext a _ _ hrest

theorem Approximates.mapM {step step' : α → Production β} (h : ∀ a, Approximates (step a) (step' a))
    (as : List α) : Approximates (as.mapM step) (as.mapM step') := by
  induction as with
  | nil => exact .refl _
  | cons a as ih =>
    rw [List.mapM_cons, List.mapM_cons]
    exact (h a).bind fun b => ih.bind fun bs => .refl _

theorem Approximates.formedData {request request' : NodeId → Bool → Production Ty}
    (h : ∀ n complete, Approximates (request n complete) (request' n complete)) (start : Nat)
    (complete : Bool) (former : Former) :
    Approximates (formedData request start complete former)
      (formedData request' start complete former) := by
  match former with
  | .pointer none _ => exact .refl _
  | .pointer (some pointee) _ => exact (h _ _).bind fun _ => .refl _
  | .function result args variadic =>
    exact (h _ _).bind fun _ => (Approximates.mapM (fun arg => h arg complete) args).bind
      fun _ => .refl _
  | .array element count => exact (h _ _).bind fun _ => .refl _

theorem Approximates.guarded (n : NodeId) {work work' : Bool → Production α}
    (h : ∀ nested, Approximates (work nested) (work' nested)) :
    Approximates (guarded n work) (guarded n work') := by
  intro w p hp
  cases hn : w.node? n with
  | none =>
    simp only [Production.guarded, hn] at hp ⊢
    exact hp
  | some node =>
    cases hacquire : node.guard.acquire? with
    | none =>
      simp only [Production.guarded, hn, hacquire] at hp ⊢
      exact hp
    | some guard =>
      simp only [Production.guarded, hn, hacquire] at hp ⊢
      obtain ⟨⟨result, w₁⟩, hwork, hend⟩ := Option.bind_eq_some_iff.mp hp
      exact Option.bind_eq_some_iff.mpr ⟨_, h _ _ _ hwork, hend⟩

theorem approximates_succ (depth : Nat) (n : NodeId) (complete : Bool) :
    Approximates (produceWithin depth n complete) (produceWithin (depth + 1) n complete) := by
  induction depth generalizing n complete with
  | zero =>
    intro w p h
    cases h
  | succ depth ih =>
    rw [produceWithin, produceWithin]
    refine (Approximates.refl (nodeAt n)).bind fun node => ?_
    obtain ⟨start, guard, type | ⟨former, _ | type⟩ | ⟨type, layout⟩⟩ := node
    · exact .refl _
    · exact .guarded n fun _ => (Approximates.formedData ih _ _ _).bind fun _ => .refl _
    · exact .refl _
    · dsimp only
      split
      · refine (Approximates.guarded n fun nested => ?_).bind fun _ => .refl _
        split
        · exact .refl _
        · exact (Approximates.mapM (fun m : Member => ih m.type true) _).bind fun _ => .refl _
      · exact .refl _

end Production

open Production

/-- **What comes to an end does so in the same way with more depth.** -/
theorem produceWithin_eq_of_le {depth depth' : Nat} (hle : depth ≤ depth') {n : NodeId}
    {complete : Bool} {w : Workspace} {p : Except Diagnostic Ty × Workspace}
    (h : produceWithin depth n complete w = some p) :
    produceWithin depth' n complete w = some p := by
  induction hle with
  | refl => exact h
  | step _ ih => exact approximates_succ _ n complete w p ih

/-- A request is produced in one way only. -/
theorem Produced.unique {r : Request} {w w₁ w₂ : Workspace} {first second : Except Diagnostic Ty}
    (h : Produced r w first w₁) (h' : Produced r w second w₂) : first = second ∧ w₁ = w₂ := by
  obtain ⟨depth, h⟩ := h
  obtain ⟨depth', h'⟩ := h'
  have heq := (produceWithin_eq_of_le (Nat.le_max_left depth depth') h).symm.trans
    (produceWithin_eq_of_le (Nat.le_max_right depth depth') h')
  exact Prod.mk.inj (Option.some.inj heq)

/-- Requests that are answered with some depth are, in turn, each answered with it. -/
theorem InTurn.isSome_produceWithin {depth : Nat} {before after : List Request} {r : Request}
    {w w₁ w' : Workspace} {result : Except Diagnostic (List Ty)} {types : List Ty}
    (h : InTurn (ProducedWithin depth) (before ++ r :: after) w result w')
    (hbefore : InTurn Produced before w (.ok types) w₁) :
    (produceWithin depth r.node r.complete w₁).isSome := by
  induction before generalizing w types result with
  | nil =>
    cases hbefore
    cases h with
    | stop head | stopLater head | cons head => exact Option.isSome_of_eq_some head
  | cons r₀ before ih =>
    cases hbefore with
    | cons head₁ tail₁ =>
      cases h with
      | stop head => exact absurd (head₁.unique ⟨depth, head⟩).1 (by simp)
      | stopLater head tail =>
        obtain ⟨-, rfl⟩ := head₁.unique ⟨depth, head⟩
        exact ih tail tail₁
      | cons head tail =>
        obtain ⟨-, rfl⟩ := head₁.unique ⟨depth, head⟩
        exact ih tail tail₁

/-- The requests of a node that opens are all reached, if the node is answered. -/
theorem inTurn_of_produceWithin {depth : Nat} {n : NodeId} {complete : Bool} {node : Node}
    {w : Workspace} (hn : w.node? n = some node) (ho : node.Opens complete)
    (hrs : node.requests complete ≠ [])
    (h : (produceWithin (depth + 1) n complete w).isSome) :
    ∃ result w', InTurn (ProducedWithin depth) (node.requests complete) (w.enter n) result w' := by
  obtain ⟨⟨result, w'⟩, hrun⟩ := Option.isSome_iff_exists.mp h
  have hanswer : Answer (ProducedWithin depth) ⟨n, complete⟩ w result w' :=
    answer_of_produceWithin (fun _ _ _ _ => skeleton_eq_of_produceWithin) hrun
  cases hanswer with
  | missing hn' => exact absurd (hn.symm.trans hn') (by simp)
  | known hn' ht =>
    obtain rfl := Option.some.inj (hn.symm.trans hn')
    exact absurd (ho.unknown.symm.trans ht) (by simp)
  | full hn' _ hfull =>
    obtain rfl := Option.some.inj (hn.symm.trans hn')
    exact absurd ho.room (Nat.not_lt.mpr hfull)
  | nested hn' hs _ _ hheld =>
    obtain rfl := Option.some.inj (hn.symm.trans hn')
    have hzero := ho.first (by simp [Node.isStruct, Node.layout?, hs])
    exact absurd hheld (by omega)
  | unbound hn' hs =>
    obtain rfl := Option.some.inj (hn.symm.trans hn')
    exact absurd (by simp [Node.requests, hs, Former.requests, Former.refs]) hrs
  | failed hn' _ h | formed hn' _ _ h | looped hn' _ _ h | refused hn' _ _ h | laidOut hn' _ _ h =>
    obtain rfl := Option.some.inj (hn.symm.trans hn')
    exact ⟨_, _, h⟩

/-! ### Where depth runs out -/

/-- Of requests made one after another there is one that is not answered with the depth
there is. -/
def FallsShort (depth : Nat) (rs : List Request) (w : Workspace) : Prop :=
  ∃ before r after types w₁, rs = before ++ r :: after ∧
    InTurn Produced before w (.ok types) w₁ ∧ produceWithin depth r.node r.complete w₁ = none

section FallsShort

variable {depth : Nat} {r : Request} {rs : List Request} {w w₁ : Workspace}

theorem FallsShort.head (h : produceWithin depth r.node r.complete w = none) :
    FallsShort depth (r :: rs) w :=
  ⟨[], r, rs, [], w, rfl, .nil w, h⟩

theorem FallsShort.tail {t : Ty} (hr : produceWithin depth r.node r.complete w = some (.ok t, w₁))
    (h : FallsShort depth rs w₁) : FallsShort depth (r :: rs) w := by
  obtain ⟨before, r', after, types, w₂, rfl, hbefore, hnone⟩ := h
  exact ⟨r :: before, r', after, t :: types, w₂, rfl, .cons ⟨depth, hr⟩ hbefore, hnone⟩

variable {α β : Type}

theorem of_bind_eq_none {step : Production α} {next : α → Production β}
    (h : (step >>= next) w = none) :
    step w = none ∨ ∃ a w₁, step w = some (.ok a, w₁) ∧ next a w₁ = none := by
  rw [bind_apply] at h
  cases hstep : step w with
  | none => exact Or.inl rfl
  | some p =>
    obtain ⟨result, w₁⟩ := p
    rw [hstep] at h
    cases result with
    | error d => exact nomatch h
    | ok a => exact Or.inr ⟨a, w₁, rfl, h⟩

theorem fallsShort_of_mapM (request : α → Request) {as : List α}
    (h : (as.mapM fun a => produceWithin depth (request a).node (request a).complete) w = none) :
    FallsShort depth (as.map request) w := by
  induction as generalizing w with
  | nil => exact nomatch h
  | cons a as ih =>
    rw [List.mapM_cons] at h
    rcases of_bind_eq_none h with ha | ⟨t, w₁, ha, hrest⟩
    · exact .head ha
    · rcases of_bind_eq_none hrest with has | ⟨ts, w₂, -, hend⟩
      · exact .tail ha (ih has)
      · exact nomatch hend

theorem fallsShort_of_formedData {start : Nat} {complete : Bool} {former : Former}
    (h : formedData (produceWithin depth) start complete former w = none) :
    FallsShort depth (former.requests complete) w := by
  match former with
  | .pointer none _ => exact nomatch h
  | .pointer (some pointee) _ =>
    rcases of_bind_eq_none h with hpointee | ⟨t, w₁, -, hend⟩
    · exact .head (r := ⟨pointee, false⟩) hpointee
    · exact nomatch hend
  | .function result args variadic =>
    rcases of_bind_eq_none h with hresult | ⟨t, w₁, hresult, hrest⟩
    · exact .head (r := ⟨result, complete⟩) hresult
    · rcases of_bind_eq_none hrest with hargs | ⟨ts, w₂, -, hend⟩
      · exact .tail (r := ⟨result, complete⟩) hresult
          (fallsShort_of_mapM (fun arg => ⟨arg, complete⟩) hargs)
      · exact nomatch hend
  | .array element count =>
    rcases of_bind_eq_none h with helement | ⟨t, w₁, -, hend⟩
    · exact .head (r := ⟨element, complete⟩) helement
    · exact nomatch hend

theorem of_guarded_eq_none {n : NodeId} {work : Bool → Production α}
    (h : guarded n work w = none) : ∃ node, w.node? n = some node ∧
      node.guard.held < maxHeld ∧ work (decide (0 < node.guard.held)) (w.enter n) = none := by
  cases hn : w.node? n with
  | none => simp [guarded, hn] at h
  | some node =>
    by_cases hroom : node.guard.held < maxHeld
    · have hacquire : node.guard.acquire? = some ⟨node.guard.held + 1⟩ := by
        simp [Guard.acquire?, hroom]
      have henter : (w.modify n fun before => { before with guard := ⟨node.guard.held + 1⟩ }) =
          w.enter n := Workspace.modify_congr hn rfl
      have hnested : Guard.isNested ⟨node.guard.held + 1⟩ = decide (0 < node.guard.held) := by
        simp [Guard.isNested]
      simp only [guarded, hn, hacquire, henter, hnested] at h
      refine ⟨node, rfl, hroom, ?_⟩
      cases hwork : work (decide (0 < node.guard.held)) (w.enter n) with
      | none => rfl
      | some p =>
        rw [hwork] at h
        cases h
    · have hacquire : node.guard.acquire? = none := by simp [Guard.acquire?, hroom]
      simp [guarded, hn, hacquire] at h

theorem layOut_ne_none (n : NodeId) (type : Ty) (members : List Ty) (w : Workspace) :
    layOut n type members w ≠ none := by
  have hsettles : Production.Settles (w.room + 1) (layOut n type members) :=
    settles_layOut n type members
  obtain ⟨result, w', hrun, -⟩ := hsettles w (Nat.lt_succ_self _)
  simp [hrun]

/-- **Depth runs out inside a node that opens**, at one of its requests. -/
theorem fallsShort_of_produceWithin {n : NodeId} {complete : Bool}
    (h : produceWithin (depth + 1) n complete w = none) :
    ∃ node, w.node? n = some node ∧ node.Opens complete ∧
      FallsShort depth (node.requests complete) (w.enter n) := by
  rw [produceWithin, bind_apply] at h
  cases hn : w.node? n with
  | none =>
    rw [nodeAt_eq_of_none hn] at h
    cases h
  | some node =>
    rw [nodeAt_eq hn] at h
    simp only [Option.bind_some] at h
    refine ⟨node, rfl, ?_⟩
    cases hs : node.shape with
    | simple type =>
      rw [hs] at h
      cases h
    | formed former made =>
      cases made with
      | some type =>
        rw [hs] at h
        cases h
      | none =>
        simp only [hs] at h
        obtain ⟨node', hn', hroom, hwork⟩ := of_guarded_eq_none h
        obtain rfl := Option.some.inj (hn.symm.trans hn')
        have ho : node.Opens complete := ⟨by rw [Node.known?, hs], hroom, fun hstruct => by
          simp [Node.isStruct, Node.layout?, hs] at hstruct⟩
        refine ⟨ho, ?_⟩
        rw [Node.requests, hs]
        rcases of_bind_eq_none hwork with hdata | ⟨data, w₁, -, hend⟩
        · exact fallsShort_of_formedData hdata
        · cases hend
    | struct type layout =>
      simp only [hs] at h
      by_cases hopen : (complete && !layout.complete) = true
      · rw [if_pos hopen] at h
        rcases of_bind_eq_none h with hguarded | ⟨_, w₁, -, hend⟩
        · obtain ⟨node', hn', hroom, hwork⟩ := of_guarded_eq_none hguarded
          obtain rfl := Option.some.inj (hn.symm.trans hn')
          by_cases hheld : 0 < node.guard.held
          · rw [if_pos (decide_eq_true hheld)] at hwork
            cases hwork
          · rw [if_neg (by simp [hheld])] at hwork
            refine ⟨⟨by simp only [Node.known?, hs, if_pos hopen], hroom, fun _ => by omega⟩, ?_⟩
            rw [Node.requests, hs]
            rcases of_bind_eq_none hwork with hmembers | ⟨types, w₁, -, hlayout⟩
            · exact fallsShort_of_mapM (fun m : Member => ⟨m.type, true⟩) hmembers
            · exact absurd hlayout (layOut_ne_none _ _ _ _)
        · cases hend
      · rw [if_neg hopen] at h
        cases h

end FallsShort

/-! ### Depth and nesting -/

namespace AsksThrough

variable {depth : Nat} {r r' : Request} {under : List Request} {w w₁ : Workspace}

/-- Where depth is enough, it is more than there is under way at any time. -/
theorem length_lt (h : AsksThrough r w under r' w₁)
    (hdepth : (produceWithin depth r.node r.complete w).isSome) : under.length < depth := by
  induction h generalizing depth with
  | self r w =>
    cases depth with
    | zero => exact absurd hdepth (by simp [produceWithin, outOfDepth])
    | succ depth => exact Nat.succ_pos _
  | @inner n complete w w₁ w₂ node before after under r r' types hn ho hrs hbefore h ih =>
    cases depth with
    | zero => exact absurd hdepth (by simp [produceWithin, outOfDepth])
    | succ depth =>
      obtain ⟨result, w', hturn⟩ := inTurn_of_produceWithin hn ho (by simp [hrs]) hdepth
      rw [hrs] at hturn
      exact Nat.succ_lt_succ (ih (hturn.isSome_produceWithin hbefore))

end AsksThrough

/-- Where depth is not enough, as much is under way at some time. -/
theorem exists_asksThrough {depth : Nat} {r : Request} {w : Workspace}
    (h : produceWithin depth r.node r.complete w = none) :
    ∃ under r' w₁, AsksThrough r w under r' w₁ ∧ depth ≤ under.length := by
  induction depth generalizing r w with
  | zero => exact ⟨[], r, w, .self r w, Nat.le_refl 0⟩
  | succ depth ih =>
    obtain ⟨node, hn, ho, before, r₁, after, types, w₁, hrs, hbefore, hnone⟩ :=
      fallsShort_of_produceWithin h
    obtain ⟨under, r', w₂, hasks, hlength⟩ := ih hnone
    exact ⟨r :: under, r', w₂, .inner hn ho hrs hbefore hasks, Nat.succ_le_succ hlength⟩

/-- **Depth is enough if, and only if, no request is nested deeper.** -/
theorem isSome_produceWithin_iff {depth : Nat} {r : Request} {w : Workspace} :
    (produceWithin depth r.node r.complete w).isSome ↔
      ∀ under r' w₁, AsksThrough r w under r' w₁ → under.length < depth := by
  constructor
  · exact fun h under r' w₁ hasks => hasks.length_lt h
  · intro h
    by_contra hnone
    rw [Option.not_isSome_iff_eq_none] at hnone
    obtain ⟨under, r', w₁, hasks, hlength⟩ := exists_asksThrough hnone
    exact absurd (h under r' w₁ hasks) (Nat.not_lt.mpr hlength)

/-! ### What the guards say of the stack -/

/-- A node that is let in is held no more than there is room for. -/
theorem Workspace.held_enter_le {w : Workspace} {node : Node} {n : NodeId}
    (hn : w.node? n = some node) (hroom : node.guard.held < maxHeld) (m : NodeId) :
    (w.enter n).held m ≤ max (w.held m) maxHeld := by
  by_cases hmn : m = n
  · rw [hmn, Workspace.held_enter_self hn, Workspace.held_eq hn]
    exact Nat.le_trans hroom (Nat.le_max_right _ _)
  · rw [Workspace.held_enter_of_ne hmn]
    exact Nat.le_max_left _ _

namespace AsksThrough

variable {r r' : Request} {under : List Request} {w w₁ : Workspace} {s : NodeId}

theorem skeleton_eq (h : AsksThrough r w under r' w₁) : w₁.skeleton = w.skeleton := by
  induction h with
  | self => rfl
  | @inner n complete w _ _ _ _ _ _ _ _ _ _ _ _ hbefore _ ih =>
    exact ih.trans (hbefore.skeleton_eq.trans (w.skeleton_enter n))

/-- **A node is held once for every request of it that is under way**, over and above what
it was held to begin with. -/
theorem held_eq (h : AsksThrough r w under r' w₁) (m : NodeId) :
    w₁.held m = w.held m + (under.map Request.node).count m := by
  induction h with
  | self => rfl
  | @inner n complete w w₁ w₂ node _ _ under _ _ _ hn _ _ hbefore _ ih =>
    rw [ih, congrFun hbefore.held_eq m, List.map_cons, List.count_cons]
    by_cases hmn : m = n
    · rw [hmn, Workspace.held_enter_self hn, if_pos (beq_self_eq_true n)]
      omega
    · rw [Workspace.held_enter_of_ne hmn, if_neg (by simpa using Ne.symm hmn), Nat.add_zero]

/-- In the course of a request no node is held more than there is room for, unless it was
before. -/
theorem held_le (h : AsksThrough r w under r' w₁) (m : NodeId) :
    w₁.held m ≤ max (w.held m) maxHeld := by
  induction h with
  | self => exact Nat.le_max_left _ _
  | @inner n complete w w₁ w₂ node _ _ under _ _ _ hn ho _ hbefore _ ih =>
    rw [congrFun hbefore.held_eq m] at ih
    have henter := Workspace.held_enter_le hn ho.room m
    omega

/-- A struct that is held is not laid out another time. -/
theorem not_mem_of_held (h : AsksThrough r w under r' w₁) (hs : w.IsStruct s)
    (hheld : 0 < w.held s) : s ∉ under.map Request.node := by
  induction h with
  | self => exact List.not_mem_nil
  | @inner n complete w w₁ w₂ node _ _ under _ _ _ hn ho _ hbefore _ ih =>
    have hskeleton := hbefore.skeleton_eq.trans (w.skeleton_enter n)
    have hns : s ≠ n := by
      rintro rfl
      obtain ⟨t, layout, hshape⟩ := hs
      rw [Workspace.shape?_eq hn, Option.some.injEq] at hshape
      have hzero := ho.first (by simp [Node.isStruct, Node.layout?, hshape])
      rw [Workspace.held_eq hn] at hheld
      omega
    rw [List.map_cons, List.mem_cons, not_or]
    refine ⟨hns, ih (Workspace.isStruct_congr hskeleton ▸ hs) ?_⟩
    rw [congrFun hbefore.held_eq s, Workspace.held_enter_of_ne hns]
    exact hheld

/-- **A struct is being laid out at most once at a time.** -/
theorem count_le_one (h : AsksThrough r w under r' w₁) (hs : w.IsStruct s) :
    (under.map Request.node).count s ≤ 1 := by
  induction h with
  | self => exact Nat.zero_le 1
  | @inner n complete w w₁ w₂ node _ _ under _ _ _ hn ho _ hbefore h ih =>
    have hs₁ : w₁.IsStruct s :=
      Workspace.isStruct_congr (hbefore.skeleton_eq.trans (w.skeleton_enter n)) ▸ hs
    rw [List.map_cons, List.count_cons]
    by_cases hsn : s = n
    · -- it is held from here on
      have hheld : 0 < w₁.held s := by
        rw [congrFun hbefore.held_eq s, hsn, Workspace.held_enter_self hn]
        exact Nat.succ_pos _
      rw [List.count_eq_zero.mpr (h.not_mem_of_held hs₁ hheld)]
      split <;> omega
    · rw [if_neg (by simpa using Ne.symm hsn)]
      exact ih hs₁

end AsksThrough

namespace Workspace

/-- **Production ends, whatever the graph is.** The program that produces a node answers or
reports with every depth from `ShaderLowering.Workspace.depth` on, always the same; more
precisely, with a depth that no stack of requests exceeds that comes up on the way. Whenever
a request is made, the requests under way and this one are at most five for every node and
one more. Each node is held once for every request of it that is under way; none is held
more than five times, the request that is just let in included, unless it was to begin with,
and then it is not let in; and none of the structs that are being laid out is being laid out
another time. -/
theorem produce_ends (w : Workspace) (n : NodeId) (complete : Bool) :
    (∀ depth, w.depth ≤ depth →
      produceWithin depth n complete w = some (w.produce n complete)) ∧
    (∀ depth, (produceWithin depth n complete w).isSome ↔
      ∀ under r w₁, AsksThrough ⟨n, complete⟩ w under r w₁ → under.length + 1 ≤ depth) ∧
    ∀ under r w₁, AsksThrough ⟨n, complete⟩ w under r w₁ →
      under.length + 1 ≤ 5 * w.graph.nodes.size + 1 ∧
      (∀ m, w₁.held m = w.held m + (under.map Request.node).count m) ∧
      (∀ m, w₁.held m ≤ max (w.held m) 5 ∧
        ∀ node, w₁.node? r.node = some node → node.known? r.complete = none →
          node.guard.acquire?.isSome → (w₁.enter r.node).held m ≤ max (w.held m) 5) ∧
      (∀ s, w.IsStruct s → (under.map Request.node).count s ≤ 1) ∧
      ∀ node, w₁.node? r.node = some node → node.Opens r.complete → node.isStruct = true →
        r.node ∉ under.map Request.node := by
  have hrun : produceWithin w.depth n complete w = some (w.produce n complete) :=
    (Option.some_get _).symm
  refine ⟨fun depth hdepth => produceWithin_eq_of_le hdepth hrun,
    fun depth => isSome_produceWithin_iff (r := ⟨n, complete⟩), fun under r w₁ h => ?_⟩
  refine ⟨h.length_lt (Option.isSome_of_eq_some hrun), h.held_eq, fun m =>
    ⟨h.held_le m, fun node hn _ hacquire => ?_⟩, fun s hs => h.count_le_one hs,
    fun node hn ho hstruct => ?_⟩
  · have hroom : node.guard.held < maxHeld := by
      by_contra hfull
      simp [Guard.acquire?, hfull] at hacquire
    have hbefore : w₁.held m ≤ max (w.held m) 5 := h.held_le m
    have henter : (w₁.enter r.node).held m ≤ max (w₁.held m) 5 :=
      held_enter_le hn hroom m
    omega
  · have hheld := h.held_eq r.node
    rw [held_eq hn, ho.first hstruct] at hheld
    exact List.count_eq_zero.mp (by omega)

/-- The bound is reached: a pointer to itself is asked for five times while it is being
produced, and the last of these requests is refused. -/
example :
    let w := ({} : Workspace).run [.addFormed (.pointer none .function) 0, .bind ⟨0⟩ ⟨0⟩]
    (produceWithin 5 ⟨0⟩ false w).isNone ∧ (produceWithin 6 ⟨0⟩ false w).isSome := by
  decide +kernel

end Workspace

end ShaderLowering
