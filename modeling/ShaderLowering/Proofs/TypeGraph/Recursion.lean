import ShaderLowering.Proofs.TypeGraph.Bound
import ShaderLowering.Proofs.TypeGraph.Completion

/-!
# Which nodes give a production up

A production is given up as endless in one of two places: at a node whose guard lets no
more productions in, or at a struct that was found among its own members. The report
names the node, wherever in the course of the request it was met
(`ShaderLowering.Overruns`).

In a graph where no node holds itself the second place is never reached, and the first by
nodes of one kind only. While complete types are asked for, every node under way holds the
next, so that none is under way twice. From the first pointer on nothing has to be
complete, structs make no requests, and each node under way is formed from the next. A
node that is under way more than once therefore came up in this second stretch and leads
back to itself without a struct (`ShaderLowering.Workspace.Circling`).
-/

namespace ShaderLowering

/-- **The request is given up at a node** that is met in the course of it. -/
inductive Overruns : Request → Workspace → NodeId → Prop
  /-- The guard of the node lets no more productions in. -/
  | full {n : NodeId} {complete : Bool} {w : Workspace} {node : Node}
      (hn : w.node? n = some node) (hk : node.known? complete = none)
      (hfull : maxHeld ≤ node.guard.held) : Overruns ⟨n, complete⟩ w n
  /-- The node is a struct that was found among its own members. -/
  | looped {n : NodeId} {complete : Bool} {w w₁ : Workspace} {node : Node} {t : Ty}
      {layout : Layout} {types : List Ty} (hn : w.node? n = some node)
      (hs : node.shape = .struct t layout) (ho : node.Opens complete)
      (h : InTurn Produced (node.requests complete) (w.enter n) (.ok types) w₁)
      (hl : w₁.Looped n) : Overruns ⟨n, complete⟩ w n
  /-- A request inside is given up, after those before it have been answered. -/
  | inner {n m : NodeId} {complete : Bool} {w w₁ : Workspace} {node : Node}
      {before after : List Request} {r : Request} {types : List Ty}
      (hn : w.node? n = some node) (ho : node.Opens complete)
      (hrs : node.requests complete = before ++ r :: after)
      (hbefore : InTurn Produced before (w.enter n) (.ok types) w₁) (h : Overruns r w₁ m) :
    Overruns ⟨n, complete⟩ w m

/-- Of requests answered up to a report, those before the one that is reported were
answered. -/
theorem InTurn.split_error {answers : Answers} {rs : List Request} {w w' : Workspace}
    {e : Diagnostic} (h : InTurn answers rs w (.error e) w') :
    ∃ before r after types w₁, rs = before ++ r :: after ∧
      InTurn answers before w (.ok types) w₁ ∧ answers r w₁ (.error e) w' := by
  obtain ⟨result, hresult⟩ : ∃ result : Except Diagnostic (List Ty), result = .error e := ⟨_, rfl⟩
  rw [← hresult] at h
  induction h with
  | nil => exact nomatch hresult
  | cons => exact nomatch hresult
  | @stop r rs w w' d head =>
    obtain rfl := Except.error.inj hresult
    exact ⟨[], r, rs, [], w, rfl, .nil w, head⟩
  | @stopLater r rs w w₁ w' t d head tail ih =>
    obtain ⟨before, r', after, types, w₂, rfl, hbefore, hanswer⟩ := ih hresult
    exact ⟨r :: before, r', after, t :: types, w₂, rfl, .cons head hbefore, hanswer⟩

namespace Workspace

variable {w w' w₁ : Workspace} {n m : NodeId} {node : Node} {complete : Bool} {r : Request}

/-- Where in the stream a node was declared. -/
def start? (w : Workspace) (n : NodeId) : Option Nat :=
  (w.node? n).map Node.start

theorem start?_eq (h : w.node? n = some node) : w.start? n = some node.start := by
  rw [start?, h]
  rfl

theorem start?_congr (h : w'.skeleton = w.skeleton) : w'.start? = w.start? := by
  funext n
  have hn := congrArg (Option.map Node.start) (congrFun h n)
  rw [skeleton, skeleton, Option.map_map, Option.map_map] at hn
  exact hn

/-- The requests inside a request find a closed graph, and nodes that are there. -/
theorem Closed.inner {before after : List Request} {types : List Ty}
    (h : w.Closed) (hn : w.node? n = some node)
    (hrs : node.requests complete = before ++ r :: after)
    (hbefore : InTurn Produced before (w.enter n) (.ok types) w₁) :
    w₁.skeleton = w.skeleton ∧ w₁.Closed ∧ (w₁.node? r.node).isSome := by
  have hskeleton : w₁.skeleton = w.skeleton := hbefore.skeleton_eq.trans (w.skeleton_enter n)
  have hmem : r ∈ node.requests complete := hrs ▸ List.mem_append_right _ List.mem_cons_self
  refine ⟨hskeleton, h.congr hskeleton, ?_⟩
  rw [isSome_node?_congr hskeleton]
  exact h n r.node (refers_of_mem_requests hn hmem)

/-! ### Ways back that avoid structs -/

/-- What a way back to a node that avoids structs goes through is a cycle without any. -/
theorem exists_isCycle_of_formedFrom (h : Relation.TransGen w.FormedFrom n n) :
    ∃ cycle, w.IsCycle cycle ∧ n ∈ cycle ∧ ∀ m ∈ cycle, ¬w.IsStruct m := by
  obtain ⟨rest, hchain, hrest⟩ := exists_isChain h
  exact ⟨n :: rest, ⟨n, rest, rfl, hchain⟩, List.mem_cons_self, fun m hm => (hrest m hm).1⟩

/-- A node that is formed from something is no struct. -/
theorem not_isStruct_of_formedFrom (h : Relation.TransGen w.FormedFrom n m) :
    ¬w.IsStruct n := by
  obtain ⟨_, hfirst, -⟩ := Relation.TransGen.head'_iff.mp h
  exact hfirst.2

/-! ### Graphs in which nothing holds itself -/

/-- No node holds itself, and no struct was found among its own members. -/
structure Untangled (w : Workspace) : Prop where
  holds : ∀ n, ¬Relation.TransGen w.Holds n n
  looped : ∀ n, ¬w.Looped n

theorem Untangled.enter (h : w.Untangled) (n : NodeId) : (w.enter n).Untangled where
  holds := holds_congr (w.skeleton_enter n) ▸ h.holds
  looped := w.looped_enter n ▸ h.looped

end Workspace

/-- Production leaves nothing tangled that was not. -/
theorem Produced.untangled {r : Request} {w w' : Workspace} {result : Except Diagnostic Ty}
    (h : Produced r w result w') (hw : w.Untangled) (hr : w.Stacked r) : w'.Untangled where
  holds := Workspace.holds_congr h.skeleton_eq ▸ hw.holds
  looped n hn := (h.looped_holds hr hn).elim (hw.looped n) (hw.holds n)

theorem InTurn.untangled {rs : List Request} {w w' : Workspace}
    {result : Except Diagnostic (List Ty)} (h : InTurn Produced rs w result w')
    (hw : w.Untangled) (hrs : ∀ r ∈ rs, w.Stacked r) : w'.Untangled :=
  (h.imp fun _ _ _ _ h => ⟨h, fun hr hw => h.untangled hw hr⟩).keeps_within
    (R := fun w w' => w.Untangled → w'.Untangled) (fun _ => id) (fun h h' => h' ∘ h)
    (fun h _ hr => hr.congr h.held_eq h.skeleton_eq) hrs hw

namespace Workspace

variable {w w' w₁ : Workspace} {n m : NodeId} {node : Node} {complete : Bool} {r : Request}

/-! ### What is given up -/

/-- The requests inside find the graph as the request itself does. -/
theorem Circling.inner {before after : List Request} {types : List Ty}
    (h : w.Circling ⟨n, complete⟩) (hw : w.Untangled) (hn : w.node? n = some node)
    (ho : node.Opens complete) (hrs : node.requests complete = before ++ r :: after)
    (hbefore : InTurn Produced before (w.enter n) (.ok types) w₁) :
    w₁.Circling r ∧ w₁.Untangled ∧ w₁.skeleton = w.skeleton := by
  have hall {r' : Request} (hr' : r' ∈ before ++ r :: after) : (w.enter n).Circling r' :=
    h.enter hn ho (hrs ▸ hr') fun _ => hw.holds n
  refine ⟨?_, ?_, hbefore.skeleton_eq.trans (w.skeleton_enter n)⟩
  · exact (hall (List.mem_append_right _ List.mem_cons_self)).congr hbefore.held_eq
      hbefore.skeleton_eq
  · exact hbefore.untangled (hw.enter n) fun r' hr' => (hall (List.mem_append_left _ hr')).stacked

end Workspace

/-- In the course of a request nothing is found to be tangled. -/
theorem Asks.untangled {r r' : Request} {w w₁ : Workspace} (h : Asks r w r' w₁)
    (hr : w.Circling r) (hw : w.Untangled) : w₁.Untangled := by
  induction h with
  | self => exact hw
  | inner hn ho hrs hbefore _ ih =>
    obtain ⟨hr₁, hw₁, -⟩ := hr.inner hw hn ho hrs hbefore
    exact ih hr₁ hw₁

/-- **A request is given up only at a node that leads back to itself without a struct.** -/
theorem Overruns.formedFrom {r : Request} {w : Workspace} {m : NodeId} (h : Overruns r w m)
    (hr : w.Circling r) (hw : w.Untangled) : Relation.TransGen w.FormedFrom m m := by
  induction h with
  | @full n complete w node hn hk hfull =>
    have hheld : 2 ≤ w.held n := by
      rw [Workspace.held_eq hn]
      exact Nat.le_trans (by decide) hfull
    cases complete with
    | true =>
      have hzero := hr.held_eq_zero (hw.holds n)
      omega
    | false => exact hr.formed rfl n hheld
  | looped hn hs ho h hl =>
    refine absurd hl ((h.untangled (hw.enter _) fun r hmem => ?_).looped _)
    exact (hr.enter hn ho hmem fun _ => hw.holds _).stacked
  | inner hn ho hrs hbefore _ ih =>
    obtain ⟨hr₁, hw₁, hskeleton⟩ := hr.inner hw hn ho hrs hbefore
    rw [← Workspace.formedFrom_congr hskeleton]
    exact ih hr₁ hw₁

/-- **A production that is reported as endless was given up**, and what is reported is
where the node at which it was stands in the stream. -/
theorem Produced.overruns {r : Request} {w w' : Workspace} {e : Diagnostic}
    (h : Produced r w (.error e) w') (hc : e.cause = .tooManyRecursions) :
    ∃ m start, Overruns r w m ∧ w.start? m = some start ∧
      e = .pointing start .tooManyRecursions := by
  refine h.induct (motive := fun r w result _ => ∀ e, result = .error e →
    e.cause = .tooManyRecursions → ∃ m start, Overruns r w m ∧ w.start? m = some start ∧
      e = .pointing start .tooManyRecursions) (fun {r w result w'} h => ?_) e rfl hc
  intro e he hc
  cases h with
  | known | nested | formed | laidOut => exact nomatch he
  | missing =>
    cases he
    exact nomatch hc
  | unbound =>
    cases he
    exact nomatch hc
  | refused =>
    cases he
    exact nomatch hc
  | @full n complete w node hn hk hfull =>
    cases he
    exact ⟨n, node.start, .full hn hk hfull, Workspace.start?_eq hn, rfl⟩
  | @looped n complete w w₁ node t layout types hn hs ho h hl =>
    cases he
    exact ⟨n, node.start, .looped hn hs ho h.left hl, Workspace.start?_eq hn, rfl⟩
  | @failed n complete w w₁ node d hn ho h =>
    cases he
    obtain ⟨before, r, after, types, w₂, hrs, hbefore, -, hinner⟩ := h.split_error
    obtain ⟨m, start, hm, hstart, heq⟩ := hinner e rfl hc
    refine ⟨m, start, .inner hn ho hrs hbefore.left hm, ?_, heq⟩
    rw [← hstart, Workspace.start?_congr (hbefore.left.skeleton_eq.trans (w.skeleton_enter n))]

namespace Workspace

variable {w w' : Workspace} {r : Request}

/-- Where nothing is under way and nothing is tangled, a request that is reported as endless
is reported at a node that leads back to itself without a struct. -/
theorem Untangled.exists_formedFrom (hw : w.Untangled) (hidle : w.Idle) {e : Diagnostic}
    (h : Produced r w (.error e) w') (hc : e.cause = .tooManyRecursions) :
    ∃ m start, w.start? m = some start ∧ e = .pointing start .tooManyRecursions ∧
      Relation.TransGen w.FormedFrom m m := by
  obtain ⟨m, start, hm, hstart, heq⟩ := h.overruns hc
  exact ⟨m, start, hstart, heq, hm.formedFrom (hidle.circling r) hw⟩

/-- **No struct has a part in a request that comes to no end**: none is found among its own
members in the course of the request, and none gives it up. -/
structure SparesStructs (w : Workspace) (r : Request) : Prop where
  during : ∀ r' w₁, Asks r w r' w₁ → ∀ n, ¬w₁.Looped n
  afterwards : ∀ n, ¬(w.produce r.node r.complete).2.Looped n
  givenUp : ∀ n, Overruns r w n → ¬w.IsStruct n

theorem Untangled.sparesStructs (hw : w.Untangled) (hidle : w.Idle) (r : Request) :
    w.SparesStructs r where
  during _ _ h := (h.untangled (hidle.circling r) hw).looped
  afterwards := ((w.produced r.node r.complete).untangled hw (hidle.stacked r)).looped
  givenUp _ h := not_isStruct_of_formedFrom (h.formedFrom (hidle.circling r) hw)

end Workspace

end ShaderLowering
