import ShaderLowering.Proofs.TypeGraph.Marks

/-!
# What a request for a complete type completes

Whoever asks for the complete type of a node wants the structs in it laid out, that is,
all structs that the node contains by value. Production does not always see to that. A
pointer, a function or an array that has its type already is answered with it at once,
and so is a struct that is complete, without another look at what they contain; and an
array may have got its type by a request that wanted nothing complete.

This is the only reason why a struct is left out. The requests that are made in the
course of a production are those of `ShaderLowering.Asks`. When a production succeeds,
every struct that the node contains is laid out if, and only if, that is so of each node
that was answered from what was known (`ShaderLowering.Workspace.run_complete_iff`).
-/

namespace ShaderLowering

namespace Workspace

/-- One node contains another by value. -/
def Contains (w : Workspace) : NodeId → NodeId → Prop :=
  Relation.ReflTransGen w.Holds

/-- The node is a struct that is laid out: it is complete, and its type has its body. -/
def LaidOut (w : Workspace) (n : NodeId) : Prop :=
  ∃ t layout types, w.shape? n = some (.struct t layout) ∧ layout.complete = true ∧
    w.arena.body? t = some types

/-- Every struct that the node contains by value is laid out. -/
def Full (w : Workspace) (n : NodeId) : Prop :=
  ∀ s, w.Contains n s → w.IsStruct s → w.LaidOut s

/-- The complete type of the node is known, or taken to be. -/
def Knows (w : Workspace) (n : NodeId) : Prop :=
  ∃ node t, w.node? n = some node ∧ node.known? true = some t

end Workspace

/-- **The requests made in the course of a request**, each with the workspace in which it
is made. -/
inductive Asks : Request → Workspace → Request → Workspace → Prop
  /-- The request itself. -/
  | self (r : Request) (w : Workspace) : Asks r w r w
  /-- A request made inside, after those before it have been answered. -/
  | inner {n : NodeId} {complete : Bool} {w w₁ w₂ : Workspace} {node : Node}
      {before after : List Request} {r r' : Request} {types : List Ty}
      (hn : w.node? n = some node) (ho : node.Opens complete)
      (hrs : node.requests complete = before ++ r :: after)
      (hbefore : InTurn Produced before (w.enter n) (.ok types) w₁) (h : Asks r w₁ r' w₂) :
    Asks ⟨n, complete⟩ w r' w₂

/-- A request among others that were all answered: those before it were, and then it was. -/
theorem InTurn.split {answers : Answers} {rs : List Request} {r : Request} {w w' : Workspace}
    {ts : List Ty} (h : InTurn answers rs w (.ok ts) w') (hr : r ∈ rs) :
    ∃ before after types t types' w₁ w₂, rs = before ++ r :: after ∧
      InTurn answers before w (.ok types) w₁ ∧ answers r w₁ (.ok t) w₂ ∧
      InTurn answers after w₂ (.ok types') w' := by
  obtain ⟨result, hresult⟩ : ∃ result : Except Diagnostic (List Ty), result = .ok ts := ⟨_, rfl⟩
  rw [← hresult] at h
  induction h generalizing ts with
  | nil => exact (List.not_mem_nil hr).elim
  | stop => exact absurd hresult (by simp)
  | stopLater => exact absurd hresult (by simp)
  | @cons r₀ rs w w₁ w' t ts₀ head tail ih =>
    rcases List.mem_cons.mp hr with rfl | hmem
    · exact ⟨[], rs, [], t, ts₀, w, w₁, rfl, .nil w, head, tail⟩
    · obtain ⟨before, after, types, t', types', w₂, w₃, heq, hbefore, hanswer, hafter⟩ :=
        ih hmem rfl
      exact ⟨r₀ :: before, after, t :: types, t', types', w₂, w₃, by rw [heq]; rfl,
        .cons head hbefore, hanswer, hafter⟩

namespace Workspace

variable {w w' : Workspace} {n m s : NodeId} {node : Node} {complete : Bool} {r r' : Request}

theorem contains_congr (h : w'.skeleton = w.skeleton) : w'.Contains = w.Contains := by
  rw [Contains, Contains, holds_congr h]

/-- A struct that is complete is laid out. -/
theorem Faithful.laidOut_iff (hw : w.Faithful) : w.LaidOut n ↔ w.IsComplete n := by
  constructor
  · rintro ⟨t, layout, types, hs, hc, -⟩
    exact ⟨layout, layout?_eq_some_iff.mpr ⟨t, hs⟩, hc⟩
  · rintro ⟨layout, hlayout, hc⟩
    obtain ⟨t, hs⟩ := layout?_eq_some_iff.mp hlayout
    obtain ⟨data, hdata, hl⟩ := hw.struct n t layout hs
    obtain ⟨types, hbody, -⟩ := hl.body hc
    exact ⟨t, layout, types, hs, hc, TypeArena.body?_eq_some_iff.mpr ⟨data, hdata, hbody⟩⟩

/-- Of what a node holds the complete type is asked for, if that of the node is. -/
theorem mem_requests_of_holds (hn : w.node? n = some node) (hm : w.Holds n m) :
    ⟨m, true⟩ ∈ node.requests true := by
  obtain ⟨⟨node', hn', hrefs⟩, hpointer⟩ := hm
  rw [hn, Option.some.injEq] at hn'
  rw [← hn'] at hrefs
  have hshape := shape?_eq hn
  obtain ⟨start, guard, shape⟩ := node
  rcases shape with type | ⟨former, made⟩ | ⟨type, layout⟩
  · exact (List.not_mem_nil hrefs).elim
  · cases former with
    | pointer pointee storage => exact absurd ⟨_, _, _, hshape⟩ hpointer
    | function => exact List.mem_map_of_mem hrefs
    | array => exact List.mem_map_of_mem hrefs
  · obtain ⟨member, hmember, rfl⟩ := List.mem_map.mp hrefs
    exact List.mem_map_of_mem hmember

end Workspace

namespace Asks

variable {w w₁ : Workspace} {n m : NodeId} {r r' : Request}

/-- A request is made in a workspace that differs from the first in nothing but what was
produced. -/
theorem skeleton_eq (h : Asks r w r' w₁) : w₁.skeleton = w.skeleton := by
  induction h with
  | self => rfl
  | @inner n _ w _ _ _ _ _ _ _ _ _ _ _ hbefore _ ih =>
    exact ih.trans (hbefore.skeleton_eq.trans (w.skeleton_enter n))

/-- In the course of a request, a complete type is asked for of what the node contains
only, and only if that of the node is. -/
theorem contains (h : Asks r w r' w₁) (hc : r'.complete = true) :
    r.complete = true ∧ w.Contains r.node r'.node := by
  induction h with
  | self r w => exact ⟨hc, .refl⟩
  | @inner n complete w w₁ w₂ node before after r r' types hn ho hrs hbefore h ih =>
    obtain ⟨hr, hcontains⟩ := ih hc
    have hmem : r ∈ node.requests complete := hrs ▸ List.mem_append_right _ List.mem_cons_self
    obtain ⟨hcomplete, hholds⟩ := Workspace.holds_of_mem_requests hn ho hmem hr
    have hskeleton : w₁.skeleton = w.skeleton :=
      hbefore.skeleton_eq.trans (w.skeleton_enter n)
    rw [Workspace.contains_congr hskeleton] at hcontains
    exact ⟨hcomplete, .head hholds hcontains⟩

end Asks

/-! ### What is laid out by a production -/

namespace Workspace

variable {w w' final : Workspace} {n m : NodeId} {node : Node} {complete : Bool}

theorem full_of_holds (hself : w.IsStruct n → w.LaidOut n)
    (hinner : ∀ m, w.Holds n m → w.Full m) : w.Full n := by
  intro s hs hstruct
  rcases Relation.ReflTransGen.cases_head hs with rfl | ⟨m, hm, hms⟩
  · exact hself hstruct
  · exact hinner m hm s hms hstruct

end Workspace

/-- What a request for a complete type comes to in the end: if it is answered, and if
nothing that is being produced is found among its own members, then all structs in the
node are laid out, provided that those in the nodes answered from what was known are. -/
def Completes (final : Workspace) : Answers := fun r w result w' =>
  r.complete = true → (∃ t, result = .ok t) → (∀ v, 0 < w.held v → ¬w'.Looped v) →
    w'.GraphGrows final → final.skeleton = w'.skeleton →
    (∀ m w₁, Asks r w ⟨m, true⟩ w₁ → w₁.Knows m → final.Full m) → final.Full r.node

/-- What a node holds is full in the end, if the requests inside were all answered. -/
theorem InTurn.full_of_holds {final w w₁ w' : Workspace} {n m : NodeId} {node : Node}
    {types : List Ty} (hn : w.node? n = some node) (ho : node.Opens true)
    (h : InTurn (fun r w result w' => Produced r w result w' ∧ Completes final r w result w')
      (node.requests true) (w.enter n) (.ok types) w₁)
    (hn₁ : ¬w₁.Looped n) (hlooped : ∀ v, 0 < w.held v → ¬w'.Looped v)
    (hw' : w₁.GraphGrows w') (hgrows : w'.GraphGrows final)
    (hskeleton : final.skeleton = w₁.skeleton)
    (hknown : ∀ m w₁, Asks ⟨n, true⟩ w ⟨m, true⟩ w₁ → w₁.Knows m → final.Full m)
    (hm : final.Holds n m) : final.Full m := by
  have hproduced := h.left
  rw [Workspace.holds_congr (hskeleton.trans (hproduced.skeleton_eq.trans (w.skeleton_enter n)))]
    at hm
  obtain ⟨before, after, types, t, types', w₂, w₃, hrs, hbefore, ⟨hanswer, hcompletes⟩, hafter⟩ :=
    h.split (Workspace.mem_requests_of_holds hn hm)
  have hproducedBefore := hbefore.left
  have hproducedAfter := hafter.left
  -- a mark set by the request is there in the end, so that none is set on the way
  refine hcompletes rfl ⟨t, rfl⟩ (fun v hv hcon => ?_)
    (hproducedAfter.graphGrows.trans (hw'.trans hgrows))
    (hskeleton.trans hproducedAfter.skeleton_eq)
    fun l w₄ hasks => hknown l w₄ (.inner hn ho hrs hproducedBefore hasks)
  have hcon₁ := hproducedAfter.graphGrows.looped hcon
  by_cases hvn : v = n
  · rw [hvn] at hcon₁
    exact hn₁ hcon₁
  · rw [hproducedBefore.held_eq, Workspace.held_enter_of_ne hvn] at hv
    exact hlooped v hv (hw'.looped hcon₁)

theorem Produced.completes {final : Workspace} (hfinal : final.Faithful) {r : Request}
    {w w' : Workspace} {result : Except Diagnostic Ty} (h : Produced r w result w') :
    Completes final r w result w' := by
  refine h.induct (motive := Completes final) fun {r w result w'} h => ?_
  intro hcomplete hok hlooped hgrows hskeleton hknown
  cases h with
  | missing | full | unbound | failed | looped | refused =>
    obtain ⟨t, ht⟩ := hok
    exact absurd ht (by simp)
  | @known n complete w node t hn ht =>
    obtain rfl : complete = true := hcomplete
    exact hknown n w (.self _ _) ⟨node, t, hn, ht⟩
  | @nested n complete w node t layout hn hs hk hroom hheld =>
    refine absurd ⟨layout.looped, ?_, rfl⟩ (hlooped n (by rwa [Workspace.held_eq hn]))
    rw [Workspace.layout?_mapLayout, if_pos rfl, Workspace.layout?_eq hn, Node.layout?, hs]
    rfl
  | @formed n complete w w₁ node former types data hn hs ho h hd =>
    obtain rfl : complete = true := hcomplete
    have hproduced := h.left
    have hshape := Workspace.shape?_eq_of_shape_eq hn hs
    obtain ⟨made, hs₁⟩ := Workspace.formed_of_skeleton_eq
      (hproduced.skeleton_eq.trans (w.skeleton_enter n)) hshape
    rw [Workspace.skeleton_leave, Workspace.skeleton_form] at hskeleton
    refine Workspace.full_of_holds ?_ fun m hm => h.full_of_holds hn ho ?_ hlooped
      ((w₁.graphGrows_form n data).trans (Workspace.graphGrows_leave _ n)) hgrows hskeleton
      hknown hm
    -- a formed node is no struct, so that it cannot be marked either
    · intro hstruct
      obtain ⟨made', hs'⟩ := Workspace.formed_of_skeleton_eq hskeleton hs₁
      exact absurd hstruct (Workspace.not_isStruct_of_formed hs')
    · exact Workspace.not_looped_of_formed hs₁
  | @laidOut n complete w w₁ node t layout types arena hn hs ho h hl hb =>
    obtain rfl : complete = true := hcomplete
    have hproduced := h.left
    have hshape := Workspace.shape?_eq_of_shape_eq hn hs
    obtain ⟨layout₁, hs₁, -⟩ := Workspace.struct_of_skeleton_eq
      (hproduced.skeleton_eq.trans (w.skeleton_enter n)) hshape
    rw [Workspace.skeleton_leave, Workspace.skeleton_layOut] at hskeleton
    refine Workspace.full_of_holds (fun _ => ?_) fun m hm => h.full_of_holds hn ho hl hlooped
      ((w₁.graphGrows_layOut n arena).trans (Workspace.graphGrows_leave _ n)) hgrows hskeleton
      hknown hm
    refine hfinal.laidOut_iff.mpr (hgrows.isComplete ?_)
    rw [Workspace.isComplete_leave]
    exact Workspace.isComplete_layOut_self arena ⟨t, layout₁, hs₁⟩

namespace Workspace

variable {w w' : Workspace} {n m : NodeId}

/-- A node contains what is contained in what it contains. -/
theorem Full.of_contains (h : w.Full n) (hm : w.Contains n m) : w.Full m :=
  fun s hs => h s (hm.trans hs)

/-- **When everything is laid out.** Whatever was done to the workspace before: if the
complete type of a node is asked for and answered, then all structs that the node contains
by value are laid out afterwards if, and only if, the same is true of each node whose type
was asked for on the way and known already. -/
theorem run_complete_iff (actions : List Action) (n : NodeId)
    (hok : ∃ t, ((({} : Workspace).run actions).produce n true).1 = .ok t) :
    ((({} : Workspace).run actions).produce n true).2.Full n ↔
      ∀ m w₁, Asks ⟨n, true⟩ (({} : Workspace).run actions) ⟨m, true⟩ w₁ → w₁.Knows m →
        ((({} : Workspace).run actions).produce n true).2.Full m := by
  have hproduced := (({} : Workspace).run actions).produced n true
  have hfaithful := (faithful_empty TypeArena.uniqued_empty).run actions
  have hidle := (idle_empty {}).run actions
  constructor
  · intro hfull m w₁ hasks _
    obtain ⟨-, hcontains⟩ := hasks.contains rfl
    rw [← contains_congr hproduced.skeleton_eq] at hcontains
    exact hfull.of_contains hcontains
  · refine hproduced.completes (hproduced.imaged hfaithful).1 rfl hok (fun v hv => ?_) (.refl _) rfl
    rw [hidle v] at hv
    exact absurd hv (Nat.lt_irrefl 0)

/-- A struct that is produced for the first time. -/
theorem run_complete_iff_struct :
    let w := ({} : Workspace).run [.arena (.int 32), .addSimple ⟨0⟩ 0, .addStruct "T" [([], ⟨0⟩)] 1]
    (∃ t, (w.produce ⟨1⟩ true).1 = .ok t) ∧
      ((w.produce ⟨1⟩ true).2.Full ⟨1⟩ ↔
        ∀ m w₁, Asks ⟨⟨1⟩, true⟩ w ⟨m, true⟩ w₁ → w₁.Knows m → (w.produce ⟨1⟩ true).2.Full m) :=
  have hok := ⟨⟨1⟩, by decide +kernel⟩
  ⟨hok, run_complete_iff _ ⟨1⟩ hok⟩

/-- An array that was asked for opaque has its type, and the struct in it is not laid out
when the array is asked for complete. -/
theorem produce_leaves_out :
    ∃ actions n, (∃ t, ((({} : Workspace).run actions).produce n true).1 = .ok t) ∧
      ¬((({} : Workspace).run actions).produce n true).2.Full n := by
  let actions : List Action :=
    [.arena (.int 32), .addSimple ⟨0⟩ 0, .addStruct "T" [([], ⟨0⟩)] 1,
      .addFormed (.array ⟨1⟩ 4) 2, .produce ⟨2⟩ false]
  have harray : ((({} : Workspace).run actions).produce ⟨2⟩ true).2.node? ⟨2⟩ =
      some { start := 2, shape := .formed (.array ⟨1⟩ 4) (some ⟨2⟩) } := by decide +kernel
  have hstruct : ((({} : Workspace).run actions).produce ⟨2⟩ true).2.shape? ⟨1⟩ =
      some (.struct ⟨1⟩ { members := [{ decorations := [], type := ⟨0⟩ }] }) := by decide +kernel
  refine ⟨actions, ⟨2⟩, ⟨⟨2⟩, by decide +kernel⟩, fun hfull => ?_⟩
  have hholds : ((({} : Workspace).run actions).produce ⟨2⟩ true).2.Holds ⟨2⟩ ⟨1⟩ := by
    refine ⟨⟨_, harray, List.mem_singleton_self _⟩, ?_⟩
    rintro ⟨pointee, storage, made, hs⟩
    rw [shape?_eq harray] at hs
    exact absurd hs (by simp)
  obtain ⟨t, layout, types, hs, hc, -⟩ := hfull ⟨1⟩ (.single hholds) ⟨_, _, hstruct⟩
  rw [hstruct, Option.some.injEq, Shape.struct.injEq] at hs
  rw [← hs.2] at hc
  exact absurd hc (by simp)

end Workspace

end ShaderLowering
