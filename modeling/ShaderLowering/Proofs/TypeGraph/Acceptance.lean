import ShaderLowering.Proofs.Target.Sized
import ShaderLowering.Proofs.TypeGraph.Completion
import ShaderLowering.Proofs.TypeGraph.Makeable

/-!
# Which requests are answered

What a request is answered by depends on what is known when it is made, and what is known
is not always what was asked for: an array that was made without its structs is taken for
complete from then on. This file is about the case in which that does not happen, because
nothing that would be left incomplete is asked for both ways, with its structs and without
(`ShaderLowering.Workspace.Separate`).

In this case what is known is settled, that is, nothing in it is left to be laid out
(`ShaderLowering.Produced.settles` carries that through a production), and a complete type
is answered exactly if the request can be met
(`ShaderLowering.Workspace.Course.produce_ok_iff`). Neither side of this equivalence
mentions what was asked for before, so that the order of requests does not matter.
-/

namespace ShaderLowering

namespace Workspace

variable {u v w w' : Workspace} {n m : NodeId} {node : Node} {complete : Bool} {t : Ty}
  {former : Former} {r r' : Request} {asked : Request → Prop}

/-! ### Productions lead onward -/

/-- **One workspace comes from another by productions**, as far as nodes and types go. -/
structure Onward (u w : Workspace) : Prop where
  skeleton : w.skeleton = u.skeleton
  graph : u.GraphGrows w
  keeps : u.Keeps w

theorem Onward.refl (w : Workspace) : w.Onward w :=
  ⟨rfl, .refl w, .refl w⟩

theorem Onward.trans (h : u.Onward v) (h' : v.Onward w) : u.Onward w :=
  ⟨h'.skeleton.trans h.skeleton, h.graph.trans h'.graph, h.keeps.trans h'.keeps⟩

theorem onward_enter (w : Workspace) (n : NodeId) : w.Onward (w.enter n) :=
  ⟨w.skeleton_enter n, .congr (w.shape?_enter n), .congr (w.shape?_enter n) rfl⟩

theorem onward_leave (w : Workspace) (n : NodeId) : w.Onward (w.leave n) :=
  ⟨w.skeleton_leave n, .congr (w.shape?_leave n), .congr (w.shape?_leave n) rfl⟩

theorem Faithful.onward_form (hw : w.Faithful) {made : Option Ty} {data : TypeData}
    (hs : w.shape? n = some (.formed former made)) (hi : former.Image w.handle? data) :
    w.Onward (w.form n data) :=
  ⟨w.skeleton_form n data, w.graphGrows_form n data, hw.keeps_form hs hi⟩

theorem onward_layOut {layout : Layout} {types : List Ty} {arena : TypeArena}
    (hs : w.shape? n = some (.struct t layout))
    (hb : w.arena.setBody t types false = .ok arena) : w.Onward (w.layOut n arena) :=
  ⟨w.skeleton_layOut n arena, w.graphGrows_layOut n arena, keeps_layOut hs hb⟩

end Workspace

theorem Produced.onward {r : Request} {w w' : Workspace} {result : Except Diagnostic Ty}
    (h : Produced r w result w') (hw : w.Faithful) : w.Onward w' :=
  ⟨h.skeleton_eq, h.graphGrows, (h.imaged hw).2.1⟩

theorem InTurn.onward {rs : List Request} {w w' : Workspace}
    {result : Except Diagnostic (List Ty)} (h : InTurn Produced rs w result w')
    (hw : w.Faithful) : w.Onward w' :=
  ⟨h.skeleton_eq, h.graphGrows, ((h.imp fun _ _ _ _ h => h.imaged).imaged hw).2.1⟩

namespace Workspace

variable {u v w w' : Workspace} {n m : NodeId} {node : Node} {complete : Bool} {t : Ty}
  {former : Former} {r r' : Request} {asked : Request → Prop}

/-! ### Nodes in which nothing is left to lay out -/

/-- **The node is settled**: the structs that it contains by value are complete, and the
types of the simple nodes that it contains are settled. -/
inductive Settled (w : Workspace) : NodeId → Prop
  /-- So is everything that it holds. -/
  | intro {n : NodeId} (simple : ∀ t, w.shape? n = some (.simple t) → w.arena.Settled t)
      (struct : w.IsStruct n → w.IsComplete n) (inner : ∀ m, w.Holds n m → Settled w m) :
    Settled w n

theorem Settled.isComplete (h : w.Settled n) (hn : w.IsStruct n) : w.IsComplete n := by
  obtain ⟨-, hstruct, -⟩ := h
  exact hstruct hn

/-- What is settled is settled for good. -/
theorem Settled.onward (h : u.Settled n) (hw : u.Onward w) : w.Settled n := by
  induction h with
  | @intro n simple struct inner ih =>
    refine .intro (fun t hs => ?_) (fun hn => ?_) fun m hm => ?_
    · exact (simple t (simple_of_skeleton_eq hw.skeleton.symm hs)).grows hw.keeps.1
    · rw [isStruct_congr hw.skeleton] at hn
      exact hw.graph.isComplete (struct hn)
    · rw [holds_congr hw.skeleton] at hm
      exact ih m hm

/-- A simple node is settled if its type is. -/
theorem settled_of_simple (hs : w.shape? n = some (.simple t)) (ht : w.arena.Settled t) :
    w.Settled n := by
  refine .intro (fun t' hs' => ?_) ?_ fun m hm => ?_
  · rw [hs] at hs'
    cases hs'
    exact ht
  · rintro ⟨t', layout, hstruct⟩
    rw [hs] at hstruct
    exact absurd hstruct (by simp)
  · exact absurd ((refers_iff_of_shape? hs).mp hm.1) List.not_mem_nil

/-- A formed node is settled if what it holds is. -/
theorem settled_of_formed {made : Option Ty} (hs : w.shape? n = some (.formed former made))
    (inner : ∀ m, w.Holds n m → w.Settled m) : w.Settled n := by
  refine .intro (fun t hsimple => ?_) (fun hn => ?_) inner
  · rw [hs] at hsimple
    exact absurd hsimple (by simp)
  · exact absurd hn (not_isStruct_of_formed hs)

/-- A struct is settled if it is complete and what it holds is settled. -/
theorem settled_of_struct (hn : w.IsStruct n) (hc : w.IsComplete n)
    (inner : ∀ m, w.Holds n m → w.Settled m) : w.Settled n := by
  refine .intro (fun t hsimple => ?_) (fun _ => hc) inner
  obtain ⟨t', layout, hs⟩ := hn
  rw [hs] at hsimple
  exact absurd hsimple (by simp)

/-! ### What is asked for -/

/-- **Nothing is left incomplete** by the requests that are made: they contain what they
lead to, and what is asked for complete is settled if it is known from the start, or if it
is asked for without its structs too, unless it is a struct itself. -/
structure Separate (u : Workspace) (asked : Request → Prop) : Prop where
  calls : ∀ r r', asked r → u.Calls r r' → asked r'
  settled : ∀ n, asked ⟨n, true⟩ → (u.Knows n ∨ asked ⟨n, false⟩ ∧ ¬u.IsStruct n) → u.Settled n

/-- What is asked for complete and is known is settled. -/
def Honest (asked : Request → Prop) (w : Workspace) : Prop :=
  ∀ n, asked ⟨n, true⟩ → w.Knows n → w.Settled n

/-- Whether a node is known can be seen by its shape. -/
theorem Knows.congr (h : w'.Knows n) (hs : w'.shape? n = w.shape? n) : w.Knows n := by
  obtain ⟨node', t, hn', ht⟩ := h
  rw [shape?_eq hn'] at hs
  obtain ⟨node, hn, hshape⟩ := Option.map_eq_some_iff.mp hs.symm
  refine ⟨node, t, hn, ?_⟩
  rw [Node.known?, hshape]
  exact ht

theorem Honest.congr (h : w.Honest asked) (hw : w.Onward w') (hs : w'.shape? = w.shape?) :
    w'.Honest asked :=
  fun n hn hknown => (h n hn (hknown.congr (congrFun hs n))).onward hw

/-- All nodes but one are known to be settled, and that one is settled. -/
theorem Honest.of_ne (h : w.Honest asked) (hw : w.Onward w')
    (hs : ∀ m, m ≠ n → w'.shape? m = w.shape? m)
    (hn : asked ⟨n, true⟩ → w'.Settled n) : w'.Honest asked := by
  intro m hm hknown
  by_cases hmn : m = n
  · subst hmn
    exact hn hm
  · exact (h m hm (hknown.congr (hs m hmn))).onward hw

end Workspace

/-! ### Production settles -/

/-- What a request does if nothing is left incomplete: if it is answered, and if nothing
that is being produced is found among its own members, then what is known is settled still,
and so is what was asked for complete. -/
def Settles (u : Workspace) (asked : Request → Prop) : Answers := fun r w result w' =>
  asked r → w.Faithful → u.Onward w → w.Honest asked → (∃ t, result = .ok t) →
    (∀ v, 0 < w.held v → ¬w'.Looped v) →
    w'.Honest asked ∧ (r.complete = true → w'.Settled r.node)

section Production

variable {u w w₁ w' : Workspace} {asked : Request → Prop} {n : NodeId} {rs : List Request}

/-- Requests that are answered one after another settle all that was asked for complete. -/
theorem InTurn.settles {types : List Ty}
    (h : InTurn (fun r w result w' => Produced r w result w' ∧ Settles u asked r w result w')
      rs w (.ok types) w')
    (hasked : ∀ r ∈ rs, asked r) (hw : w.Faithful) (hu : u.Onward w) (hhonest : w.Honest asked)
    (hlooped : ∀ v, 0 < w.held v → ¬w'.Looped v) :
    w'.Honest asked ∧ ∀ r ∈ rs, r.complete = true → w'.Settled r.node := by
  obtain ⟨result, hresult⟩ : ∃ result : Except Diagnostic (List Ty), result = .ok types :=
    ⟨_, rfl⟩
  rw [← hresult] at h
  induction h generalizing types with
  | nil => exact ⟨hhonest, fun r hr => (List.not_mem_nil hr).elim⟩
  | stop => exact absurd hresult (by simp)
  | stopLater => exact absurd hresult (by simp)
  | @cons r rs w w₁ w' t ts head tail ih =>
    obtain ⟨hproduced, hsettles⟩ := head
    have honward : w₁.Onward w' := tail.left.onward (hproduced.imaged hw).1
    -- a mark that is set by the first request is there in the end
    obtain ⟨hhonest₁, hfirst⟩ := hsettles (hasked r List.mem_cons_self) hw hu hhonest ⟨t, rfl⟩
      fun v hv hcon => hlooped v hv (honward.graph.looped hcon)
    obtain ⟨hhonest', hrest⟩ := ih (fun r hr => hasked r (List.mem_cons_of_mem _ hr))
      (hproduced.imaged hw).1 (hu.trans (hproduced.onward hw)) hhonest₁
      (fun v hv => hlooped v (by rwa [hproduced.held_eq] at hv)) rfl
    refine ⟨hhonest', fun r' hr' hc => ?_⟩
    rcases List.mem_cons.mp hr' with rfl | hr'
    · exact (hfirst hc).onward honward
    · exact hrest r' hr' hc

/-- The requests inside settle what the node holds. -/
theorem InTurn.settles_inner {node : Node} {complete : Bool} {types : List Ty}
    (hu : u.Separate asked) (hn : w.node? n = some node) (ho : node.Opens complete)
    (h : InTurn (fun r w result w' => Produced r w result w' ∧ Settles u asked r w result w')
      (node.requests complete) (w.enter n) (.ok types) w₁)
    (hasked : asked ⟨n, complete⟩) (hw : w.Faithful) (honward : u.Onward w)
    (hhonest : w.Honest asked) (hself : ¬w₁.Looped n)
    (hlooped : ∀ v, 0 < w.held v → ¬w₁.Looped v) :
    w₁.Honest asked ∧ (complete = true → ∀ m, w₁.Holds n m → w₁.Settled m) := by
  have henter := w.onward_enter n
  have hrequests : ∀ r ∈ node.requests complete, asked r := by
    intro r hr
    have hcalls := Workspace.calls_of_mem_requests hn ho hr
    rw [Workspace.calls_congr honward.skeleton] at hcalls
    exact hu.calls _ _ hasked hcalls
  obtain ⟨hhonest₁, hsettled⟩ := h.settles hrequests (hw.congr (w.shape?_enter n) rfl)
    (honward.trans henter) (hhonest.congr henter (w.shape?_enter n)) fun v hv => by
      by_cases hvn : v = n
      · rwa [hvn]
      · rw [Workspace.held_enter_of_ne hvn] at hv
        exact hlooped v hv
  refine ⟨hhonest₁, ?_⟩
  rintro rfl m hm
  rw [Workspace.holds_congr (h.left.skeleton_eq.trans henter.skeleton)] at hm
  exact hsettled ⟨m, true⟩ (Workspace.mem_requests_of_holds hn hm) rfl

/-- Forming a type settles the node, if the requests inside settle what it holds. -/
theorem settles_formed {complete : Bool} {node : Node} {former : Former} {types : List Ty}
    {data : TypeData} {t : Ty} (hu : u.Separate asked) (hn : w.node? n = some node)
    (hs : node.shape = .formed former none) (ho : node.Opens complete)
    (h : InTurn (fun r w result w' => Produced r w result w' ∧ Settles u asked r w result w')
      (node.requests complete) (w.enter n) (.ok types) w₁)
    (hd : former.data? types = some data) :
    Settles u asked ⟨n, complete⟩ w (.ok t) ((w₁.form n data).leave n) := by
  intro hasked hw honward hhonest _ hlooped
  have hw₁ : w₁.Faithful := by
    obtain ⟨hw₁, -⟩ := (h.imp fun _ _ _ _ h => ⟨h.1, h.1.imaged⟩).imaged_enter hw
    exact hw₁
  obtain ⟨⟨made, hs₁⟩, himage⟩ := h.left.image_of_data? hw hn hs hd
  have hstep : w₁.Onward ((w₁.form n data).leave n) :=
    (hw₁.onward_form hs₁ himage).trans (Workspace.onward_leave _ n)
  simp only [Workspace.looped_leave, Workspace.looped_form] at hlooped
  obtain ⟨hhonest₁, hinner⟩ := h.settles_inner hu hn ho hasked hw honward hhonest
    (Workspace.not_looped_of_formed hs₁) hlooped
  have hcomplete : complete = true → ((w₁.form n data).leave n).Settled n := fun hc =>
    (Workspace.settled_of_formed hs₁ (hinner hc)).onward hstep
  refine ⟨hhonest₁.of_ne (n := n) hstep (fun m hm => ?_) fun hboth => ?_, hcomplete⟩
  · rw [Workspace.shape?_leave, Workspace.shape?_form hs₁, if_neg hm]
  · cases complete with
    | true => exact hcomplete rfl
    -- what is asked for both ways was settled from the start
    | false =>
      have hstruct : ¬u.IsStruct n := by
        rw [← Workspace.isStruct_congr honward.skeleton]
        exact Workspace.not_isStruct_of_formed (Workspace.shape?_eq_of_shape_eq hn hs)
      have hinside := h.left.onward (hw.congr (w.shape?_enter n) rfl)
      have hlater := (honward.trans ((w.onward_enter n).trans hinside)).trans hstep
      exact (hu.settled n hboth (Or.inr ⟨hasked, hstruct⟩)).onward hlater

/-- Laying a struct out settles it, if the requests inside settle what it holds. -/
theorem settles_laidOut {complete : Bool} {node : Node} {t : Ty} {layout : Layout}
    {types : List Ty} {arena : TypeArena} (hu : u.Separate asked) (hn : w.node? n = some node)
    (hs : node.shape = .struct t layout) (ho : node.Opens complete)
    (h : InTurn (fun r w result w' => Produced r w result w' ∧ Settles u asked r w result w')
      (node.requests complete) (w.enter n) (.ok types) w₁)
    (hl : ¬w₁.Looped n) (hb : w₁.arena.setBody t types false = .ok arena) :
    Settles u asked ⟨n, complete⟩ w (.ok t) ((w₁.layOut n arena).leave n) := by
  intro hasked hw honward hhonest _ hlooped
  obtain ⟨rfl, -⟩ := Workspace.opens_struct hs ho
  obtain ⟨layout₁, hs₁, -⟩ := Workspace.struct_of_skeleton_eq
    (h.left.skeleton_eq.trans (w.skeleton_enter n)) (Workspace.shape?_eq_of_shape_eq hn hs)
  have hstep : w₁.Onward ((w₁.layOut n arena).leave n) :=
    (Workspace.onward_layOut hs₁ hb).trans (Workspace.onward_leave _ n)
  obtain ⟨hhonest₁, hinner⟩ := h.settles_inner hu hn ho hasked hw honward hhonest hl
    fun v hv hcon => hlooped v hv (hstep.graph.looped hcon)
  have hsettled : ((w₁.layOut n arena).leave n).Settled n := by
    have hstruct : w₁.IsStruct n := ⟨t, layout₁, hs₁⟩
    refine Workspace.settled_of_struct ?_ ?_ fun m hm => ?_
    · rwa [Workspace.isStruct_congr hstep.skeleton]
    · rw [Workspace.isComplete_leave]
      exact Workspace.isComplete_layOut_self arena hstruct
    · rw [Workspace.holds_congr hstep.skeleton] at hm
      exact (hinner rfl m hm).onward hstep
  refine ⟨hhonest₁.of_ne (n := n) hstep (fun m hm => ?_) fun _ => hsettled, fun _ => hsettled⟩
  rw [Workspace.shape?_leave, Workspace.layOut,
    Workspace.shape?_mapLayout (w := { w₁ with arena }) hs₁, if_neg hm]
  rfl

/-- **Production settles what is asked for complete**, as long as nothing is left
incomplete. -/
theorem Produced.settles (hu : u.Separate asked) {r : Request}
    {result : Except Diagnostic Ty} (h : Produced r w result w') :
    Settles u asked r w result w' := by
  refine h.induct (motive := Settles u asked) fun {r w result w'} h => ?_
  cases h with
  | missing | full | unbound | failed | looped | refused =>
    rintro - - - - ⟨t, ht⟩ -
    exact absurd ht (by simp)
  | @known n complete w node t hn ht =>
    intro hasked hw honward hhonest _ _
    refine ⟨hhonest, ?_⟩
    rintro rfl
    exact hhonest n hasked ⟨node, t, hn, ht⟩
  | @nested n complete w node t layout hn hs hk hroom hheld =>
    intro _ _ _ _ _ hlooped
    refine absurd ⟨layout.looped, ?_, rfl⟩ (hlooped n (by rwa [Workspace.held_eq hn]))
    rw [Workspace.layout?_mapLayout, if_pos rfl, Workspace.layout?_eq hn, Node.layout?, hs]
    rfl
  | formed hn hs ho h hd => exact settles_formed hu hn hs ho h hd
  | laidOut hn hs ho h hl hb => exact settles_laidOut hu hn hs ho h hl hb

end Production

/-! ### In the course of answering -/

namespace Workspace

variable {u w w' : Workspace} {n m : NodeId} {t : Ty} {asked : Request → Prop}

/-- **The workspace is one in the course of answering** what is asked of the workspace `u`,
when nothing is left incomplete. -/
structure Course (u : Workspace) (asked : Request → Prop) (w : Workspace) : Prop where
  onward : u.Onward w
  idle : w.Idle
  faithful : w.Faithful
  untouched : ∀ n, w.Untouched n
  looped : ∀ n, w.Looped n → Relation.TransGen w.Holds n n
  made : u.MadeFrom w
  honest : w.Honest asked

/-- The members of a struct that is complete have their types. -/
theorem Faithful.exists_handle (hw : w.Faithful) (hc : w.IsComplete n) (hm : w.Refers n m) :
    ∃ t, w.handle? m = some t := by
  obtain ⟨layout, hlayout, hc⟩ := hc
  obtain ⟨t, hs⟩ := layout?_eq_some_iff.mp hlayout
  obtain ⟨data, -, hl⟩ := hw.struct n t layout hs
  obtain ⟨types, -, htypes⟩ := hl.body hc
  obtain ⟨node, hn, hm⟩ := hm
  rw [shape?_eq hn, Option.some.injEq] at hs
  rw [Node.refs, hs] at hm
  obtain ⟨type, -, htype⟩ := exists_of_forall₂_left htypes hm
  exact ⟨type, htype⟩

/-- What is settled can be made with its structs if it can be made without them. -/
theorem Course.makeable (hw : u.Course asked w) (hsettled : w.Settled n)
    (hn : u.Makeable ⟨n, false⟩) : u.Makeable ⟨n, true⟩ := by
  induction hsettled with
  | @intro n simple struct inner ih =>
    refine .intro hn.there hn.bound fun r' hcalls => ?_
    cases hcalls with
    | @held _ m hholds =>
      have hholds' : w.Holds n m := by rwa [holds_congr hw.onward.skeleton]
      refine ih m hholds' ?_
      by_cases hstruct : u.IsStruct n
      · rw [← isStruct_congr hw.onward.skeleton] at hstruct
        obtain ⟨t, ht⟩ := hw.faithful.exists_handle (struct hstruct) hholds'.1
        exact hw.made m t ht
      · exact hn.inner (.formed ⟨hholds.1, hstruct⟩)
    | @pointed _ m hpointer hrefers =>
      refine hn.inner (.formed ⟨hrefers, ?_⟩)
      obtain ⟨pointee, storage, made, hs⟩ := hpointer
      exact not_isStruct_of_formed hs

/-- **An answer leads on in the course**, and settles what was asked for. -/
theorem Course.produced (hu : u.Separate asked) (hw : u.Course asked w)
    (hn : asked ⟨n, true⟩) (h : Produced ⟨n, true⟩ w (.ok t) w') :
    u.Course asked w' ∧ w'.Settled n := by
  obtain ⟨hhonest, hsettled⟩ := h.settles hu hn hw.faithful hw.onward hw.honest ⟨t, rfl⟩
    fun v hv => absurd (hw.idle v) (Nat.ne_of_gt hv)
  refine ⟨⟨hw.onward.trans (h.onward hw.faithful), ?_, (h.imaged hw.faithful).1, fun m =>
    h.untouched hw.faithful (hw.untouched m), fun m hm => ?_,
    h.madeFrom hw.faithful hw.onward.skeleton hw.made, hhonest⟩, hsettled rfl⟩
  · rw [Idle, h.held_eq]
    exact hw.idle
  · rw [holds_congr h.skeleton_eq]
    exact (h.looped_holds (hw.idle.stacked _) hm).elim (hw.looped m) id

/-- **A complete type is answered exactly if the request can be met.** -/
theorem Course.produce_ok_iff (hu : u.Separate asked) (hw : u.Course asked w)
    (hn : asked ⟨n, true⟩) :
    (∃ t, (w.produce n true).1 = .ok t) ↔ u.Makeable ⟨n, true⟩ := by
  have hproduced := w.produced n true
  constructor
  · rintro ⟨t, ht⟩
    rw [ht] at hproduced
    obtain ⟨hw', hsettled⟩ := hw.produced hu hn hproduced
    have hhandle := (hproduced.imaged hw.faithful).2.2 t rfl
    exact hw'.makeable hsettled (hw'.made n t hhandle)
  · intro h
    refine hproduced.ok_of_ready u.grantable_makeable ⟨h, hw.idle.admits _, ?_⟩
    refine ⟨hw.onward.skeleton, hw.faithful, fun r _ => hw.untouched r.node, fun m hm hcon => ?_⟩
    have hcycle := hw.looped m hcon
    rw [holds_congr hw.onward.skeleton] at hcycle
    exact u.grantable_makeable.not_holds m hm hcycle

end Workspace

end ShaderLowering
