import ShaderLowering.Proofs.TypeGraph.HistoryImage

/-!
# What is recorded of a struct

Two marks are made on a struct: that it is complete, and that it was found among its own
members. Both are made in the course of a production, and stay. This file says what they
mean.

A struct that is being laid out is not completed by the productions inside
(`ShaderLowering.Produced.isComplete_of_held`), so that it finds its type without a body
when its turn comes, unless somebody gave the type a body from outside
(`ShaderLowering.Workspace.Untouched`). And a struct that was found among its own members
holds itself (`ShaderLowering.Workspace.looped_holds_run`): when a complete type is asked
for, whatever is being produced holds the node (`ShaderLowering.Workspace.Stacked`),
since the only requests that do not pass by value are those of pointers, and what a
pointer asks for is not asked to be complete.
-/

namespace ShaderLowering

namespace Workspace

variable {w w' : Workspace} {n m : NodeId} {node : Node} {t : Ty} {complete : Bool}
  {r : Request}

/-! ### Layouts -/

theorem layout?_eq (h : w.node? n = some node) : w.layout? n = node.layout? := by
  rw [layout?, h]
  rfl

theorem layout?_modify_of_ne (h : m ≠ n) (f : Node → Node) :
    (w.modify n f).layout? m = w.layout? m := by
  rw [layout?, layout?, node?_modify_of_ne h]

theorem layout?_modify {f : Node → Node} (h : ∀ node, (f node).layout? = node.layout?) :
    (w.modify n f).layout? = w.layout? := by
  funext m
  by_cases hmn : m = n
  · subst hmn
    rw [layout?, layout?, node?_modify_map]
    cases w.node? m <;> simp [h]
  · rw [layout?_modify_of_ne hmn]

@[simp] theorem layout?_enter (w : Workspace) (n : NodeId) : (w.enter n).layout? = w.layout? :=
  layout?_modify fun _ => rfl

@[simp] theorem layout?_leave (w : Workspace) (n : NodeId) : (w.leave n).layout? = w.layout? :=
  layout?_modify fun _ => rfl

@[simp] theorem layout?_form (w : Workspace) (n : NodeId) (data : TypeData) :
    (w.form n data).layout? = w.layout? := by
  refine layout?_modify (w := { w with arena := (w.arena.intern data).2 }) fun node => ?_
  obtain ⟨start, guard, shape⟩ := node
  cases shape <;> rfl

theorem layout?_mapLayout (w : Workspace) (n : NodeId) (f : Layout → Layout) (m : NodeId) :
    (w.modify n fun node => node.mapLayout f).layout? m =
      if m = n then (w.layout? m).map f else w.layout? m := by
  split
  · rename_i hmn
    subst hmn
    rw [layout?, layout?, node?_modify_map]
    cases w.node? m with
    | none => rfl
    | some node =>
      obtain ⟨start, guard, shape⟩ := node
      cases shape <;> rfl
  · rename_i hmn
    exact layout?_modify_of_ne hmn _

theorem isComplete_congr (h : w'.layout? = w.layout?) : w'.IsComplete = w.IsComplete := by
  funext n
  rw [IsComplete, IsComplete, h]

theorem looped_congr (h : w'.layout? = w.layout?) : w'.Looped = w.Looped := by
  funext n
  rw [Looped, Looped, h]

@[simp] theorem isComplete_enter (w : Workspace) (n : NodeId) :
    (w.enter n).IsComplete = w.IsComplete :=
  isComplete_congr (w.layout?_enter n)

@[simp] theorem isComplete_leave (w : Workspace) (n : NodeId) :
    (w.leave n).IsComplete = w.IsComplete :=
  isComplete_congr (w.layout?_leave n)

@[simp] theorem isComplete_form (w : Workspace) (n : NodeId) (data : TypeData) :
    (w.form n data).IsComplete = w.IsComplete :=
  isComplete_congr (w.layout?_form n data)

@[simp] theorem looped_enter (w : Workspace) (n : NodeId) : (w.enter n).Looped = w.Looped :=
  looped_congr (w.layout?_enter n)

@[simp] theorem looped_leave (w : Workspace) (n : NodeId) : (w.leave n).Looped = w.Looped :=
  looped_congr (w.layout?_leave n)

@[simp] theorem looped_form (w : Workspace) (n : NodeId) (data : TypeData) :
    (w.form n data).Looped = w.Looped :=
  looped_congr (w.layout?_form n data)

/-- Nothing but the struct itself is completed when a struct is laid out. -/
theorem isComplete_layOut {arena : TypeArena} (h : (w.layOut n arena).IsComplete m) :
    w.IsComplete m ∨ m = n := by
  obtain ⟨layout, hm, hc⟩ := h
  rw [layOut, layout?_mapLayout] at hm
  split at hm
  · exact Or.inr ‹_›
  · exact Or.inl ⟨layout, hm, hc⟩

theorem isComplete_layOut_self (arena : TypeArena) (hn : w.IsStruct n) :
    (w.layOut n arena).IsComplete n := by
  obtain ⟨t, layout, hs⟩ := hn
  have hlayout : ({ w with arena } : Workspace).layout? n = some layout :=
    layout?_eq_some_iff.mpr ⟨t, hs⟩
  refine ⟨layout.laidOut, ?_, rfl⟩
  rw [layOut, layout?_mapLayout, if_pos rfl, hlayout]
  rfl

theorem looped_layOut {arena : TypeArena} (h : (w.layOut n arena).Looped m) : w.Looped m := by
  obtain ⟨layout, hm, hl⟩ := h
  rw [layOut, layout?_mapLayout] at hm
  split at hm
  · obtain ⟨before, hbefore, rfl⟩ := Option.map_eq_some_iff.mp hm
    exact ⟨before, hbefore, hl⟩
  · exact ⟨layout, hm, hl⟩

/-- To be found within itself does not complete a struct. -/
theorem isComplete_looped
    (h : (w.modify n fun node => node.mapLayout Layout.looped).IsComplete m) :
    w.IsComplete m := by
  obtain ⟨layout, hm, hc⟩ := h
  rw [layout?_mapLayout] at hm
  split at hm
  · obtain ⟨before, hbefore, rfl⟩ := Option.map_eq_some_iff.mp hm
    exact ⟨before, hbefore, hc⟩
  · exact ⟨layout, hm, hc⟩

theorem looped_looped (h : (w.modify n fun node => node.mapLayout Layout.looped).Looped m) :
    w.Looped m ∨ m = n := by
  obtain ⟨layout, hm, hl⟩ := h
  rw [layout?_mapLayout] at hm
  split at hm
  · exact Or.inr ‹_›
  · exact Or.inl ⟨layout, hm, hl⟩

/-- A struct that makes requests is asked for its complete type, and is not complete. -/
theorem opens_struct {layout : Layout} (hs : node.shape = .struct t layout)
    (ho : node.Opens complete) : complete = true ∧ layout.complete = false := by
  have hunknown := ho.unknown
  simp only [Node.known?, hs] at hunknown
  by_cases hopen : (complete && !layout.complete) = true
  · rw [Bool.and_eq_true, Bool.not_eq_true'] at hopen
    exact hopen
  · rw [if_neg hopen] at hunknown
    exact absurd hunknown (by simp)

theorem not_isComplete_of_opens {layout : Layout} (hn : w.node? n = some node)
    (hs : node.shape = .struct t layout) (ho : node.Opens complete) : ¬w.IsComplete n := by
  rintro ⟨layout', hlayout', hc⟩
  rw [layout?_eq hn, Node.layout?, hs, Option.some.injEq] at hlayout'
  rw [← hlayout', (opens_struct hs ho).2] at hc
  exact absurd hc (by simp)

/-- A struct whose complete type is known is complete. -/
theorem isComplete_of_known? (hn : w.node? n = some node) (hstruct : w.IsStruct n)
    (ht : node.known? true = some t) : w.IsComplete n := by
  obtain ⟨type, layout, hs⟩ := hstruct
  refine ⟨layout, layout?_eq_some_iff.mpr ⟨type, hs⟩, ?_⟩
  rw [shape?_eq hn, Option.some.injEq] at hs
  rw [Node.known?, hs] at ht
  by_contra hc
  simp [Bool.eq_false_iff.mpr hc] at ht

/-- A struct whose type is not known is not complete. -/
theorem not_isComplete_of_known? (hn : w.node? n = some node)
    (hk : node.known? complete = none) : ¬w.IsComplete n := by
  rintro ⟨layout, hlayout, hc⟩
  obtain ⟨t, hs⟩ := layout?_eq_some_iff.mp hlayout
  rw [shape?_eq hn, Option.some.injEq] at hs
  rw [Node.known?, hs] at hk
  simp [hc] at hk

/-- More of a node is under way within it. -/
theorem held_le_enter (w : Workspace) (n m : NodeId) : w.held m ≤ (w.enter n).held m := by
  by_cases hmn : m = n
  · subst hmn
    cases hm : w.node? m with
    | none => simp [held, hm]
    | some node =>
      rw [held_enter_self hm]
      exact Nat.le_succ _
  · exact Nat.le_of_eq (held_enter_of_ne hmn).symm

/-- The requests made inside a node are for what it refers to. -/
theorem refers_of_mem_requests (hn : w.node? n = some node)
    (hr : r ∈ node.requests complete) : w.Refers n r.node :=
  ⟨node, hn, node.map_node_requests complete ▸ List.mem_map_of_mem hr⟩

/-- The node is reached by the request, and no production of it is under way. -/
def Exposes (w : Workspace) (r : Request) (m : NodeId) : Prop :=
  w.Reaches r.node m ∧ w.held m = 0

theorem Exposes.of_enter (hn : w.node? n = some node) (hr : r ∈ node.requests complete)
    (h : (w.enter n).Exposes r m) : w.Exposes ⟨n, complete⟩ m := by
  obtain ⟨hreaches, hheld⟩ := h
  rw [Reaches, refers_congr (w.skeleton_enter n)] at hreaches
  refine ⟨.head (refers_of_mem_requests hn hr) hreaches, ?_⟩
  have hle := w.held_le_enter n m
  omega

theorem exposes_congr (hheld : w'.held = w.held) (hskeleton : w'.skeleton = w.skeleton) :
    w'.Exposes = w.Exposes := by
  funext r m
  rw [Exposes, Exposes, hheld, Reaches, Reaches, refers_congr hskeleton]

end Workspace

/-! ### Structs that a production does not complete -/

/-- **A production completes what it reaches only**, and no struct that is being laid out
already. -/
theorem Produced.isComplete_of_not_exposes {r : Request} {w w' : Workspace}
    {result : Except Diagnostic Ty} (h : Produced r w result w') {m : NodeId}
    (hm : ¬w.Exposes r m) (hc : w'.IsComplete m) : w.IsComplete m := by
  refine h.induct (motive := fun r w _ w' => ¬w.Exposes r m → w'.IsComplete m → w.IsComplete m)
    (fun {r w result w'} h hm hc => ?_) hm hc
  have hturn {n : NodeId} {node : Node} {complete : Bool} {w₁ : Workspace}
      {result : Except Diagnostic (List Ty)} (hn : w.node? n = some node)
      (hm : ¬w.Exposes ⟨n, complete⟩ m)
      (h : InTurn (fun r w result w' => Produced r w result w' ∧
        (¬w.Exposes r m → w'.IsComplete m → w.IsComplete m))
        (node.requests complete) (w.enter n) result w₁)
      (hc : w₁.IsComplete m) : w.IsComplete m := by
    have hc' := h.keeps_within (R := fun w w' => w'.IsComplete m → w.IsComplete m)
      (fun _ => id) (fun h h' => h ∘ h')
      (fun h _ hm => by rwa [Workspace.exposes_congr h.held_eq h.skeleton_eq])
      (fun r hr hcon => hm (hcon.of_enter hn hr)) hc
    rwa [Workspace.isComplete_enter] at hc'
  cases h with
  | missing | known | full | unbound => exact hc
  | nested => exact Workspace.isComplete_looped hc
  | failed hn ho h =>
    rw [Workspace.isComplete_leave] at hc
    exact hturn hn hm h hc
  | looped hn hs ho h hl =>
    rw [Workspace.isComplete_leave] at hc
    exact hturn hn hm h hc
  | refused hn hs ho h hl hb =>
    rw [Workspace.isComplete_leave] at hc
    exact hturn hn hm h hc
  | formed hn hs ho h hd =>
    rw [Workspace.isComplete_leave, Workspace.isComplete_form] at hc
    exact hturn hn hm h hc
  | @laidOut n _ _ _ node _ _ _ _ hn hs ho h hl hb =>
    rw [Workspace.isComplete_leave] at hc
    rcases Workspace.isComplete_layOut hc with hc | rfl
    · exact hturn hn hm h hc
    · have hstruct : node.isStruct = true := by rw [Node.isStruct, Node.layout?, hs]; rfl
      refine absurd ⟨.refl, ?_⟩ hm
      rw [Workspace.held_eq hn, ho.first hstruct]

/-- **A struct is not completed while it is being laid out**, except by that. -/
theorem Produced.isComplete_of_held {r : Request} {w w' : Workspace}
    {result : Except Diagnostic Ty} (h : Produced r w result w') {m : NodeId}
    (hm : 0 < w.held m) (hc : w'.IsComplete m) : w.IsComplete m :=
  h.isComplete_of_not_exposes (fun hcon => Nat.ne_of_gt hm hcon.2) hc

theorem InTurn.isComplete_of_held {rs : List Request} {w w' : Workspace}
    {result : Except Diagnostic (List Ty)} (h : InTurn Produced rs w result w') {m : NodeId}
    (hm : 0 < w.held m) (hc : w'.IsComplete m) : w.IsComplete m :=
  (h.imp fun _ _ _ _ h => ⟨h, fun hm hc => h.isComplete_of_held hm hc⟩).keeps_within
    (R := fun w w' => w'.IsComplete m → w.IsComplete m) (fun _ => id) (fun h h' => h ∘ h')
    (fun h _ hm => by rwa [h.held_eq]) (fun _ _ => hm) hc

/-- The requests that are made for laying a struct out do not complete it. -/
theorem InTurn.not_isComplete {n : NodeId} {node : Node} {t : Ty} {layout : Layout}
    {complete : Bool} {rs : List Request} {w w₁ : Workspace}
    {result : Except Diagnostic (List Ty)} (h : InTurn Produced rs (w.enter n) result w₁)
    (hn : w.node? n = some node) (hs : node.shape = .struct t layout)
    (ho : node.Opens complete) : ¬w₁.IsComplete n := by
  intro hcon
  have hheld : 0 < (w.enter n).held n := by
    rw [Workspace.held_enter_self hn]
    exact Nat.succ_pos _
  have hc := h.isComplete_of_held hheld hcon
  rw [Workspace.isComplete_enter] at hc
  exact Workspace.not_isComplete_of_opens hn hs ho hc

/-- A struct of which no production is under way is complete once its complete type was
answered. -/
theorem Produced.isComplete {w w' : Workspace} {n : NodeId} {t : Ty}
    (h : Produced ⟨n, true⟩ w (.ok t) w') (hstruct : w.IsStruct n) (hheld : w.held n = 0) :
    w'.IsComplete n := by
  obtain ⟨type, layout, hshape⟩ := hstruct
  have hs {node : Node} (hn : w.node? n = some node) : node.shape = .struct type layout :=
    Option.some.inj ((Workspace.shape?_eq hn).symm.trans hshape)
  cases h.answer with
  | known hn ht =>
    have hc : layout.complete = true := by
      rw [Node.known?, hs hn] at ht
      by_contra hc
      simp [Bool.eq_false_iff.mpr hc] at ht
    exact ⟨layout, Workspace.layout?_eq_some_iff.mpr ⟨type, hshape⟩, hc⟩
  | nested hn _ _ _ hpos =>
    rw [Workspace.held_eq hn] at hheld
    omega
  | formed hn hformed =>
    exact Shape.noConfusion ((hs hn).symm.trans hformed)
  | laidOut hn _ _ hturn =>
    obtain ⟨layout₁, hs₁, -⟩ := Workspace.struct_of_skeleton_eq
      (hturn.skeleton_eq.trans (w.skeleton_enter n)) hshape
    rw [Workspace.isComplete_leave]
    exact Workspace.isComplete_layOut_self _ ⟨type, layout₁, hs₁⟩

/-! ### A struct among its own members -/

namespace Workspace

variable {w w' : Workspace} {n m : NodeId} {node : Node} {t : Ty} {complete : Bool}
  {r : Request}

/-- Whatever is being produced holds the node, if its complete type is asked for. -/
def Stacked (w : Workspace) (r : Request) : Prop :=
  r.complete = true → ∀ v, 0 < w.held v → Relation.TransGen w.Holds v r.node

/-- A node passes the wish for a complete type on to what it holds only. -/
theorem holds_of_mem_requests (hn : w.node? n = some node) (ho : node.Opens complete)
    (hr : r ∈ node.requests complete) (hc : r.complete = true) :
    complete = true ∧ w.Holds n r.node := by
  have hrefers := refers_of_mem_requests hn hr
  have hshape := shape?_eq hn
  have hunknown := ho.unknown
  obtain ⟨start, guard, shape⟩ := node
  rcases shape with type | ⟨former, made⟩ | ⟨type, layout⟩
  · exact (List.not_mem_nil hr).elim
  · obtain ⟨m, -, rfl⟩ := List.mem_map.mp hr
    cases former with
    | pointer pointee storage => exact nomatch hc
    | function => exact ⟨hc, hrefers, by rintro ⟨_, _, _, hp⟩; rw [hshape] at hp; cases hp⟩
    | array => exact ⟨hc, hrefers, by rintro ⟨_, _, _, hp⟩; rw [hshape] at hp; cases hp⟩
  · refine ⟨?_, hrefers, ?_⟩
    · cases complete with
      | true => rfl
      | false => exact nomatch hunknown
    · rintro ⟨_, _, _, hp⟩
      rw [hshape] at hp
      exact absurd hp (by simp)

theorem Stacked.enter (h : w.Stacked ⟨n, complete⟩) (hn : w.node? n = some node)
    (ho : node.Opens complete) (hr : r ∈ node.requests complete) : (w.enter n).Stacked r := by
  intro hc v hv
  obtain ⟨hcomplete, hholds⟩ := holds_of_mem_requests hn ho hr hc
  rw [holds_congr (w.skeleton_enter n)]
  by_cases hvn : v = n
  · rw [hvn]
    exact .single hholds
  · rw [held_enter_of_ne hvn] at hv
    exact (h hcomplete v hv).tail hholds

theorem Stacked.congr (h : w.Stacked r) (hheld : w'.held = w.held)
    (hskeleton : w'.skeleton = w.skeleton) : w'.Stacked r := by
  rw [Stacked, hheld, holds_congr hskeleton]
  exact h

/-- Nothing is being produced. -/
theorem Idle.stacked (h : w.Idle) (r : Request) : w.Stacked r := by
  intro _ v hv
  rw [h v] at hv
  exact absurd hv (Nat.lt_irrefl 0)

end Workspace

/-- **A struct that is found among its own members holds itself.** -/
theorem Produced.looped_holds {r : Request} {w w' : Workspace}
    {result : Except Diagnostic Ty} (h : Produced r w result w') (hw : w.Stacked r)
    {m : NodeId} (hm : w'.Looped m) : w.Looped m ∨ Relation.TransGen w.Holds m m := by
  refine h.induct (motive := fun r w _ w' => w.Stacked r → w'.Looped m →
    w.Looped m ∨ Relation.TransGen w.Holds m m) (fun {r w result w'} h hw hm => ?_) hw hm
  have hturn {n : NodeId} {complete : Bool} {node : Node} {w₁ : Workspace}
      {result : Except Diagnostic (List Ty)} (hw : w.Stacked ⟨n, complete⟩)
      (hn : w.node? n = some node) (ho : node.Opens complete)
      (h : InTurn (fun r w result w' => Produced r w result w' ∧ (w.Stacked r → w'.Looped m →
        w.Looped m ∨ Relation.TransGen w.Holds m m))
        (node.requests complete) (w.enter n) result w₁)
      (hm : w₁.Looped m) : w.Looped m ∨ Relation.TransGen w.Holds m m := by
    have hkeeps := (h.imp fun _ _ _ _ h => ⟨h.1, fun hw => ⟨h.1.skeleton_eq, h.2 hw⟩⟩).keeps_within
      (R := fun w w' => w'.skeleton = w.skeleton ∧
        (w'.Looped m → w.Looped m ∨ Relation.TransGen w.Holds m m))
      (fun w => ⟨rfl, Or.inl⟩)
      (fun h h' => ⟨h'.1.trans h.1, fun hm => (h'.2 hm).elim h.2
        fun hholds => Or.inr (Workspace.holds_congr h.1 ▸ hholds)⟩)
      (fun h _ hw => hw.congr h.held_eq h.skeleton_eq) (fun r hr => hw.enter hn ho hr)
    have hm' := hkeeps.2 hm
    rwa [Workspace.looped_enter, Workspace.holds_congr (w.skeleton_enter n)] at hm'
  cases h with
  | missing | known | full | unbound => exact Or.inl hm
  -- the mark is set where a node is asked for that is being produced, and so holds itself
  | @nested n complete w node t layout hn hs hk hroom hheld =>
    rcases Workspace.looped_looped hm with hm | rfl
    · exact Or.inl hm
    · refine Or.inr (hw ?_ m (by rwa [Workspace.held_eq hn]))
      rw [Node.known?, hs] at hk
      cases complete with
      | true => rfl
      | false => exact absurd hk (by simp)
  | failed hn ho h =>
    rw [Workspace.looped_leave] at hm
    exact hturn hw hn ho h hm
  | looped hn hs ho h hl =>
    rw [Workspace.looped_leave] at hm
    exact hturn hw hn ho h hm
  | refused hn hs ho h hl hb =>
    rw [Workspace.looped_leave] at hm
    exact hturn hw hn ho h hm
  | formed hn hs ho h hd =>
    rw [Workspace.looped_leave, Workspace.looped_form] at hm
    exact hturn hw hn ho h hm
  | laidOut hn hs ho h hl hb =>
    rw [Workspace.looped_leave] at hm
    exact hturn hw hn ho h (Workspace.looped_layOut hm)

/-! ### A struct whose body is not known -/

namespace Workspace

/-- The type of the struct has no body unless the struct is complete. -/
def Untouched (w : Workspace) (n : NodeId) : Prop :=
  ∀ t layout, w.shape? n = some (.struct t layout) → layout.complete = false →
    ∃ name packed, w.arena.data? t = some (.struct ⟨name, none, packed⟩)

variable {w w' : Workspace} {n m : NodeId} {node : Node} {t : Ty} {former : Former}
  {layout : Layout}

/-- A struct that is not complete is not refused its body, which nobody has given to its type
before. -/
theorem Untouched.exists_setBody (h : w.Untouched n) (hs : w.shape? n = some (.struct t layout))
    (hc : ¬w.IsComplete n) (types : List Ty) :
    ∃ arena, w.arena.setBody t types false = .ok arena := by
  have hincomplete : layout.complete = false := by
    refine Bool.eq_false_iff.mpr fun hcon => hc ⟨layout, ?_, hcon⟩
    exact layout?_eq_some_iff.mpr ⟨t, hs⟩
  obtain ⟨name, packed, hdata⟩ := h t layout hs hincomplete
  exact TypeArena.exists_setBody hdata types false

theorem Untouched.congr (h : w.Untouched m) (hs : w'.shape? = w.shape?)
    (ha : w'.arena = w.arena) : w'.Untouched m := by
  rw [Untouched, hs, ha]
  exact h

/-- Types that are made leave those there are alone. -/
theorem Untouched.arena (h : w.Untouched m) {arena : TypeArena}
    (ha : ∀ t d, w.arena.data? t = some d → arena.data? t = some d) :
    ({ w with arena } : Workspace).Untouched m := by
  intro t layout hs hc
  obtain ⟨name, packed, hdata⟩ := h t layout hs hc
  exact ⟨name, packed, ha t _ hdata⟩

theorem Untouched.form (h : w.Untouched m) {made : Option Ty} {data : TypeData}
    (hs : w.shape? n = some (.formed former made)) : (w.form n data).Untouched m := by
  intro t layout hm hc
  rw [shape?_form hs] at hm
  split at hm
  · exact absurd hm (by simp)
  · obtain ⟨name, packed, hdata⟩ := h t layout hm hc
    exact ⟨name, packed, TypeArena.data?_intern_of_data? hdata⟩

theorem Untouched.looped (h : w.Untouched m) (hs : w.shape? n = some (.struct t layout)) :
    (w.modify n fun node => node.mapLayout Layout.looped).Untouched m := by
  intro t' layout' hm hc
  rw [shape?_mapLayout hs] at hm
  split at hm
  · rename_i hmn
    cases hm
    exact h t layout (hmn ▸ hs) hc
  · exact h t' layout' hm hc

theorem Untouched.layOut (h : w.Untouched m) (hw : w.Faithful) {types : List Ty}
    {arena : TypeArena} (hs : w.shape? n = some (.struct t layout))
    (hb : w.arena.setBody t types false = .ok arena) : (w.layOut n arena).Untouched m := by
  intro t' layout' hm hc
  rw [Workspace.layOut, shape?_mapLayout (w := { w with arena }) hs] at hm
  split at hm
  · cases hm
    exact absurd hc (by simp [Layout.laidOut])
  · rename_i hmn
    obtain ⟨name, packed, hdata⟩ := h t' layout' hm hc
    obtain ⟨_, _, -, hbody⟩ := TypeArena.data?_setBody hb
    refine ⟨name, packed, ?_⟩
    change arena.data? t' = _
    rw [hbody, if_neg, hdata]
    rintro rfl
    exact hmn (hw.distinct m n t' (structType?_eq_some_iff.mpr ⟨layout', hm⟩)
      (structType?_eq_some_iff.mpr ⟨layout, hs⟩))

end Workspace

/-- **Production gives no body to the type of a struct** but by completing the struct. -/
theorem Produced.untouched {r : Request} {w w' : Workspace} {result : Except Diagnostic Ty}
    (h : Produced r w result w') (hw : w.Faithful) {m : NodeId} (hm : w.Untouched m) :
    w'.Untouched m := by
  refine h.induct (motive := fun _ w _ w' => w.Faithful → w.Untouched m → w'.Untouched m)
    (fun {r w result w'} h hw hm => ?_) hw hm
  -- what the requests inside do, and what the node is once they are answered
  have hturn {rs : List Request} {n : NodeId} {w₁ : Workspace}
      {result : Except Diagnostic (List Ty)}
      (h : InTurn (fun r w result w' => Produced r w result w' ∧
        (w.Faithful → w.Untouched m → w'.Untouched m)) rs (w.enter n) result w₁) :
      w₁.Untouched m ∧ w₁.Faithful ∧ w₁.skeleton = w.skeleton := by
    have henter := hw.congr (Workspace.shape?_enter w n) rfl
    have hkeeps := h.keeps_within (R := fun w w' => w.Untouched m → w'.Untouched m)
      (fun _ => id) (fun h h' => h' ∘ h) (fun h _ hw => (h.imaged hw).1) fun _ _ => henter
    exact ⟨hkeeps (hm.congr (Workspace.shape?_enter w n) rfl),
      ((h.left.imp fun _ _ _ _ h => h.imaged).imaged henter).1,
      h.left.skeleton_eq.trans (Workspace.skeleton_enter w n)⟩
  have hleave {n : NodeId} {w₁ : Workspace} (hm : w₁.Untouched m) : (w₁.leave n).Untouched m :=
    hm.congr (Workspace.shape?_leave w₁ n) rfl
  cases h with
  | missing | known | full | unbound => exact hm
  | nested hn hs => exact hm.looped (Workspace.shape?_eq_of_shape_eq hn hs)
  | failed hn ho h => exact hleave (hturn h).1
  | looped hn hs ho h hl => exact hleave (hturn h).1
  | refused hn hs ho h hl hb => exact hleave (hturn h).1
  | formed hn hs ho h hd =>
    obtain ⟨hm₁, -, hskeleton⟩ := hturn h
    obtain ⟨made, hs₁⟩ := Workspace.formed_of_skeleton_eq hskeleton
      (Workspace.shape?_eq_of_shape_eq hn hs)
    exact hleave (hm₁.form hs₁)
  | laidOut hn hs ho h hl hb =>
    obtain ⟨hm₁, hw₁, hskeleton⟩ := hturn h
    obtain ⟨layout₁, hs₁, -⟩ := Workspace.struct_of_skeleton_eq hskeleton
      (Workspace.shape?_eq_of_shape_eq hn hs)
    exact hleave (hm₁.layOut hw₁ hs₁ hb)

/-! ### Histories -/

namespace Workspace

variable {w w' : Workspace} {n m : NodeId}

/-- The struct's type is given no body from outside. -/
def SparedBy (w : Workspace) (n : NodeId) (action : Action) : Prop :=
  ∀ t members packed, action = .arena (.setBody t members packed) → w.structType? n ≠ some t

theorem Untouched.perform_arena (h : w.Untouched m) {a : TypeAction}
    (hspared : w.SparedBy m (.arena a)) :
    ({ w with arena := w.arena.perform a } : Workspace).Untouched m := by
  rcases w.arena.perform_cases a with heq | ⟨d, -, heq⟩ | ⟨name, heq⟩ | ⟨t, members, packed, ha, hb⟩
  · exact h.congr rfl heq
  · rw [heq]
    exact h.arena fun t d hd => TypeArena.data?_intern_of_data? hd
  · rw [heq]
    exact h.arena fun t d hd => TypeArena.data?_push_of_data? hd
  · intro t' layout hs hc
    obtain ⟨name, packed', hdata⟩ := h t' layout hs hc
    obtain ⟨_, _, -, hbody⟩ := TypeArena.data?_setBody hb
    refine ⟨name, packed', ?_⟩
    rw [hbody, if_neg, hdata]
    rintro rfl
    exact hspared t' members packed (congrArg _ ha) (structType?_eq_some_iff.mpr ⟨layout, hs⟩)

theorem Performs.untouched {action : Action} (h : w.Performs action w') (hw : w.Faithful)
    (hspared : w.SparedBy m action) (hm : w.Untouched m) : w'.Untouched m := by
  rcases h with _ | a | ⟨node, -, -, hstruct⟩ | ⟨name, members, start⟩ | ⟨hs, -⟩ |
    ⟨hs, hc, -⟩ | ⟨n, complete⟩
  · exact hm
  · exact hm.perform_arena hspared
  · intro t layout hs hc
    rw [shape?_add] at hs
    split at hs
    · rw [Option.some.inj hs] at hstruct
      exact nomatch hstruct
    · exact hm t layout hs hc
  · intro t layout hs hc
    rw [shape?_withStruct] at hs
    split at hs
    · cases hs
      exact ⟨name, false, w.arena.data?_push_self _⟩
    · obtain ⟨name, packed, hdata⟩ := hm t layout hs hc
      exact ⟨name, packed, TypeArena.data?_push_of_data? hdata⟩
  · intro t layout hs' hc'
    rw [shape?_reshape hs] at hs'
    split at hs'
    · exact absurd hs' (by simp)
    · exact hm t layout hs' hc'
  · intro t layout hs' hc'
    rw [shape?_reshape hs] at hs'
    split at hs'
    · rename_i hmn
      cases hs'
      exact hm _ _ (hmn ▸ hs) hc
    · exact hm t layout hs' hc'
  · exact (w.produced n complete).untouched hw hm

/-- The type of a struct that is given no body from outside has none until the struct is
complete. -/
theorem Faithful.untouched_run (hw : w.Faithful) (hm : w.Untouched m) {actions : List Action}
    (hspared : ∀ action ∈ actions, (w.run actions).SparedBy m action) :
    (w.run actions).Untouched m := by
  induction actions generalizing w with
  | nil => exact hm
  | cons action actions ih =>
    have hperforms := w.performs action
    refine ih (hperforms.faithful hw) (hperforms.untouched hw ?_ hm) fun later hlater =>
      hspared later (List.mem_cons_of_mem _ hlater)
    -- a type that the struct has now it has in the end
    intro t members packed heq htype
    exact hspared action List.mem_cons_self t members packed heq
      ((w.graphGrows_run (action :: actions)).structType? htype)

/-! ### Structs found among their own members -/

theorem looped_iff : w.Looped m ↔
    ∃ t layout, w.shape? m = some (.struct t layout) ∧ layout.containsItself = true := by
  constructor
  · rintro ⟨layout, hm, hl⟩
    obtain ⟨t, hs⟩ := layout?_eq_some_iff.mp hm
    exact ⟨t, layout, hs, hl⟩
  · rintro ⟨t, layout, hs, hl⟩
    exact ⟨layout, layout?_eq_some_iff.mpr ⟨t, hs⟩, hl⟩

/-- A formed node is no struct, and is never found among its own members. -/
theorem not_looped_of_formed {former : Former} {made : Option Ty}
    (hs : w.shape? m = some (.formed former made)) : ¬w.Looped m := by
  intro hcon
  obtain ⟨t, layout, hstruct, -⟩ := looped_iff.mp hcon
  exact not_isStruct_of_formed hs ⟨t, layout, hstruct⟩

/-- Only a production finds a struct among its own members. -/
theorem Performs.looped_holds {action : Action} (h : w.Performs action w') (hw : w.Idle)
    (hm : w'.Looped m) : w.Looped m ∨ Relation.TransGen w.Holds m m := by
  rcases h with _ | a | ⟨node, -, -, hstruct⟩ | ⟨name, members, start⟩ | ⟨hs, -⟩ |
    ⟨hs, -, -⟩ | ⟨n, complete⟩
  · exact Or.inl hm
  · exact Or.inl hm
  · obtain ⟨t, layout, hs, hl⟩ := looped_iff.mp hm
    rw [shape?_add] at hs
    split at hs
    · rw [Option.some.inj hs] at hstruct
      exact nomatch hstruct
    · exact Or.inl (looped_iff.mpr ⟨t, layout, hs, hl⟩)
  · obtain ⟨t, layout, hs, hl⟩ := looped_iff.mp hm
    rw [shape?_withStruct] at hs
    split at hs
    · cases hs
      rw [← Layout.skeleton_ofMembers] at hl
      exact nomatch hl
    · exact Or.inl (looped_iff.mpr ⟨t, layout, hs, hl⟩)
  · obtain ⟨t, layout, hs', hl⟩ := looped_iff.mp hm
    rw [shape?_reshape hs] at hs'
    split at hs'
    · exact absurd hs' (by simp)
    · exact Or.inl (looped_iff.mpr ⟨t, layout, hs', hl⟩)
  · obtain ⟨t, layout, hs', hl⟩ := looped_iff.mp hm
    rw [shape?_reshape hs] at hs'
    split at hs'
    · rename_i hmn
      cases hs'
      rw [← hmn] at hs
      exact Or.inl (looped_iff.mpr ⟨_, _, hs, hl⟩)
    · exact Or.inl (looped_iff.mpr ⟨t, layout, hs', hl⟩)
  · exact (w.produced n complete).looped_holds (hw.stacked _) hm

/-- A struct that was found among its own members holds itself, and does so for good. -/
theorem looped_holds_run (hw : w.Idle)
    (hholds : ∀ m, w.Looped m → Relation.TransGen w.Holds m m) (actions : List Action)
    (hm : (w.run actions).Looped m) : Relation.TransGen (w.run actions).Holds m m := by
  induction actions generalizing w with
  | nil => exact hholds m hm
  | cons action actions ih =>
    have hperforms := w.performs action
    refine ih (hperforms.idle hw) (fun l hl => ?_) hm
    have hold : Relation.TransGen w.Holds l l :=
      (hperforms.looped_holds hw hl).elim (hholds l) id
    exact Relation.TransGen.mono (fun _ _ => hperforms.graphGrows.holds) _ _ hold

end Workspace

end ShaderLowering
