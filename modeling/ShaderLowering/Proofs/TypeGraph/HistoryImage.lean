import ShaderLowering.Proofs.TypeGraph.History

/-!
# The arena stays an image of the graph

Whatever is done to a workspace, and in whatever order, what was produced is the image of
what is declared (`ShaderLowering.Workspace.run_image`). That production keeps it so is
`ShaderLowering.Produced.imaged`; the other actions are easier, with two points to note.
A body that is given to a struct's type from outside leaves the struct incomplete, so
that nothing is claimed of it, and a struct that is complete cannot be given another. A
pointer without a pointee has no type yet, so that binding it cannot put its type in the
wrong.
-/

namespace ShaderLowering

/-! ### The layout of a new struct -/

theorem Layout.skeleton_push (l : Layout) (m : Member) :
    (l.push m).skeleton = l.skeleton.push { m with bodyIndex := none } := by
  simp [skeleton, push]

theorem Layout.skeleton_foldl_push {members : List Member}
    (h : ∀ m ∈ members, m.bodyIndex = none) {l : Layout} (hl : l.skeleton = l) :
    (members.foldl push l).skeleton = members.foldl push l := by
  induction members generalizing l with
  | nil => exact hl
  | cons m members ih =>
    refine ih (fun m' hm' => h m' (List.mem_cons_of_mem _ hm')) ?_
    have hm : ({ m with bodyIndex := none } : Member) = m := by
      rw [← h m List.mem_cons_self]
    rw [skeleton_push, hl, hm]

/-- The layout of a new struct has nothing to take from it. -/
theorem Layout.skeleton_ofMembers (members : List (List Decoration × NodeId)) :
    (ofMembers (members.map fun m => { decorations := m.1, type := m.2 })).skeleton =
      ofMembers (members.map fun m => { decorations := m.1, type := m.2 }) := by
  refine skeleton_foldl_push (fun m hm => ?_) rfl
  obtain ⟨member, -, rfl⟩ := List.mem_map.mp hm
  rfl

/-- Of a struct that is not complete nothing is claimed but that its members have no
places. -/
theorem Layout.Faithful.of_incomplete {layout : Layout} (hc : layout.complete = false)
    (h : ∀ m ∈ layout.members, m.bodyIndex = none) (handle : NodeId → Option Ty)
    (data : StructData) : layout.Faithful handle data := by
  have hc' : layout.complete ≠ true := by simp [hc]
  exact ⟨fun h => absurd h hc', fun h => absurd h hc', fun h => absurd h hc', fun _ => h⟩

/-- A layout from which nothing was taken is that of a struct that is not complete. -/
theorem Layout.Faithful.of_skeleton {layout : Layout} (h : layout.skeleton = layout)
    (handle : NodeId → Option Ty) (data : StructData) : layout.Faithful handle data := by
  refine .of_incomplete (h ▸ rfl) (fun m hm => ?_) handle data
  rw [← h] at hm
  obtain ⟨before, -, rfl⟩ := List.mem_map.mp hm
  rfl

namespace Workspace

variable {w w' : Workspace} {n m : NodeId} {node : Node} {t : Ty} {shape before : Shape}

/-! ### The types change alone -/

theorem Faithful.arena (hw : w.Faithful) {arena : TypeArena} (hg : w.arena.Grows arena)
    (hu : arena.Uniqued) : ({ w with arena } : Workspace).Faithful := by
  refine ⟨hu, fun n former t hs => ?_, fun n t layout hs => ?_, hw.distinct⟩
  · obtain ⟨data, hdata, hi⟩ := hw.formed n former t hs
    exact ⟨data, hg.data? hdata hi.isStructural, hi⟩
  · obtain ⟨data, hdata, hl⟩ := hw.struct n t layout hs
    obtain ⟨data', hdata', -, hbody⟩ := hg.struct hdata
    -- a struct that is complete has a body, which stays
    have heq (hc : layout.complete = true) : data' = data := by
      obtain ⟨types, htypes, -⟩ := hl.body hc
      exact hbody (by simp [htypes])
    exact ⟨data', hdata', fun hc => heq hc ▸ hl.body hc, fun hc => heq hc ▸ hl.unpacked hc,
      hl.placed, hl.unplaced⟩

/-! ### A node is added -/

theorem keeps_add (w : Workspace) (node : Node) : w.Keeps (w.add node).2 := by
  refine ⟨.refl _, fun m t ht => ?_⟩
  obtain ⟨s, hs, ht⟩ := Option.bind_eq_some_iff.mp ht
  obtain ⟨before, hn, rfl⟩ := Option.map_eq_some_iff.mp hs
  rw [handle?_eq (shape?_eq (node?_add_of_node? hn node))]
  exact ht

/-- A node is added for which nothing was produced. If it is a struct, its type is one
that no other struct has. -/
theorem Faithful.add (hw : w.Faithful) (hmade : node.shape.skeleton = node.shape)
    (htype : ∀ t, node.shape.structType? = some t →
      (∃ data, w.arena.data? t = some (.struct data)) ∧ ∀ m, w.structType? m ≠ some t) :
    (w.add node).2.Faithful := by
  have hkeeps := (w.keeps_add node).2
  refine ⟨hw.uniqued, fun m former t hm => ?_, fun m t layout hm => ?_,
    fun m l t hm hl => ?_⟩
  · rw [shape?_add] at hm
    split at hm
    · rw [Option.some.injEq] at hm
      rw [hm] at hmade
      exact nomatch hmade
    · obtain ⟨data, hdata, hi⟩ := hw.formed m former t hm
      exact ⟨data, hdata, hi.mono hkeeps⟩
  · rw [shape?_add] at hm
    split at hm
    · rw [Option.some.injEq] at hm
      rw [hm] at hmade htype
      obtain ⟨⟨data, hdata⟩, -⟩ := htype t rfl
      exact ⟨data, hdata, .of_skeleton (Shape.struct.inj hmade).2 _ _⟩
    · obtain ⟨data, hdata, hlayout⟩ := hw.struct m t layout hm
      exact ⟨data, hdata, hlayout.mono hkeeps⟩
  · rw [structType?, shape?_add] at hm hl
    -- the type of the new node is that of no old one
    by_cases hsize : m.index = w.graph.nodes.size <;>
      by_cases hsize' : l.index = w.graph.nodes.size
    · cases m
      cases l
      simp_all
    · rw [if_pos hsize] at hm
      rw [if_neg hsize'] at hl
      exact absurd hl ((htype t hm).2 l)
    · rw [if_neg hsize] at hm
      rw [if_pos hsize'] at hl
      exact absurd hm ((htype t hl).2 m)
    · rw [if_neg hsize] at hm
      rw [if_neg hsize'] at hl
      exact hw.distinct m l t hm hl

theorem Faithful.withStruct (hw : w.Faithful) (name : String)
    (members : List (List Decoration × NodeId)) (start : Nat) :
    (w.withStruct name members start).Faithful := by
  have harena : ({ w with arena := (w.arena.struct name).2 } : Workspace).Faithful :=
    hw.arena (w.arena.grows_push _) (hw.uniqued.push False.elim)
  refine harena.add ?_ fun t ht => ?_
  · exact congrArg (Shape.struct _) (Layout.skeleton_ofMembers members)
  · rw [← Option.some.inj ht]
    refine ⟨⟨_, w.arena.data?_push_self _⟩, fun m hm => ?_⟩
    obtain ⟨layout, hs⟩ := structType?_eq_some_iff.mp hm
    obtain ⟨data, hdata, -⟩ := hw.struct m _ layout hs
    exact Nat.lt_irrefl _ (TypeArena.lt_size_of_data? hdata)

theorem keeps_withStruct (w : Workspace) (name : String)
    (members : List (List Decoration × NodeId)) (start : Nat) :
    w.Keeps (w.withStruct name members start) :=
  Keeps.trans (v := { w with arena := (w.arena.struct name).2 })
    ⟨w.arena.grows_push _, fun _ _ h => h⟩ (keeps_add _ _)

/-! ### A node declares something else -/

theorem handle?_reshape (hs : w.shape? n = some before) (h : shape.handle? = before.handle?) :
    (w.reshape n shape).handle? = w.handle? := by
  funext m
  rw [handle?, shape?_reshape hs]
  split
  · rename_i hmn
    rw [hmn, handle?_eq hs]
    exact h
  · rfl

theorem structType?_add (w : Workspace) (node : Node) (m : NodeId) :
    (w.add node).2.structType? m =
      if m.index = w.graph.nodes.size then node.shape.structType? else w.structType? m := by
  rw [structType?, shape?_add, structType?]
  split <;> rfl

theorem structType?_reshape (hs : w.shape? n = some before)
    (h : shape.structType? = before.structType?) :
    (w.reshape n shape).structType? = w.structType? := by
  funext m
  rw [structType?, shape?_reshape hs, structType?]
  split
  · rename_i hmn
    rw [hmn, hs]
    exact h
  · rfl

/-- **Structs are made along with their types**: a struct has the type that it had, or is added
along with a type that is new. -/
theorem Performs.structType? {action : Action} {s : NodeId} (h : w.Performs action w')
    (hs : w'.structType? s = some t) :
    w.structType? s = some t ∨ ∃ name members start, s.index = w.graph.nodes.size ∧
      t = ⟨w.arena.size⟩ ∧ w' = w.withStruct name members start := by
  rcases h with _ | _ | ⟨node, -, -, hstruct⟩ | ⟨name, members, start⟩ | ⟨hs', -⟩ |
    ⟨hs', -, -⟩ | ⟨n, complete⟩
  · exact Or.inl hs
  · exact Or.inl hs
  · rw [structType?_add] at hs
    split at hs
    · exact nomatch hstruct.symm.trans hs
    · exact Or.inl hs
  · rw [withStruct, Workspace.addStruct, structType?_add] at hs
    split at hs
    · exact Or.inr ⟨name, members, start, ‹_›, (Option.some.inj hs).symm, rfl⟩
    · exact Or.inl hs
  · rw [structType?_reshape hs'] at hs
    · exact Or.inl hs
    · rfl
  · rw [structType?_reshape hs'] at hs
    · exact Or.inl hs
    · rfl
  · rw [structType?_of_skeleton_eq (w.produced n complete).skeleton_eq] at hs
    exact Or.inl hs

theorem keeps_reshape (hs : w.shape? n = some before) (h : shape.handle? = before.handle?) :
    w.Keeps (w.reshape n shape) :=
  ⟨.refl _, fun m t ht => by rwa [handle?_reshape hs h]⟩

theorem Faithful.reshape (hw : w.Faithful) (hs : w.shape? n = some before)
    (hhandle : shape.handle? = before.handle?) (htype : shape.structType? = before.structType?)
    (hformed : ∀ former t, shape ≠ .formed former (some t))
    (hstruct : ∀ t layout, shape = .struct t layout →
      ∃ data, w.arena.data? t = some (.struct data) ∧ layout.Faithful w.handle? data) :
    (w.reshape n shape).Faithful := by
  refine ⟨hw.uniqued, fun m former t hm => ?_, fun m t layout hm => ?_,
    structType?_reshape hs htype ▸ hw.distinct⟩
  · rw [shape?_reshape hs] at hm
    rw [handle?_reshape hs hhandle]
    split at hm
    · exact absurd (Option.some.inj hm) (hformed former t)
    · exact hw.formed m former t hm
  · rw [shape?_reshape hs] at hm
    rw [handle?_reshape hs hhandle]
    split at hm
    · exact hstruct t layout (Option.some.inj hm)
    · exact hw.struct m t layout hm

/-- A pointer without a pointee was not produced. -/
theorem Faithful.unbound (hw : w.Faithful) {storage : StorageClass} {made : Option Ty}
    (hs : w.shape? n = some (.formed (.pointer none storage) made)) : made = none := by
  cases made with
  | none => rfl
  | some t =>
    obtain ⟨data, -, hi⟩ := hw.formed n _ t hs
    exact nomatch hi

theorem Faithful.push (hw : w.Faithful) {layout : Layout}
    (hs : w.shape? n = some (.struct t layout)) (hc : layout.complete = false)
    (decorations : List Decoration) (member : NodeId) :
    (w.reshape n (.struct t (layout.push { decorations, type := member }))).Faithful := by
  refine hw.reshape hs rfl rfl nofun fun t' layout' heq => ?_
  cases heq
  obtain ⟨data, hdata, hl⟩ := hw.struct n t layout hs
  have hc' : (layout.push { decorations, type := member }).complete = false := hc
  refine ⟨data, hdata, .of_incomplete hc' (fun m hm => ?_) _ _⟩
  rcases List.mem_append.mp hm with hold | hnew
  · exact hl.unplaced hc m hold
  · rw [List.mem_singleton.mp hnew]

/-! ### Any action -/

theorem Performs.faithful {action : Action} (h : w.Performs action w') (hw : w.Faithful) :
    w'.Faithful := by
  rcases h with _ | a | ⟨node, -, hmade, hstruct⟩ | ⟨name, members, start⟩ | ⟨hs, -⟩ |
    ⟨hs, hc, -⟩ | ⟨n, complete⟩
  · exact hw
  · exact hw.arena (w.arena.grows_perform a) (hw.uniqued.perform a)
  · exact hw.add hmade fun t ht => by simp [hstruct] at ht
  · exact hw.withStruct name members start
  · obtain rfl := hw.unbound hs
    exact hw.reshape hs rfl rfl nofun nofun
  · exact hw.push hs hc _ _
  · exact ((w.produced n complete).imaged hw).1

theorem Performs.keeps {action : Action} (h : w.Performs action w') (hw : w.Faithful) :
    w.Keeps w' := by
  rcases h with _ | a | ⟨node⟩ | ⟨name, members, start⟩ | ⟨hs, -⟩ | ⟨hs, -, -⟩ | ⟨n, complete⟩
  · exact .refl w
  · exact ⟨w.arena.grows_perform a, fun _ _ h => h⟩
  · exact w.keeps_add node
  · exact w.keeps_withStruct name members start
  · exact keeps_reshape hs rfl
  · exact keeps_reshape hs rfl
  · exact ((w.produced n complete).imaged hw).2.1

/-- Nothing has been produced for an empty graph. -/
theorem faithful_empty {arena : TypeArena} (hu : arena.Uniqued) :
    ({ arena } : Workspace).Faithful where
  uniqued := hu
  formed n former t hs := by simp [shape?, node?] at hs
  struct n t layout hs := by simp [shape?, node?] at hs
  distinct n m t hn := by simp [structType?, shape?, node?] at hn

theorem Faithful.run (hw : w.Faithful) (actions : List Action) : (w.run actions).Faithful :=
  run_preserves Performs.faithful hw actions

/-- Whatever is done, no type is lost. -/
theorem Faithful.keeps_run (hw : w.Faithful) (actions : List Action) :
    w.Keeps (w.run actions) := by
  refine (run_keeps (R := fun w w' => w.Faithful → w'.Faithful ∧ w.Keeps w')
    (fun w hw => ⟨hw, .refl w⟩) (fun h h' hw => ?_) (fun w action hw => ?_) w actions hw).2
  · obtain ⟨hv, hkeeps⟩ := h hw
    obtain ⟨hw', hkeeps'⟩ := h' hv
    exact ⟨hw', hkeeps.trans hkeeps'⟩
  · exact ⟨(w.performs action).faithful hw, (w.performs action).keeps hw⟩

end Workspace

end ShaderLowering
