import ShaderLowering.Proofs.Lowering.Walk

/-!
# What a walk leaves behind

A walk over the instructions of a shader builds its workspace by actions, none of which
gives a struct a body from outside, so that everything that is known of histories is known
of walks. And what has been noted about the graph on the way is true of it: the nodes of
types are there, those of functions declare functions, and the interface struct has one
member for each of its variables (`ShaderLowering.Declarations.Sound`).
-/

namespace ShaderLowering

namespace Workspace

variable {w : Workspace} {arena : TypeArena} {allowed : Action → Prop} {n : NodeId}

/-- Where no struct is given a body from outside, a struct that is not complete has none. -/
theorem Becomes.untouched (h : ({ arena } : Workspace).Becomes Action.GivesNoBody w)
    (hu : arena.Uniqued) (n : NodeId) : w.Untouched n := by
  obtain ⟨actions, rfl, hallowed⟩ := h
  have hempty : ({ arena } : Workspace).Untouched n := by
    intro t layout hs
    simp [shape?, node?] at hs
  refine (faithful_empty hu).untouched_run hempty fun action haction t members packed hbody => ?_
  have hgives := hallowed action haction
  rw [hbody] at hgives
  exact hgives.elim

/-- In a workspace that was built up from nothing, a struct that was found among its own
members holds itself. -/
theorem Becomes.looped_holds (h : ({ arena } : Workspace).Becomes allowed w)
    (hn : w.Looped n) : Relation.TransGen w.Holds n n := by
  obtain ⟨actions, rfl, -⟩ := h
  refine looped_holds_run (idle_empty arena) (fun m hm => ?_) actions hn
  obtain ⟨layout, hlayout, -⟩ := hm
  simp [layout?, node?] at hlayout

end Workspace

namespace Declarations

open Workspace

variable {d d' : Declarations} {arena : TypeArena} {i : Instruction} {w : Workspace}

/-- The struct of an interface has as many members as there are variables. -/
def InterfaceFits (w : Workspace) (f : Interface) : Prop :=
  ∃ t layout, w.shape? f.node = some (.struct t layout) ∧
    layout.members.length = f.members.length

/-- **What is true of the declarations at every point of a walk.** -/
structure Sound (arena : TypeArena) (d : Declarations) : Prop where
  history : ({ arena } : Workspace).Becomes Action.GivesNoBody d.workspace
  types : d.TypesThere
  functions : ∀ f ∈ d.functions, d.workspace.IsFunction f.type
  openFunction : ∀ f, d.openFunction = some f → d.workspace.IsFunction f.type
  interface : ∀ f, d.interface = some f → InterfaceFits d.workspace f

theorem sound_empty (arena : TypeArena) :
    ({ workspace := { arena } } : Declarations).Sound arena where
  history := .refl _
  types := List.forall_mem_nil _
  functions := List.forall_mem_nil _
  openFunction := nofun
  interface := nofun

theorem Sound.closed (hd : d.Sound arena) : d.workspace.Closed := by
  obtain ⟨actions, heq, -⟩ := hd.history
  exact heq ▸ (closed_empty arena).run actions

theorem Sound.idle (hd : d.Sound arena) : d.workspace.Idle := by
  obtain ⟨actions, heq, -⟩ := hd.history
  exact heq ▸ (idle_empty arena).run actions

theorem Sound.faithful (hd : d.Sound arena) (hu : arena.Uniqued) : d.workspace.Faithful := by
  obtain ⟨actions, heq, -⟩ := hd.history
  exact heq ▸ (faithful_empty hu).run actions

/-- To ask for types after a walk gives no struct a body from outside either. -/
theorem Sound.history_of_asking (hd : d.Sound arena)
    (hw : d.workspace.Becomes Action.Asking w) :
    ({ arena } : Workspace).Becomes Action.GivesNoBody w :=
  hd.history.trans (hw.imp fun _ ha => ha.plain.givesNoBody)

theorem InterfaceFits.becomes {w' : Workspace} {f : Interface} (h : InterfaceFits w f)
    (hw : w.Becomes Action.Plain w') : InterfaceFits w' f := by
  obtain ⟨t, layout, hs, hlength⟩ := h
  obtain ⟨layout', hs', htypes⟩ := hw.types hs
  have hlength' := congrArg List.length htypes
  rw [List.length_map, List.length_map] at hlength'
  exact ⟨t, layout', hs', hlength'.trans hlength⟩

/-- Plain actions leave true what has been noted. -/
theorem Sound.becomes (hd : d.Sound arena) (hw : d.workspace.Becomes Action.Plain w) :
    ({ d with workspace := w } : Declarations).Sound arena where
  history := hd.history.trans (hw.imp fun _ => Action.Plain.givesNoBody)
  types entry hentry := hw.graphGrows.isSome (hd.types entry hentry)
  functions f hf := hw.graphGrows.isFunction (hd.functions f hf)
  openFunction f hf := hw.graphGrows.isFunction (hd.openFunction f hf)
  interface f hf := (hd.interface f hf).becomes hw

/-- The interface is made if there is none; otherwise it is as it was. -/
theorem openInterface_becomes (d : Declarations) (start : Nat) :
    d.workspace.Becomes Action.Plain (d.openInterface start).2 := by
  rw [openInterface]
  split
  · exact .refl _
  · have hact : d.workspace.Becomes Action.Plain
        (d.workspace.act (.addStruct interfaceStructName [] start)) :=
      .act trivial (List.forall_mem_nil _)
    exact hact

theorem Sound.openInterface_fits (hd : d.Sound arena) (start : Nat) :
    InterfaceFits (d.openInterface start).2 (d.openInterface start).1 := by
  rw [openInterface]
  split
  · rename_i f hf
    exact hd.interface f hf
  · refine ⟨_, _, (d.workspace.shape?_withStruct interfaceStructName [] start _).trans
      (if_pos rfl), ?_⟩
    rfl

/-- A variable of the interface and its member are added together. -/
theorem Sound.interfaceVariable (hd : d.Sound arena) {f : Interface} {u : Workspace}
    {member : Member} (hopen : d.workspace.Becomes Action.Plain u) (hfits : InterfaceFits u f)
    (hmember : (d.workspace.node? member.type).isSome) (hplace : member.bodyIndex = none)
    (hw : u.addMember? f.node member = some (.ok w)) (v : InterfaceVariable) :
    ({ d with
      workspace := w
      interface := some { f with members := f.members ++ [v] } } : Declarations).Sound arena := by
  obtain ⟨t, layout, hs, hlength⟩ := hfits
  obtain ⟨t', layout', hs', -, hreshape⟩ := of_addMember? hw
  obtain ⟨rfl, rfl⟩ := Shape.struct.inj (Option.some.inj (hs.symm.trans hs'))
  -- adding the member is an action, since the member has no place in the struct's body yet
  have hact : u.act (.addMember f.node member.decorations member.type) = w := by
    have hnew : ({ decorations := member.decorations, type := member.type } : Member) = member := by
      rw [← hplace]
    rw [Workspace.act_addMember, hnew, hw]
    rfl
  have hadded : u.Becomes Action.GivesNoBody w := by
    refine hact ▸ .act trivial fun n hn => ?_
    rcases List.mem_pair.mp hn with rfl | rfl
    · obtain ⟨node, hnode, -⟩ := Option.map_eq_some_iff.mp hs
      exact Option.isSome_of_eq_some hnode
    · exact hopen.graphGrows.isSome hmember
  have hgrown : d.workspace.Becomes Action.GivesNoBody w :=
    (hopen.imp fun _ => Action.Plain.givesNoBody).trans hadded
  refine ⟨hd.history.trans hgrown, fun entry hentry => hgrown.graphGrows.isSome (hd.types entry
    hentry), fun f hf => hgrown.graphGrows.isFunction (hd.functions f hf), fun f hf =>
    hgrown.graphGrows.isFunction (hd.openFunction f hf), fun f' hf' => ?_⟩
  rw [← Option.some.inj hf']
  refine ⟨t, layout.push member, ?_, ?_⟩
  · rw [hreshape, shape?_reshape hs, if_pos rfl]
  · rw [Layout.push, List.length_append, List.length_append, hlength]
    rfl

/-- **An instruction leaves true what has been noted**, and what it notes is true. -/
theorem Sound.visits (hd : d.Sound arena) (h : Visits d i d') : d'.Sound arena := by
  rcases h with ⟨names, decorations, constants, entryPoints⟩ | ⟨scalarWidths, hnew, hw, hn⟩ |
    ⟨hw⟩ | ⟨id, hmember, hplace, hw⟩ | ⟨g⟩ | ⟨-, hf⟩ | ⟨id, hopen⟩ | ⟨hopen⟩
  · exact ⟨hd.history, hd.types, hd.functions, hd.openFunction, hd.interface⟩
  · have hd' := hd.becomes hw
    refine ⟨hd'.history, fun entry hentry => ?_, hd'.functions, hd'.openFunction, hd'.interface⟩
    rcases List.mem_cons.mp hentry with rfl | hentry
    · exact hn
    · exact hd'.types entry hentry
  · exact hd.becomes hw
  · exact hd.interfaceVariable (d.openInterface_becomes i.start) (hd.openInterface_fits i.start)
      hmember hplace hw ⟨id, i.start⟩
  · exact ⟨hd.history, hd.types, hd.functions, hd.openFunction, hd.interface⟩
  · refine ⟨hd.history, hd.types, hd.functions, fun f hf' => ?_, hd.interface⟩
    rw [← Option.some.inj hf']
    exact hf
  · have hold := hd.openFunction _ hopen
    refine ⟨hd.history, hd.types, hd.functions, fun f hf' => ?_, hd.interface⟩
    rw [← Option.some.inj hf']
    exact hold
  · refine ⟨hd.history, hd.types, fun f hf' => ?_, nofun, hd.interface⟩
    rcases List.mem_append.mp hf' with hold | hnew
    · exact hd.functions f hold
    · rw [List.mem_singleton.mp hnew]
      exact hd.openFunction _ hopen

/-- **What is true at the end of a walk.** -/
theorem sound_ofInstructions {instructions : List Instruction}
    (h : ofInstructions arena instructions = .ok d) : d.Sound arena :=
  foldlM_keeps (fun _ _ _ _ hstep hd => hd.visits (visits hd.types hd.closed hstep))
    (sound_empty arena) h

end Declarations

end ShaderLowering
