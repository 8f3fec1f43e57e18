import ShaderLowering.Proofs.TypeGraph.Lifetime
import Mathlib.Order.Bounds.Basic

/-!
# The members bound to built-in roles

A member of a struct may carry any number of built-in roles, and a role may be carried by
several members. Which member plays a role is looked up among the bindings, the latest of which
comes first. So what is found is the newest member that carries the role
(`ShaderLowering.Layout.Answers`), and that stays so whatever happens to the struct: members are
refused once it is complete, and a layout that succeeds or fails changes no decoration.

Which members there are is a matter of what was accepted. Over the life of a workspace, the
members of a node are those it was made with and those it was given since, in this order
(`ShaderLowering.Workspace.members_lived`).
-/

namespace ShaderLowering

variable {role : BuiltIn} {index : Nat}

/-! ### Who carries a role -/

/-- The decoration binds its target to a role: its kind says so, and its first parameter is the
number of the role. -/
def Decoration.Binds (d : Decoration) (role : BuiltIn) : Prop :=
  d.kind = .builtIn ∧ ∃ word, d.parameters.head? = some word ∧ Enumerant.ofWord? word = some role

theorem Decoration.builtInRole?_eq_some_iff {d : Decoration} :
    d.builtInRole? = some role ↔ d.Binds role := by
  obtain ⟨kind, parameters, hlength⟩ := d
  rcases parameters with _ | ⟨word, parameters⟩
  · cases kind <;> simp [builtInRole?, Binds]
  · cases kind <;> simp [builtInRole?, Binds]

instance (d : Decoration) (role : BuiltIn) : Decidable (d.Binds role) :=
  decidable_of_iff _ Decoration.builtInRole?_eq_some_iff

/-- A member carries a role if one of its decorations binds it. -/
def Member.Carries (m : Member) (role : BuiltIn) : Prop :=
  ∃ d ∈ m.decorations, d.Binds role

instance (m : Member) (role : BuiltIn) : Decidable (m.Carries role) :=
  inferInstanceAs (Decidable (∃ d ∈ m.decorations, d.Binds role))

namespace Layout

variable {l l' : Layout}

/-- The places of the members that carry a role. -/
def carriers (l : Layout) (role : BuiltIn) : Set Nat :=
  {index | ∃ m, l.members[index]? = some m ∧ m.Carries role}

theorem mem_carriers :
    index ∈ l.carriers role ↔ ∃ m, l.members[index]? = some m ∧ m.Carries role :=
  Iff.rfl

theorem lt_length_of_mem_carriers (h : index ∈ l.carriers role) : index < l.members.length := by
  obtain ⟨m, hm, -⟩ := h
  exact (List.getElem?_eq_some_iff.mp hm).1

theorem carriers_eq_empty_iff : l.carriers role = ∅ ↔ ∀ m ∈ l.members, ¬m.Carries role := by
  rw [Set.eq_empty_iff_forall_notMem]
  constructor
  · intro h m hm hrole
    obtain ⟨index, hindex⟩ := List.mem_iff_getElem?.mp hm
    exact h index ⟨m, hindex, hrole⟩
  · rintro h index ⟨m, hindex, hrole⟩
    exact h m (List.mem_of_getElem? hindex) hrole

/-- **What is answered for a role**: the greatest place of a member that carries it, if there is
one. -/
structure Answers (l : Layout) (role : BuiltIn) : Prop where
  newest : ∀ index, l.slot? role = some index ↔ IsGreatest (l.carriers role) index
  unbound : l.slot? role = none ↔ l.carriers role = ∅

theorem carriers_skeleton (l : Layout) (role : BuiltIn) :
    l.skeleton.carriers role = l.carriers role := by
  ext index
  simp [carriers, skeleton, Member.Carries]

/-- What is answered is not a matter of how far the layout has got. -/
theorem answers_skeleton : l.skeleton.Answers role ↔ l.Answers role := by
  have hslot : l.skeleton.slot? role = l.slot? role := rfl
  have hcarriers := l.carriers_skeleton role
  constructor
  · rintro ⟨hnewest, hunbound⟩
    rw [hslot, hcarriers] at hunbound
    exact ⟨fun index => hslot ▸ hcarriers ▸ hnewest index, hunbound⟩
  · rintro ⟨hnewest, hunbound⟩
    rw [← hslot, ← hcarriers] at hunbound
    exact ⟨fun index => hslot.symm ▸ hcarriers.symm ▸ hnewest index, hunbound⟩

theorem Answers.congr (h : l.Answers role) (hskeleton : l'.skeleton = l.skeleton) :
    l'.Answers role :=
  answers_skeleton.mp (hskeleton ▸ answers_skeleton.mpr h)

/-! ### One more member -/

/-- The bindings that the decorations of a member add to those there were: a role that one of
them binds is bound to the member, whatever it was bound to, and the others are left alone. -/
theorem lookup_bindings (decorations : List Decoration) (slots : List (BuiltIn × Nat))
    (index : Nat) (role : BuiltIn) :
    (decorations.foldl
      (fun slots d =>
        match d.builtInRole? with
        | some role => (role, index) :: slots
        | none => slots)
      slots).lookup role =
      if ∃ d ∈ decorations, d.Binds role then some index else slots.lookup role := by
  induction decorations generalizing slots with
  | nil => simp
  | cons d decorations ih =>
    rw [List.foldl_cons, ih]
    by_cases hlater : ∃ d ∈ decorations, d.Binds role
    · rw [if_pos hlater, if_pos (hlater.imp fun _ h => ⟨List.mem_cons_of_mem _ h.1, h.2⟩)]
    · rw [if_neg hlater]
      by_cases hd : d.Binds role
      · rw [Decoration.builtInRole?_eq_some_iff.mpr hd, if_pos ⟨d, List.mem_cons_self, hd⟩]
        exact List.lookup_cons_self
      · rw [if_neg (by simpa [hd] using hlater)]
        cases hrole : d.builtInRole? with
        | none => rfl
        | some other =>
          have hne : (role == other) = false := by
            rw [beq_eq_false_iff_ne]
            rintro rfl
            exact hd (Decoration.builtInRole?_eq_some_iff.mp hrole)
          simp only [List.lookup_cons, hne]

theorem slot?_push (l : Layout) (m : Member) (role : BuiltIn) :
    (l.push m).slot? role = if m.Carries role then some l.members.length else l.slot? role :=
  lookup_bindings m.decorations l.slots l.members.length role

theorem mem_carriers_push {m : Member} :
    index ∈ (l.push m).carriers role ↔
      index ∈ l.carriers role ∨ index = l.members.length ∧ m.Carries role := by
  have hpush : (l.push m).members = l.members ++ [m] := rfl
  rw [mem_carriers, hpush]
  rcases Nat.lt_trichotomy index l.members.length with h | rfl | h
  · rw [List.getElem?_append_left h]
    exact ⟨Or.inl, fun h' => h'.resolve_right fun h' => Nat.ne_of_lt h h'.1⟩
  · rw [List.getElem?_concat_length]
    constructor
    · rintro ⟨m', hm', hrole⟩
      rw [Option.some.inj hm']
      exact Or.inr ⟨rfl, hrole⟩
    · rintro (h' | ⟨-, hrole⟩)
      · exact absurd (lt_length_of_mem_carriers h') (Nat.lt_irrefl _)
      · exact ⟨m, rfl, hrole⟩
  · constructor
    · rintro ⟨m', hm', -⟩
      have := (List.getElem?_eq_some_iff.mp hm').1
      rw [List.length_append, List.length_singleton] at this
      omega
    · rintro (h' | ⟨rfl, -⟩)
      · exact absurd (lt_length_of_mem_carriers h') (Nat.not_lt_of_lt h)
      · exact absurd h (Nat.lt_irrefl _)

/-- **The newest member that carries a role takes it over.** -/
theorem Answers.push (h : l.Answers role) (m : Member) : (l.push m).Answers role := by
  by_cases hm : m.Carries role
  · have hslot : (l.push m).slot? role = some l.members.length := by rw [slot?_push, if_pos hm]
    have hgreatest : IsGreatest ((l.push m).carriers role) l.members.length := by
      refine ⟨mem_carriers_push.mpr (Or.inr ⟨rfl, hm⟩), fun index hindex => ?_⟩
      rcases mem_carriers_push.mp hindex with hold | ⟨rfl, -⟩
      · exact Nat.le_of_lt (lt_length_of_mem_carriers hold)
      · exact Nat.le_refl _
    refine ⟨fun index => ?_, ?_⟩
    · rw [hslot, Option.some.injEq]
      exact ⟨fun heq => heq ▸ hgreatest, hgreatest.unique⟩
    · rw [hslot]
      exact ⟨nofun, fun hempty => (hempty ▸ hgreatest.1 : _ ∈ (∅ : Set Nat)).elim⟩
  · have hslot : (l.push m).slot? role = l.slot? role := by rw [slot?_push, if_neg hm]
    have hcarriers : (l.push m).carriers role = l.carriers role := by
      ext index
      rw [mem_carriers_push]
      exact ⟨fun h' => h'.resolve_right fun h' => hm h'.2, Or.inl⟩
    exact ⟨fun index => by rw [hslot, hcarriers]; exact h.newest index,
      by rw [hslot, hcarriers]; exact h.unbound⟩

theorem answers_empty (role : BuiltIn) : ({} : Layout).Answers role := by
  have hempty : ({} : Layout).carriers role = ∅ := by
    ext index
    simp [carriers]
  refine ⟨fun index => ⟨nofun, fun h => ?_⟩, fun _ => hempty, fun _ => rfl⟩
  exact (hempty ▸ h.1 : index ∈ (∅ : Set Nat)).elim

theorem Answers.foldl_push (h : l.Answers role) (members : List Member) :
    (members.foldl Layout.push l).Answers role := by
  induction members generalizing l with
  | nil => exact h
  | cons m members ih => exact ih (h.push m)

/-- **Layouts go on answering** for their roles, whatever changes them. -/
theorem isKept_answers : IsKept fun l => ∀ role, l.Answers role where
  new _ role := (answers_empty role).foldl_push _
  push _ _ _ h role := (h role).push _
  looped l h role := (h role).congr l.skeleton_looped
  laidOut l h role := (h role).congr l.skeleton_laidOut

end Layout

/-! ### Members that were given -/

/-- The members that a shape was given, if it is that of a struct. -/
def Shape.added : Shape → List (List Decoration × NodeId)
  | .struct _ layout => layout.members.map fun m => (m.decorations, m.type)
  | _ => []

theorem Shape.added_skeleton (s : Shape) : s.skeleton.added = s.added := by
  obtain _ | _ | ⟨type, layout⟩ := s
  · rfl
  · rfl
  · simp [skeleton, added, Layout.skeleton]

theorem Shape.added_detached (s : Shape) : s.detached.added = s.added := by
  obtain _ | ⟨⟨_, _⟩ | _ | _, made⟩ | _ := s
  all_goals rfl

theorem Shape.added_of_structType? {s : Shape} (h : s.structType? = none) : s.added = [] := by
  obtain _ | _ | _ := s
  · rfl
  · rfl
  · exact nomatch h

/-- The action gives members to no struct. -/
def Action.GivesNoMember : Action → Prop
  | .addStruct _ _ _ | .addMember _ _ _ => False
  | _ => True

namespace Workspace

variable {w w' : Workspace} {n m : NodeId} {action : Action}

theorem members_eq_added (w : Workspace) (n : NodeId) :
    w.members n = ((w.shape? n).map Shape.added).getD [] := by
  rw [members, layout?, shape?]
  cases w.node? n with
  | none => rfl
  | some node =>
    obtain ⟨start, guard, _ | _ | _⟩ := node
    all_goals rfl

theorem members_of_shape? {s : Shape} (h : w.shape? n = some s) : w.members n = s.added := by
  rw [members_eq_added, h]
  rfl

/-- A node that is not there has no members. -/
theorem members_of_size_eq (h : n.index = w.graph.nodes.size) : w.members n = [] := by
  have hnone : w.node? n = none := Array.getElem?_eq_none (Nat.le_of_eq h.symm)
  rw [members, layout?, hnone]
  rfl

/-- A node that is added has the members it was made with, and those of the others stay. -/
theorem members_add (w : Workspace) (node : Node) (n : NodeId) :
    (w.add node).2.members n =
      w.members n ++ if n.index = w.graph.nodes.size then node.shape.added else [] := by
  rw [members_eq_added, shape?_add]
  split
  · rename_i hn
    rw [members_of_size_eq hn]
    rfl
  · rw [← members_eq_added, List.append_nil]

theorem members_reshape {before : Shape} (hs : w.shape? m = some before) (shape : Shape)
    (n : NodeId) : (w.reshape m shape).members n = if n = m then shape.added else w.members n := by
  rw [members_eq_added, shape?_reshape hs]
  split
  · rfl
  · rw [members_eq_added]

theorem members_of_skeleton_eq (h : w'.skeleton = w.skeleton) (n : NodeId) :
    w'.members n = w.members n := by
  have hadded := congrArg (Option.map Shape.added) (shape?_skeleton h n)
  simp only [Option.map_map, Function.comp_def, Shape.added_skeleton] at hadded
  rw [members_eq_added, members_eq_added]
  exact congrArg (Option.getD · []) hadded

theorem members_detachAll (w : Workspace) (n : NodeId) : w.detachAll.members n = w.members n := by
  rw [members_eq_added, shape?_detachAll, Option.map_map, members_eq_added]
  exact congrArg (Option.getD · []) (Option.map_congr fun s _ => s.added_detached)

/-- The node is a struct that can be given another member. -/
def accepts (w : Workspace) (struct : NodeId) (member : Member) : Bool :=
  (w.addMember? struct member).any Except.isOk

theorem accepts_iff {struct : NodeId} {member : Member} :
    w.accepts struct member = true ↔ ∃ w', w.addMember? struct member = some (.ok w') := by
  rw [accepts]
  rcases w.addMember? struct member with _ | _ | w'
  · simp
  · simp [Except.isOk, Except.toBool]
  · simp [Except.isOk, Except.toBool]

/-- A member that is not accepted changes nothing. -/
theorem act_addMember_of_not_accepts {struct type : NodeId} {decorations : List Decoration}
    (h : ¬w.accepts struct { decorations, type } = true) :
    w.act (.addMember struct decorations type) = w := by
  rw [act_addMember]
  rcases w.outcome_cases (w.addMember? struct { decorations, type }) with hsame | hchanged
  · exact hsame
  · exact absurd (accepts_iff.mpr ⟨_, hchanged⟩) h

/-- **The members that an event gives a node**: those of a struct that is added, or another one
that is not refused. An event that names nodes that are not there gives none. -/
def givenBy (w : Workspace) (n : NodeId) : Event → List (List Decoration × NodeId)
  | .acted (.addStruct _ members _) =>
    if n.index = w.graph.nodes.size ∧ ∀ m ∈ members, (w.node? m.2).isSome then members else []
  | .acted (.addMember struct decorations type) =>
    if n = struct ∧ (w.node? type).isSome ∧ w.accepts struct { decorations, type } then
      [(decorations, type)]
    else []
  | _ => []

/-- The members that a node is given in the course of events, in their order. -/
def given (w : Workspace) (n : NodeId) : List Event → List (List Decoration × NodeId)
  | [] => []
  | event :: events => w.givenBy n event ++ (w.undergo event).given n events

/-- The other actions leave the members of all structs as they are. -/
theorem Performs.members_eq (h : w.Performs action w') (hnone : action.GivesNoMember)
    (n : NodeId) : w'.members n = w.members n := by
  rcases h with _ | _ | ⟨node, -, -, hstruct⟩ | ⟨name, members, start⟩ | ⟨hs, -⟩ | ⟨hs, -, -⟩ |
    ⟨m, complete⟩
  · rfl
  · rfl
  · rw [members_add, Shape.added_of_structType? hstruct, ite_self, List.append_nil]
  · exact hnone.elim
  · rw [members_reshape hs]
    split
    · rename_i hn
      rw [hn, members_of_shape? hs]
      rfl
    · rfl
  · exact hnone.elim
  · exact members_of_skeleton_eq (w.produced m complete).skeleton_eq n

/-- A struct that is added has the members it is made with. -/
theorem members_perform_addStruct (w : Workspace) (name : String)
    (members : List (List Decoration × NodeId)) (start : Nat) (n : NodeId) :
    (w.perform (.addStruct name members start)).members n =
      w.members n ++ w.givenBy n (.acted (.addStruct name members start)) := by
  have hrefs : (∀ m ∈ (Action.addStruct name members start).refs, m.index < w.graph.nodes.size) ↔
      ∀ m ∈ members, (w.node? m.2).isSome := by
    simp only [Action.refs, List.forall_mem_map, lt_size_iff]
  rw [perform, givenBy]
  by_cases hthere : ∀ m ∈ members, (w.node? m.2).isSome
  · have hadded (t : Ty) : (Shape.struct t (.ofMembers
        (members.map fun m => { decorations := m.1, type := m.2 }))).added = members := by
      simp [Shape.added, Function.comp_def]
    rw [if_pos (hrefs.mpr hthere), act, addStruct]
    refine (members_add { w with arena := (w.arena.struct name).2 } _ n).trans ?_
    exact congrArg (w.members n ++ ·) (if_congr (and_iff_left hthere).symm (hadded _) rfl)
  · rw [if_neg (mt hrefs.mp hthere), if_neg fun h => hthere h.2, List.append_nil]

/-- A struct that accepts a member has it after those it had. -/
theorem members_perform_addMember (w : Workspace) (struct type : NodeId)
    (decorations : List Decoration) (n : NodeId) :
    (w.perform (.addMember struct decorations type)).members n =
      w.members n ++ w.givenBy n (.acted (.addMember struct decorations type)) := by
  have hrefs : (∀ m ∈ (Action.addMember struct decorations type).refs,
      m.index < w.graph.nodes.size) ↔ (w.node? struct).isSome ∧ (w.node? type).isSome := by
    simp [Action.refs, lt_size_iff]
  rw [perform, givenBy]
  by_cases haccepts : w.accepts struct { decorations, type }
  · obtain ⟨w', hchanged⟩ := accepts_iff.mp haccepts
    have hact : w.act (.addMember struct decorations type) = w' := by
      rw [act_addMember, hchanged]
      rfl
    obtain ⟨t, layout, hs, -, rfl⟩ := of_addMember? hchanged
    have hstruct : (w.node? struct).isSome := by
      obtain ⟨node, hn, -⟩ := Option.map_eq_some_iff.mp hs
      exact Option.isSome_of_eq_some hn
    by_cases htype : (w.node? type).isSome
    · rw [if_pos (hrefs.mpr ⟨hstruct, htype⟩), hact, members_reshape hs]
      by_cases hn : n = struct
      · rw [if_pos hn, if_pos ⟨hn, htype, haccepts⟩, hn, members_of_shape? hs]
        simp [Shape.added, Layout.push]
      · rw [if_neg hn, if_neg fun h => hn h.1, List.append_nil]
    · rw [if_neg fun h => htype (hrefs.mp h).2, if_neg fun h => htype h.2.1, List.append_nil]
  · rw [act_addMember_of_not_accepts haccepts, ite_self, if_neg fun h => haccepts h.2.2,
      List.append_nil]

theorem members_undergo (w : Workspace) (n : NodeId) (event : Event) :
    (w.undergo event).members n = w.members n ++ w.givenBy n event := by
  rcases event with action | _
  · cases action with
    | addStruct name members start => exact w.members_perform_addStruct name members start n
    | addMember struct decorations type =>
      exact w.members_perform_addMember struct type decorations n
    | _ => exact ((w.performs _).members_eq (by trivial) n).trans (List.append_nil _).symm
  · exact (w.members_detachAll n).trans (List.append_nil _).symm

/-- **Members are given in their order**, and nothing but a member that is accepted adds to
them. -/
theorem members_lived (w : Workspace) (n : NodeId) (events : List Event) :
    (w.lived events).members n = w.members n ++ w.given n events := by
  induction events generalizing w with
  | nil => exact (List.append_nil _).symm
  | cons event events ih =>
    rw [given, ← List.append_assoc, ← members_undergo]
    exact ih (w.undergo event)

/-- A node that is not there yet has the members it is given. -/
theorem members_lived_empty (arena : TypeArena) (n : NodeId) (events : List Event) :
    (({ arena } : Workspace).lived events).members n = ({ arena } : Workspace).given n events := by
  have hnone : ({ arena } : Workspace).members n = [] := by simp [members, layout?, node?]
  rw [members_lived, hnone, List.nil_append]

/-- **Built-in slots name the newest member.** Whatever has happened to a workspace, and however
far the layout of a struct has got, a role is answered for by the greatest index of a member that
has a decoration binding the role, and by none exactly if no member has one. And the members are
those that the struct was made with and those that it was given since and accepted, all of them,
in this order. -/
theorem lived_slots_newest (arena : TypeArena) (events : List Event) (n : NodeId)
    (layout : Layout) (h : (({ arena } : Workspace).lived events).layout? n = some layout) :
    (∀ role, (∀ index, layout.slot? role = some index ↔
        IsGreatest (layout.carriers role) index) ∧
      (layout.slot? role = none ↔ ∀ m ∈ layout.members, ¬m.Carries role)) ∧
      layout.members.map (fun m => (m.decorations, m.type)) =
        ({ arena } : Workspace).given n events ∧
      layout.members.length = (({ arena } : Workspace).given n events).length := by
  have hanswers := (eachLayout_empty _ arena).lived Layout.isKept_answers events n layout h
  have hmembers : layout.members.map (fun m => (m.decorations, m.type)) =
      ({ arena } : Workspace).given n events := by
    rw [← members_lived_empty, members, h]
    rfl
  refine ⟨fun role => ⟨(hanswers role).newest, ?_⟩, hmembers, ?_⟩
  · rw [(hanswers role).unbound, Layout.carriers_eq_empty_iff]
  · rw [← hmembers, List.length_map]

/-- A role that is bound twice goes to the member that is added last, before the struct is
complete. -/
theorem lived_slots_newest_interface :
    let events : List Event := [.acted (.addStruct "inner" [] 0),
      .acted (.addStruct "Interface" [([.ofBuiltIn .pointSize, .ofBuiltIn .position], ⟨0⟩),
        ([], ⟨0⟩), ([.ofBuiltIn .pointSize], ⟨0⟩)] 1),
      .acted (.addMember ⟨1⟩ [.ofBuiltIn .position] ⟨0⟩), .acted (.produce ⟨1⟩ true),
      .acted (.addMember ⟨1⟩ [.ofBuiltIn .pointSize] ⟨0⟩), .detached]
    ∃ layout, (({} : Workspace).lived events).layout? ⟨1⟩ = some layout ∧
      IsGreatest (layout.carriers .position) 3 ∧ IsGreatest (layout.carriers .pointSize) 2 ∧
      (∀ m ∈ layout.members, ¬m.Carries .fragCoord) ∧ layout.members.length = 4 := by
  intro events
  have hslots : ((({} : Workspace).lived events).layout? ⟨1⟩).map (fun layout =>
        (layout.slot? .position, layout.slot? .pointSize, layout.slot? .fragCoord)) =
      some (some 3, some 2, none) := by
    decide +kernel
  have hgiven : (({} : Workspace).given ⟨1⟩ events).length = 4 := by decide +kernel
  obtain ⟨layout, hlayout, heq⟩ := Option.map_eq_some_iff.mp hslots
  simp only [Prod.mk.injEq] at heq
  obtain ⟨hposition, hsize, hcoord⟩ := heq
  obtain ⟨hroles, -, hlength⟩ := lived_slots_newest {} events ⟨1⟩ layout hlayout
  exact ⟨layout, hlayout, ((hroles _).1 3).mp hposition, ((hroles _).1 2).mp hsize,
    (hroles _).2.mp hcoord, hlength.trans hgiven⟩

end Workspace

end ShaderLowering
