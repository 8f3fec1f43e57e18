import Mathlib.Data.List.Induction
import ShaderLowering.Proofs.Lowering.Correspondence

/-!
# The interface struct

The inputs and outputs of a shader are numbered in four places that are filled at different
times: the members of the interface struct's node, the list of variables beside it, the
places that the members are given when the struct is laid out, and the body of the struct's
type. They agree with the order of the variables in the stream, and so with one another.

An entry point lists the variables it uses by their ids, and is emitted with the numbers of
their members. Two variables may have one id, in which case the later counts
(`ShaderLowering.LastAt`).
-/

namespace ShaderLowering

/-! ### The last of several -/

/-- A member of a list stands at the given place, and at no later one. -/
def LastAt {α : Type} (as : List α) (a : α) (k : Nat) : Prop :=
  as[k]? = some a ∧ ∀ j, k < j → as[j]? ≠ some a

section LastAt

variable {α β : Type} {as : List α} {a b : α} {k : Nat}

theorem LastAt.lt (h : LastAt as a k) : k < as.length :=
  (List.getElem?_eq_some_iff.mp h.1).1

theorem lastAt_append_self (as : List α) (a : α) : LastAt (as ++ [a]) a as.length := by
  refine ⟨List.getElem?_concat_length, fun j hj => ?_⟩
  rw [List.getElem?_eq_none (by rw [List.length_append, List.length_singleton]; omega)]
  exact Option.some_ne_none a |>.symm

theorem LastAt.append (h : LastAt as a k) (hne : b ≠ a) : LastAt (as ++ [b]) a k := by
  refine ⟨List.getElem?_append_left h.lt ▸ h.1, fun j hj => ?_⟩
  rcases Nat.lt_trichotomy j as.length with hlt | rfl | hgt
  · rw [List.getElem?_append_left hlt]
    exact h.2 j hj
  · rw [List.getElem?_concat_length]
    exact mt Option.some.inj hne
  · rw [List.getElem?_eq_none (by rw [List.length_append, List.length_singleton]; omega)]
    exact Option.some_ne_none a |>.symm

theorem LastAt.map {f : α → β} (hf : Function.Injective f) (h : LastAt as a k) :
    LastAt (as.map f) (f a) k := by
  refine ⟨?_, fun j hj hcon => ?_⟩
  · rw [List.getElem?_map, h.1]
    rfl
  · rw [List.getElem?_map] at hcon
    obtain ⟨a', ha', heq⟩ := Option.map_eq_some_iff.mp hcon
    exact h.2 j hj (hf heq ▸ ha')

/-- What is found for some members of a list goes with those members. -/
theorem forall₂_filterMap {f : α → Option β} {p : α → Bool} {R : α → β → Prop}
    (hR : ∀ a b, f a = some b → R a b) (hp : ∀ a, (f a).isSome = p a) (as : List α) :
    List.Forall₂ R (as.filter p) (as.filterMap f) := by
  induction as with
  | nil => exact .nil
  | cons a as ih =>
    cases hfa : f a with
    | none =>
      have hpa : ¬p a = true := by
        rw [← hp, hfa]
        exact Bool.false_ne_true
      rw [List.filter_cons_of_neg hpa, List.filterMap_cons_none hfa]
      exact ih
    | some b =>
      have hpa : p a = true := by
        rw [← hp, hfa]
        rfl
      rw [List.filter_cons_of_pos hpa, List.filterMap_cons_some hfa]
      exact .cons (hR a b hfa) ih

end LastAt

namespace Interface

variable {f : Interface} {id : Id}

/-- A member is looked for among the variables from the last to the first. -/
theorem memberOf?_append (node : NodeId) (members : List InterfaceVariable)
    (v : InterfaceVariable) (id : Id) :
    memberOf? ⟨node, members ++ [v]⟩ id =
      if v.id = id then some members.length else memberOf? ⟨node, members⟩ id := by
  rw [memberOf?, List.zipIdx_append, List.reverse_append]
  by_cases h : v.id = id
  · simp [h]
  · simp [h, memberOf?]

/-- **The member of an id** is that of the last variable with the id. -/
theorem lastAt_of_memberOf? {node : NodeId} {members : List InterfaceVariable} {k : Nat}
    (h : memberOf? ⟨node, members⟩ id = some k) :
    LastAt (members.map InterfaceVariable.id) id k := by
  induction members using List.reverseRecOn with
  | nil => exact nomatch h
  | append_singleton members v ih =>
    rw [memberOf?_append] at h
    rw [List.map_append]
    split at h
    · rename_i hv
      have hlast := lastAt_append_self (members.map InterfaceVariable.id) v.id
      rw [List.length_map, Option.some.inj h, hv] at hlast
      rw [← hv] at hlast ⊢
      exact hlast
    · rename_i hv
      exact (ih h).append hv

theorem isSome_memberOf? (node : NodeId) (members : List InterfaceVariable) (id : Id) :
    (memberOf? ⟨node, members⟩ id).isSome = decide (id ∈ members.map InterfaceVariable.id) := by
  induction members using List.reverseRecOn with
  | nil => rfl
  | append_singleton members v ih =>
    rw [memberOf?_append]
    by_cases hv : v.id = id
    · simp [hv]
    · rw [if_neg hv, ih]
      have hne : ¬id = v.id := fun heq => hv heq.symm
      simp [hne]

end Interface

variable {d : Declarations} {instructions : List Instruction} {arena : TypeArena}
  {shader : ShaderModule} {name : String} {m : LoweredModule} {w : Workspace}

/-! ### What the interface is -/

/-- **The struct is laid out for variables**: it has one member for each of them, in their
order, of the type of its pointee, at its place, and the body of its type has the type of
each member there. -/
def LoweredModule.LaysOut (m : LoweredModule) (d : Declarations) (vars : List Instruction)
    (n : NodeId) : Prop :=
  ∃ t layout body, m.workspace.shape? n = some (.struct t layout) ∧
    m.workspace.arena.body? t = some body ∧
    List.Forall₂ (fun i member => d.variablePointee? i = some member.type) vars
      layout.members ∧
    (∀ (k : Nat) (member : Member), layout.members[k]? = some member →
      member.bodyIndex = some k) ∧
    List.Forall₂ (fun member type => m.workspace.handle? member.type = some type)
      layout.members body

/-- **The entry point uses the members** of the variables that its instruction lists, in
their order. Other ids in the list are passed over. -/
def EntryPoint.Uses (e : EntryPoint) (vars : List Instruction) (i : Instruction) : Prop :=
  ∃ heading, i.heading? = some heading ∧
    List.Forall₂ (fun id k => LastAt (vars.map fun v => v.operands[1]?) (some id) k)
      (heading.interface.filter fun id => some id ∈ vars.map fun v => v.operands[1]?)
      e.interfaceMembers

/-- **The interface of a lowered shader** is that of the given variables and entry
points. -/
structure LoweredModule.HasInterface (m : LoweredModule) (d : Declarations)
    (vars entries : List Instruction) : Prop where
  present : m.interfaceStruct.isSome ↔ vars ≠ []
  struct : ∀ n, m.interfaceStruct = some n → m.LaysOut d vars n
  wrappers : ∀ e ∈ m.entryPoints, ∃ f, m.unit.functions[e.wrapper]? = some f ∧
    m.TakesInterface f
  uses : List.Forall₂ (fun i e => e.Uses vars i) entries m.entryPoints
  shared : ∀ e ∈ m.entryPoints, e.interfaceStruct = m.interfaceStruct
  bounded : ∀ e ∈ m.entryPoints, ∀ k ∈ e.interfaceMembers, k < vars.length

namespace Declarations

open Workspace

/-! ### The members -/

/-- The ids of variables are those that the instructions give. -/
theorem Walks.map_operands (h : Walks arena { workspace := { arena } } instructions d) :
    (((moduleScope instructions).filter Instruction.isInterfaceVariable).map
      fun i => i.operands[1]?) = d.interfaceIds.map some := by
  rw [← List.forall₂_eq_eq_eq, List.forall₂_map_left_iff, List.forall₂_map_right_iff]
  exact h.interfaceIds

theorem Walks.isSome_interface (h : Walks arena { workspace := { arena } } instructions d) :
    d.interface.isSome ↔
      (moduleScope instructions).filter Instruction.isInterfaceVariable ≠ [] := by
  have hlength := h.interfaceIds.length_eq
  cases hf : d.interface with
  | none =>
    rw [Declarations.interfaceIds, hf] at hlength
    simpa using hlength
  | some f =>
    have hne := h.interface_inhabited (fun f hf => absurd hf (by simp)) f hf
    rw [interfaceIds_eq hf, List.length_map] at hlength
    refine iff_of_true rfl fun hnil => hne ?_
    rw [hnil] at hlength
    exact List.eq_nil_of_length_eq_zero hlength.symm

theorem Emits.laysOut (hd : d.Sound arena) (hu : arena.Uniqued) (he : d.Emits w m)
    (hwalks : Walks arena { workspace := { arena } } instructions d) {f : Interface}
    (hf : d.interface = some f) :
    m.LaysOut d ((moduleScope instructions).filter Instruction.isInterfaceVariable) f.node := by
  have hw : w.Faithful := he.history.faithful (hd.faithful hu)
  obtain ⟨t, layout₀, hs₀, -⟩ := hd.interface f hf
  obtain ⟨layout, hs, htypes⟩ := he.history.types hs₀
  obtain ⟨layout', hlayout', hc⟩ := he.complete f hf
  obtain rfl : layout = layout' := by
    rw [layout?_eq_some_iff.mpr ⟨t, hs⟩] at hlayout'
    exact Option.some.inj hlayout'
  obtain ⟨body, hbody, hmembers⟩ := hw.exists_body hs hc
  have hpointees := hwalks.interfaceTypes
  rw [interfaceTypes_eq hf, memberTypes_eq hs₀, ← htypes, List.forall₂_map_right_iff]
    at hpointees
  rw [List.forall₂_map_left_iff] at hmembers
  refine ⟨t, layout, body, ?_, ?_, hpointees, fun k member hk => hw.placed hs hc hk, ?_⟩
  · rw [he.workspace]
    exact shape?_detachAll_struct.mpr hs
  · rw [he.workspace]
    exact hbody
  · rw [he.workspace, handle?_detachAll]
    exact hmembers

/-! ### The entry points -/

/-- The member that an id is looked up as is that of the last variable with the id. -/
theorem memberOf?_interface (d : Declarations) (id : Id) :
    (∀ k, (d.interface.bind fun f => f.memberOf? id) = some k → LastAt d.interfaceIds id k) ∧
      (d.interface.bind fun f => f.memberOf? id).isSome = decide (id ∈ d.interfaceIds) := by
  cases hf : d.interface with
  | none =>
    rw [interfaceIds, hf]
    exact ⟨fun k hk => absurd hk (by simp), rfl⟩
  | some f =>
    rw [interfaceIds_eq hf]
    exact ⟨fun k hk => Interface.lastAt_of_memberOf? hk, Interface.isSome_memberOf? _ _ id⟩

theorem EmitsEntryPoint.uses {i : Instruction} {p : ShaderEntryPoint} {e : EntryPoint}
    (he : d.EmitsEntryPoint p e) (hi : i.heading? = some p.heading)
    (hwalks : Walks arena { workspace := { arena } } instructions d) :
    e.Uses ((moduleScope instructions).filter Instruction.isInterfaceVariable) i := by
  refine ⟨p.heading, hi, ?_⟩
  rw [hwalks.map_operands, he.members]
  refine forall₂_filterMap (fun id k hk => ?_) (fun id => ?_) p.interface
  · exact ((d.memberOf?_interface id).1 k hk).map (fun _ _ => Option.some.inj)
  · rw [(d.memberOf?_interface id).2]
    simp

end Declarations

theorem EntryPoint.Uses.lt {e : EntryPoint} {vars : List Instruction} {i : Instruction}
    (h : e.Uses vars i) {k : Nat} (hk : k ∈ e.interfaceMembers) : k < vars.length := by
  obtain ⟨heading, -, hmembers⟩ := h
  obtain ⟨id, -, hlast⟩ := exists_of_forall₂_right hmembers hk
  exact List.length_map (fun v : Instruction => v.operands[1]?) ▸ hlast.lt

/-- **The interface of a lowered shader** is that of its inputs and outputs, in the order
of the stream, and of its entry points. -/
theorem lower_interface {arena : TypeArena} {shader : ShaderModule} {name : String}
    {m : LoweredModule} (hu : arena.Uniqued) (h : lower arena shader name = .ok m) :
    ∃ d, Declarations.ofInstructions arena shader.instructions = .ok d ∧
      m.HasInterface d
        ((moduleScope shader.instructions).filter Instruction.isInterfaceVariable)
        ((moduleScope shader.instructions).filter Instruction.isEntryPoint) := by
  obtain ⟨d, w, hd, hwalks, he⟩ := Declarations.exists_of_lower hu h
  have hsound := Declarations.sound_ofInstructions hd
  have huses : List.Forall₂ (fun i e => EntryPoint.Uses e
        ((moduleScope shader.instructions).filter Instruction.isInterfaceVariable) i)
      ((moduleScope shader.instructions).filter Instruction.isEntryPoint) m.entryPoints :=
    (he.headings hwalks).imp fun i e hentry => by
      obtain ⟨p, hp, hentry⟩ := hentry
      exact hentry.uses hp hwalks
  refine ⟨d, hd, ?_, fun n hn => ?_, fun e hmem => ?_, huses, fun e hmem => ?_,
    fun e hmem k hk => ?_⟩
  · rw [he.interfaceStruct, Option.isSome_map]
    exact hwalks.isSome_interface
  · rw [he.interfaceStruct] at hn
    obtain ⟨f, hf, rfl⟩ := Option.map_eq_some_iff.mp hn
    exact he.laysOut hsound hu hwalks hf
  · obtain ⟨k, hk⟩ := List.mem_iff_getElem?.mp hmem
    obtain ⟨f, hf, htakes⟩ := he.takesInterface hk
    exact ⟨f, by rwa [he.wrapper k e hk], htakes⟩
  · obtain ⟨p, -, hp⟩ := exists_of_forall₂_right he.entryPoints hmem
    rw [hp.struct, he.interfaceStruct]
  · obtain ⟨i, -, hi⟩ := exists_of_forall₂_right huses hmem
    exact hi.lt hk

/-- A shader with an input, a global, an output, and an entry point that uses the output and
the input, and lists the output again. -/
theorem lower_interface_entry :
    let instructions : List Instruction :=
      [⟨15, [0, 8, 0x6e69616d, 0, 10, 6, 5, 10], 5, 14⟩, ⟨19, [1], 14, 16⟩, ⟨22, [2, 32], 16, 19⟩,
        ⟨32, [3, 1, 2], 19, 23⟩, ⟨32, [4, 6, 2], 23, 27⟩, ⟨32, [9, 3, 2], 27, 31⟩,
        ⟨59, [3, 5, 1], 31, 35⟩, ⟨59, [4, 6, 6], 35, 39⟩, ⟨59, [9, 10, 3], 39, 43⟩,
        ⟨33, [7, 1], 43, 46⟩, ⟨54, [1, 8, 0, 7], 46, 51⟩, ⟨56, [], 51, 52⟩]
    ∃ m d, lower {} ⟨⟨1, 0, 0, 11⟩, instructions⟩ "unit" = .ok m ∧
      m.entryPoints.map EntryPoint.interfaceMembers = [[1, 0, 1]] ∧
      m.HasInterface d [⟨59, [3, 5, 1], 31, 35⟩, ⟨59, [9, 10, 3], 39, 43⟩]
        [⟨15, [0, 8, 0x6e69616d, 0, 10, 6, 5, 10], 5, 14⟩] := by
  intro instructions
  have hmembers : (lower {} ⟨⟨1, 0, 0, 11⟩, instructions⟩ "unit").toOption.map
      (fun m => m.entryPoints.map EntryPoint.interfaceMembers) = some [[1, 0, 1]] := by
    decide +kernel
  obtain ⟨m, h, hm⟩ := of_toOption_map_eq_some hmembers
  obtain ⟨d, -, hd⟩ := lower_interface TypeArena.uniqued_empty h
  have hvars : (moduleScope instructions).filter Instruction.isInterfaceVariable =
      [⟨59, [3, 5, 1], 31, 35⟩, ⟨59, [9, 10, 3], 39, 43⟩] := by
    decide
  have hentries : (moduleScope instructions).filter Instruction.isEntryPoint =
      [⟨15, [0, 8, 0x6e69616d, 0, 10, 6, 5, 10], 5, 14⟩] := by
    decide
  dsimp only at hd
  rw [hvars, hentries] at hd
  exact ⟨m, d, h, hm, hd⟩

end ShaderLowering
