import ShaderLowering.Proofs.Lowering.DeclarationOrder
import ShaderLowering.Proofs.Lowering.Recorded
import ShaderLowering.Proofs.Lowering.Reports
import ShaderLowering.Proofs.TypeGraph.Detached
import ShaderLowering.Proofs.TypeGraph.Stability

/-!
# Where decorations end up

A decoration names what it decorates, an id or the member of a struct, and may come long before
it. When the struct or the variable is read, the decorations that were noted for it by then go
into its members (`ShaderLowering.Declarations.StructDecorated`,
`ShaderLowering.Declarations.VariableDecorated`), and from then on the members stay as they
were added. Which decorations those are is said about the words of the stream alone
(`ShaderLowering.writtenOn`), since what a decoration is written as determines it
(`ShaderLowering.Decoration.written_injective`). For the structs of the stream this needs that
the interface struct, which goes on getting members, is none of them
(`ShaderLowering.Declarations.Ordered.interface`).
-/

namespace ShaderLowering

/-! ### Decorations as they are written -/

/-- What a decoration is written as: the number of its kind, and its parameters. -/
def Decoration.written (decoration : Decoration) : Nat × List Word :=
  (Enumerant.code decoration.kind, decoration.parameters)

/-- No two decorations are written alike. -/
theorem Decoration.written_injective : Function.Injective Decoration.written := by
  rintro ⟨kind, parameters, hlength⟩ ⟨kind', parameters', hlength'⟩ h
  obtain ⟨hkind, rfl⟩ := Prod.mk.inj h
  obtain rfl := Enumerant.code_injective hkind
  rfl

/-- What is written is a decoration: the number is that of a kind, and there are no more than
four parameters. -/
def IsDecoration (number : Nat) (parameters : List Word) : Prop :=
  (∃ kind : DecorationKind, Enumerant.code kind = number) ∧ parameters.length ≤ 4

theorem exists_code_iff {n : Nat} :
    (∃ kind : DecorationKind, Enumerant.code kind = n) ↔
      (Enumerant.ofCode? n : Option DecorationKind).isSome := by
  simp only [Option.isSome_iff_exists, Enumerant.ofCode?_eq_some_iff]

instance (number : Nat) (parameters : List Word) : Decidable (IsDecoration number parameters) :=
  decidable_of_iff _ (and_congr_left' exists_code_iff.symm)

/-- **The decorations that are written about a target**, in their order. Instructions may write
what is no decoration, which does not count. -/
def writtenOn (instructions : List Instruction) (target : DecorationTarget) :
    List (Nat × List Word) :=
  (instructions.filterMap Instruction.writing?).filterMap fun (about, number, parameters) =>
    if about = target ∧ IsDecoration number.toNat parameters then
      some (number.toNat, parameters)
    else none

/-- What is written gives the decoration that is written so, if it is one. -/
theorem written_decorationOf? (number : Word) (parameters : List Word) :
    (decorationOf? number parameters).map Decoration.written =
      if IsDecoration number.toNat parameters then some (number.toNat, parameters) else none := by
  cases hkind : (Enumerant.ofWord? number : Option DecorationKind) with
  | none =>
    have hnone : ¬∃ kind : DecorationKind, Enumerant.code kind = number.toNat := by
      rw [exists_code_iff, ← Enumerant.ofWord?, hkind]
      exact Bool.false_ne_true
    rw [decorationOf?, hkind, if_neg fun h => hnone h.1]
    rfl
  | some kind =>
    have hcode : Enumerant.code kind = number.toNat := Enumerant.ofCode?_eq_some_iff.mp hkind
    rw [decorationOf?, hkind, Option.bind_some, Decoration.ofParameters?]
    split
    · rename_i hlength
      rw [if_pos ⟨⟨kind, hcode⟩, hlength⟩, Option.map_some, Decoration.written, hcode]
    · rename_i hlength
      rw [if_neg fun h => hlength h.2]
      rfl

/-- **What is noted for a target is what is written about it.** -/
theorem written_decorationsGiven (instructions : List Instruction) (target : DecorationTarget) :
    (decorationsGiven instructions target).map Decoration.written =
      writtenOn instructions target := by
  rw [decorationsGiven, writtenOn, List.filterMap_filterMap, List.filterMap_filterMap,
    List.map_filterMap]
  refine List.filterMap_congr fun i _ => ?_
  rw [Instruction.decoration?]
  cases i.writing? with
  | none => rfl
  | some entry =>
    obtain ⟨about, number, parameters⟩ := entry
    have hwritten := written_decorationOf? number parameters
    dsimp only [Option.bind_some]
    by_cases habout : about = target
    · rw [Option.bind_map]
      simpa [Function.comp_def, habout] using hwritten
    · rw [Option.bind_map]
      simp [habout]

/-- A map over what was made with places is one map with places. -/
theorem map_mapIdx {α β γ : Type} (f : Nat → α → β) (g : β → γ) (as : List α) :
    (as.mapIdx f).map g = as.mapIdx fun k a => g (f k a) :=
  List.ext_getElem? fun k => by simp [Function.comp_def]

/-- A member that is added to one struct is not added to another. -/
theorem Workspace.members_of_addMember? {w w' : Workspace} {n struct : NodeId} {member : Member}
    (h : w.addMember? struct member = some (.ok w')) (hne : n ≠ struct) :
    w'.members n = w.members n := by
  obtain ⟨t, layout, hs, -, rfl⟩ := of_addMember? h
  have hshape := (shape?_reshape hs (.struct t (layout.push member)) n).trans (if_neg hne)
  have hlayout : (w.reshape struct (.struct t (layout.push member))).layout? n = w.layout? n := by
    refine Option.ext fun l => ?_
    rw [layout?_eq_some_iff, layout?_eq_some_iff, hshape]
  rw [members, hlayout, members]

namespace Declarations

open Workspace

variable {d d₁ d₂ d' : Declarations} {arena : TypeArena} {i : Instruction}
  {is before after instructions : List Instruction} {id : Id} {n : NodeId}

/-- **The members of a struct** that an instruction declares have the types that it lists, and
the decorations that the instructions before it give them. -/
def StructDecorated (d : Declarations) (before : List Instruction) (i : Instruction) : Prop :=
  ∃ id n types, i.operands[0]? = some id ∧ d.types.lookup id = some n ∧
    d.workspace.IsStruct n ∧
    List.Forall₂ (fun id type => d.types.lookup id = some type) (i.operandsFrom 1) types ∧
    (d.workspace.members n).map (fun member => (member.1.map Decoration.written, member.2)) =
      types.mapIdx fun index type => (writtenOn before (.member id index), type)

/-- **The member of an input or output** comes after those of the inputs and outputs before it.
It has the type that the variable is a place for, and the decorations that the instructions
before it give the variable. -/
def VariableDecorated (d : Declarations) (before : List Instruction) (i : Instruction) : Prop :=
  ∃ id type decorations, i.operands[1]? = some id ∧ d.variablePointee? i = some type ∧
    d.interfaceMembers[(before.filter Instruction.isInterfaceVariable).length]? =
      some (decorations, type) ∧
    decorations.map Decoration.written = writtenOn before (.object id)

/-! ### Structs keep their members -/

/-- A walk over some of the instructions keeps the order. -/
theorem Walks.ordered (h : Walks arena d is d') (hordered : d.Ordered instructions)
    (his : ∀ i ∈ is, i ∈ instructions) : d'.Ordered instructions := by
  induction h with
  | nil => exact hordered
  | cons hd hvisit _ _ _ ih =>
    have hi := his _ List.mem_cons_self
    exact ih (hordered.extends hd hi (extends_visit hvisit))
      fun i hi => his i (List.mem_cons_of_mem _ hi)

/-- The interface struct is not the node of a type, nor is a new one. -/
theorem Ordered.ne_openInterface (hordered : d.Ordered instructions) (hn : d.HasType n)
    (hthere : (d.workspace.node? n).isSome) (start : Nat) :
    n ≠ (d.openInterface start).1.node := by
  rw [Declarations.openInterface]
  split
  · rename_i f hf
    rintro rfl
    exact hordered.interface f.node (Option.map_eq_some_iff.mpr ⟨f, hf, rfl⟩) hn
  · rintro rfl
    exact Nat.lt_irrefl _ (lt_size_iff.mpr hthere)

/-- An instruction leaves the members alone of the structs that were declared before. -/
theorem Visits.members_eq (h : Visits d i d') (hordered : d.Ordered instructions)
    (hn : d.HasType n) (hstruct : d.workspace.IsStruct n) :
    d'.workspace.members n = d.workspace.members n := by
  have hbecomes := h.becomes
  cases h with
  | interfaceVariable id hmember hplace hw =>
    have hthere : (d.workspace.node? n).isSome := by
      obtain ⟨t, layout, hs⟩ := hstruct
      obtain ⟨node, hnode, -⟩ := Option.map_eq_some_iff.mp hs
      exact Option.isSome_of_eq_some hnode
    have hother := members_of_addMember? hw (hordered.ne_openInterface hn hthere i.start)
    exact hother.trans ((d.openInterface_becomes i.start).members_eq hstruct)
  | _ => exact (hbecomes rfl).members_eq hstruct

/-- **A walk leaves the members alone** of the structs that were declared before it. -/
theorem Walks.members_eq (h : Walks arena d is d') (hordered : d.Ordered instructions)
    (his : ∀ i ∈ is, i ∈ instructions) (hn : d.types.lookup id = some n)
    (hstruct : d.workspace.IsStruct n) : d'.workspace.members n = d.workspace.members n := by
  induction h with
  | nil => rfl
  | cons hd hvisit hvisits _ _ ih =>
    have hordered₁ := hordered.extends hd (his _ List.mem_cons_self) (extends_visit hvisit)
    rw [ih hordered₁ (fun i hi => his i (List.mem_cons_of_mem _ hi))
        (hvisits.persists.types _ _ hn) (hvisits.persists.graph.isStruct hstruct),
      hvisits.members_eq hordered (hasType_of_lookup hn) hstruct]

/-- Putting a unit together leaves the members of all structs alone. -/
theorem members_of_emit {name : String} {m : LoweredModule} (h : d.emit name = .ok m)
    (hstruct : d.workspace.IsStruct n) : m.workspace.members n = d.workspace.members n := by
  obtain ⟨w, hw, heq⟩ := asking_of_emit h
  rw [heq, members, layout?_detachAll]
  exact (hw.imp fun _ => Action.Asking.plain).members_eq hstruct

/-! ### Structs and variables are decorated -/

theorem ComesBy.structDecorated
    (h : ComesBy arena { workspace := { arena } } before i after d d₁ d₂)
    (hi : i.op? = some .typeStruct) : d.StructDecorated before i := by
  obtain ⟨is₁, -, hwalks₁⟩ := h.earlier
  obtain ⟨is₂, -, hwalks₂⟩ := h.later
  -- the nodes of all instructions that are walked over are in order
  have hordered₁ : d₁.Ordered (is₁ ++ i :: is₂) :=
    hwalks₁.ordered (ordered_empty arena _) fun j hj => List.mem_append_left _ hj
  have hordered₂ : d₂.Ordered (is₁ ++ i :: is₂) :=
    hordered₁.extends hwalks₁.sound (List.mem_append_right _ List.mem_cons_self)
      (extends_visit h.visit)
  have hlater : ∀ j ∈ is₂, j ∈ is₁ ++ i :: is₂ := fun j hj =>
    List.mem_append_right _ (List.mem_cons_of_mem _ hj)
  obtain ⟨id, n, types, hid, hn, hstruct, htypes, hmembers⟩ :=
    of_visit_typeStruct h.closed hi h.visit
  refine ⟨id, n, types, hid, hwalks₂.persists.types id n hn,
    hwalks₂.persists.graph.isStruct hstruct, htypes.imp h.persists.types, ?_⟩
  rw [hwalks₂.members_eq hordered₂ hlater hn hstruct, hmembers, map_mapIdx]
  simp only [h.decorationsOf_eq, written_decorationsGiven]

theorem ComesBy.variableDecorated
    (h : ComesBy arena { workspace := { arena } } before i after d d₁ d₂)
    (hi : i.isInterfaceVariable = true) : d.VariableDecorated before i := by
  obtain ⟨is₁, rfl, hwalks₁⟩ := h.earlier
  obtain ⟨is₂, -, hwalks₂⟩ := h.later
  obtain ⟨id, type, hid, htype, -, hmember⟩ :=
    (reads h.visit).exists_interfaceVariable h.closed hi
  obtain ⟨earlier, hearlier, hvariables⟩ := hwalks₁.interfaceMembers_append
  obtain ⟨later, hlater, -⟩ := hwalks₂.interfaceMembers_append
  refine ⟨id, type, _, hid, h.persists.variablePointee? htype, ?_,
    written_decorationsGiven _ (.object id)⟩
  rw [hlater, hmember, hearlier, h.decorationsOf_eq, hvariables.length_eq]
  simp [interfaceMembers]

/-- **Decorations reach the members that they were put on**, and no others. If a walk over
instructions succeeds, then every struct that it declares, and every input and output, has the
decorations in the end that were given it outside of functions before it was declared, in their
order; nothing is done to them when a unit is put together. The members of the interface struct
are those of the inputs and outputs. -/
theorem ofInstructions_decorated (h : ofInstructions arena is = .ok d) :
    (∀ before i after, moduleScope is = before ++ i :: after →
      (i.op? = some .typeStruct → d.StructDecorated before i) ∧
      (i.isInterfaceVariable = true → d.VariableDecorated before i)) ∧
    d.interfaceMembers.length =
      ((moduleScope is).filter Instruction.isInterfaceVariable).length ∧
    ∀ name m, d.emit name = .ok m → ∀ n, d.workspace.IsStruct n →
      m.workspace.members n = d.workspace.members n := by
  have hwalks := walks_ofInstructions h
  refine ⟨fun before i after hsplit => ?_, ?_, fun name m hemit n hn => members_of_emit hemit hn⟩
  · obtain ⟨d₁, d₂, hby⟩ := hwalks.exists_comesBy hsplit
    exact ⟨hby.structDecorated, hby.variableDecorated⟩
  · obtain ⟨members, heq, hmembers⟩ := hwalks.interfaceMembers_append
    rw [heq]
    exact hmembers.length_eq.symm

/-- A struct whose first member has a decoration with one parameter and one with four, and an
input with a decoration with two and one with none. What the instructions write besides does not
count: a decoration of a member that the struct does not have, numbers that are not those of a
kind, five parameters, and what comes too late. -/
theorem ofInstructions_decorated_input :
    let before : List Instruction := [⟨72, [2, 0, 35, 4], 5, 10⟩, ⟨72, [2, 7, 35, 8], 10, 15⟩,
      ⟨72, [2, 0, 9999], 15, 19⟩, ⟨72, [2, 0, 41, 7, 8, 9, 10], 19, 27⟩,
      ⟨72, [2, 0, 41, 7, 8, 9, 10, 11], 27, 36⟩, ⟨71, [6, 41, 3, 5], 36, 41⟩,
      ⟨71, [6, 30, 1, 2, 3, 4, 5], 41, 49⟩, ⟨71, [6, 12, 1], 49, 53⟩, ⟨22, [1, 32], 53, 56⟩]
    let struct : Instruction := ⟨30, [2, 1], 56, 59⟩
    let between : List Instruction := [⟨72, [2, 0, 23], 59, 63⟩, ⟨71, [6, 14], 63, 66⟩,
      ⟨32, [3, 1, 2], 66, 70⟩]
    let input : Instruction := ⟨59, [3, 6, 1], 70, 74⟩
    ∃ d, ofInstructions {} (before ++ struct :: between ++ [input]) = .ok d ∧
      d.StructDecorated before struct ∧
      d.VariableDecorated (before ++ struct :: between) input ∧
      writtenOn before (.member 2 0) = [(35, [4]), (41, [7, 8, 9, 10])] ∧
      writtenOn (before ++ struct :: between) (.object 6) = [(41, [3, 5]), (14, [])] := by
  intro before struct between input
  have hd : (ofInstructions {} (before ++ struct :: between ++ [input])).toOption.map
      (fun d => d.interface.isSome) = some true := by
    decide +kernel
  obtain ⟨d, h, -⟩ := of_toOption_map_eq_some hd
  have hscope : moduleScope (before ++ struct :: between ++ [input]) =
      before ++ struct :: (between ++ [input]) := by
    decide
  have hsplit := (ofInstructions_decorated h).1
  refine ⟨d, h, (hsplit before struct _ hscope).1 (by decide),
    (hsplit (before ++ struct :: between) input [] ?_).2 (by decide), by decide +kernel,
    by decide +kernel⟩
  decide

end Declarations

end ShaderLowering
