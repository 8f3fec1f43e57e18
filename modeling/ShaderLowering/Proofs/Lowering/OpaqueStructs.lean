import ShaderLowering.Proofs.Lowering.Internal

/-!
# Structs that are only pointed to

A struct gets its body when its complete type is asked for, or that of something that contains
it by value. A lowering asks for complete types in three places only: vectors and matrices are
made as soon as they are declared, which asks for their components; and when the unit is put
together, what variables are places for and the types of functions are asked for. The interface
struct is asked for too, but its members are what the inputs and outputs are places for.

So a struct that is contained in none of these keeps the opaque type that it was declared with,
however many pointers to it there are (`ShaderLowering.lower_unused_struct_opaque`).
-/

namespace ShaderLowering

namespace Workspace

variable {w w' : Workspace} {allowed : Action → Prop} {n m s : NodeId} {t : Ty}

/-- What comes to be complete is contained in a node whose complete type may be asked for. -/
theorem Becomes.isComplete (h : w.Becomes allowed w') (hc : w'.IsComplete s) :
    w.IsComplete s ∨ ∃ n, allowed (.produce n true) ∧ w'.Contains n s := by
  obtain ⟨actions, rfl, hallowed⟩ := h
  exact (isComplete_run actions hc).imp_right fun ⟨n, hn, hs⟩ => ⟨n, hallowed _ hn, hs⟩

/-- Nobody has given a body to the type of a struct that is not complete. -/
theorem Untouched.isOpaque (h : w.Untouched s) (ht : w.structType? s = some t)
    (hc : ¬w.IsComplete s) : w.arena.isOpaque t = true := by
  obtain ⟨layout, hs⟩ := structType?_eq_some_iff.mp ht
  have hincomplete : layout.complete = false :=
    Bool.eq_false_iff.mpr (mt (isComplete_iff_of_shape? hs).mpr hc)
  obtain ⟨name, packed, hdata⟩ := h t layout hs hincomplete
  rw [TypeArena.isOpaque, TypeArena.struct?, hdata]
  rfl

/-- A pointer contains nothing but itself. -/
theorem Contains.eq_of_isPointer (h : w.Contains n s) (hn : w.IsPointer n) : s = n := by
  rcases Relation.ReflTransGen.cases_head h with rfl | ⟨m, hm, -⟩
  · rfl
  · exact absurd hn hm.2

/-- What a struct holds are the types of its members. -/
theorem mem_memberTypes_of_holds (hs : w.IsStruct n) (hm : w.Holds n m) :
    m ∈ w.memberTypes n := by
  obtain ⟨t, layout, hs⟩ := hs
  rw [memberTypes_eq hs]
  exact (refers_iff_of_shape? hs).mp hm.1

end Workspace

namespace Declarations

open Workspace

variable {d d₁ d' : Declarations} {arena : TypeArena} {i : Instruction}
  {is : List Instruction} {n s root : NodeId} {t : Ty} {name : String} {m : LoweredModule}

/-! ### Structs that are completed while instructions are read -/

/-- Inside of a function no type is declared. -/
theorem Reads.workspace_eq (h : Reads d i d') {f : ShaderFunction}
    (hopen : d.openFunction = some f) : d'.workspace = d.workspace := by
  cases h with
  | parameter | ended | passed => rfl
  | named hnone | entryPoint hnone | moded hnone | interfaceVariable hnone
  | globalVariable hnone | begun hnone | other hnone => exact nomatch hopen.symm.trans hnone

theorem Persists.componentType? (h : d.Persists d') (hi : d.componentType? i = some n) :
    d'.componentType? i = some n := by
  rw [Declarations.componentType?] at hi ⊢
  split at hi
  · rename_i hop
    obtain ⟨id, hid, hn⟩ := Option.bind_eq_some_iff.mp hi
    rw [if_pos hop]
    exact Option.bind_eq_some_iff.mpr ⟨id, hid, h.types id n hn⟩
  · exact absurd hi (by simp)

/-- **What a walk completes** is contained in the component of a vector or of a matrix that is
declared outside of functions. -/
theorem Walks.isComplete (h : Walks arena d is d') (hc : d'.workspace.IsComplete s) :
    d.workspace.IsComplete s ∨ ∃ i ∈ outside d.openFunction.isSome is, ∃ component,
      d'.componentType? i = some component ∧ d'.workspace.Contains component s := by
  induction h with
  | nil => exact Or.inl hc
  | @cons d d₁ d' i is hd hvisit hvisits hreads hrest ih =>
    cases hopen : d.openFunction with
    | none =>
      rw [Option.isSome_none, outside, ← hreads.isSome_of_none hopen]
      rcases ih hc with hc₁ | ⟨j, hj, hcomponent⟩
      · rcases (extends_visit hvisit).isComplete hc₁ with hc₀ | ⟨component, hi, hs⟩
        · exact Or.inl hc₀
        · have hpersists := hvisits.persists.trans hrest.persists
          exact Or.inr ⟨i, List.mem_cons_self, component, hpersists.componentType? hi,
            hpersists.graph.contains hs⟩
      · exact Or.inr ⟨j, List.mem_cons_of_mem _ hj, hcomponent⟩
    | some f =>
      rw [Option.isSome_some, outside, ← hreads.isSome_of_some hopen]
      rw [hreads.workspace_eq hopen] at ih
      exact ih hc

/-! ### What is used by value -/

/-- **The instructions use the type of the node by value**: for what a variable is a place for,
as the type of a function, or as the component of a vector or of a matrix. -/
inductive UsesByValue (d : Declarations) (instructions : List Instruction) : NodeId → Prop
  /-- It is what a variable outside of functions is a place for. -/
  | pointee {i : Instruction} {n : NodeId} (hi : i ∈ moduleScope instructions)
      (hop : i.op? = some .variableOp) (hn : d.variablePointee? i = some n) :
    UsesByValue d instructions n
  /-- It is the type of a function. -/
  | function {entry : Instruction × List Instruction} {n : NodeId}
      (hentry : entry ∈ functionsOf instructions)
      (hn : (entry.1.operands[3]?.bind fun id => d.types.lookup id) = some n) :
    UsesByValue d instructions n
  /-- It is the component of a vector, or the column of a matrix. -/
  | component {i : Instruction} {n : NodeId} (hi : i ∈ moduleScope instructions)
      (hn : d.componentType? i = some n) : UsesByValue d instructions n

/-- What is asked for when a unit is put together is used by value, or is the interface struct,
whose members are. -/
theorem usesByValue_of_wants (hd : ofInstructions arena is = .ok d)
    (hopen : d.openFunction = none) (hroot : d.Wants d.workspace root)
    (hs : d.workspace.Contains root s) (htype : d.HasType s) :
    ∃ n, d.UsesByValue is n ∧ d.workspace.Contains n s := by
  have hwalks := walks_ofInstructions hd
  cases hroot with
  | interface hf =>
    -- the interface struct is the type of no instruction, so that it is one of its members
    rcases Relation.ReflTransGen.cases_head hs with rfl | ⟨m, hm, hms⟩
    · have hnode : d.interfaceNode? = some _ := Option.map_eq_some_iff.mpr ⟨_, hf, rfl⟩
      exact absurd htype ((ordered_ofInstructions hd).interface _ hnode)
    · obtain ⟨t, layout, hstruct, -⟩ := (sound_ofInstructions hd).interface _ hf
      have hmember := mem_memberTypes_of_holds ⟨t, layout, hstruct⟩ hm
      rw [← interfaceTypes_eq hf] at hmember
      obtain ⟨i, hi, hn⟩ := exists_of_forall₂_right hwalks.interfaceTypes hmember
      obtain ⟨hscope, hinterface⟩ := List.mem_filter.mp hi
      exact ⟨m, .pointee hscope (Instruction.op?_of_isInterfaceVariable hinterface) hn, hms⟩
  | global hg hn =>
    obtain ⟨i, hi, hglobal⟩ := exists_of_forall₂_right hwalks.globals hg
    obtain ⟨hscope, hvariable⟩ := List.mem_filter.mp hi
    have hpointee : d.variablePointee? i = some root := by
      rw [Declarations.variablePointee?, hglobal.type]
      exact hn
    exact ⟨root, .pointee hscope (Instruction.op?_of_isGlobalVariable hvariable) hpointee, hs⟩
  | function hf =>
    obtain ⟨entry, hentry, hfunction⟩ := exists_of_forall₂_right (hwalks.functions hopen) hf
    exact ⟨_, .function hentry hfunction.type, hs⟩

/-- **What is complete in the end is used by value.** -/
theorem usesByValue_of_isComplete (hd : ofInstructions arena is = .ok d)
    (hopen : d.openFunction = none) {w : Workspace} (hw : d.workspace.Becomes d.Asking w)
    (htype : d.HasType s) (hc : w.IsComplete s) :
    ∃ n, d.UsesByValue is n ∧ d.workspace.Contains n s := by
  rcases hw.isComplete hc with hc | ⟨root, hroot, hs⟩
  · rcases (walks_ofInstructions hd).isComplete hc with
      ⟨layout, hlayout, -⟩ | ⟨i, hi, component, hcomponent, hs⟩
    · simp [layout?, node?] at hlayout
    · exact ⟨component, .component hi hcomponent, hs⟩
  · rw [contains_congr (becomes_asking hw).skeleton_eq] at hs
    exact usesByValue_of_wants hd hopen hroot hs htype

/-! ### Structs that are left opaque -/

/-- Structs have in the end the types that they were declared with. -/
theorem structType?_of_emit (h : d.emit name = .ok m) :
    m.workspace.structType? = d.workspace.structType? := by
  obtain ⟨w, hw, heq⟩ := becomes_of_emit h
  rw [heq, structType?_detachAll, structType?_of_skeleton_eq (becomes_asking hw).skeleton_eq]

/-- **A struct that is contained in nothing that is used by value** has an opaque type in the
end. -/
theorem isOpaque_of_emit (hu : arena.Uniqued) (hd : ofInstructions arena is = .ok d)
    (h : d.emit name = .ok m) (htype : d.HasType s) (ht : d.workspace.structType? s = some t)
    (hunused : ∀ n, d.UsesByValue is n → ¬d.workspace.Contains n s) :
    m.workspace.arena.isOpaque t = true := by
  obtain ⟨w, hw, heq⟩ := becomes_of_emit h
  have hhistory := (sound_ofInstructions hd).history_of_asking (becomes_asking hw)
  have ht' : w.structType? s = some t := by
    rw [structType?_of_skeleton_eq (becomes_asking hw).skeleton_eq]
    exact ht
  rw [heq]
  refine (hhistory.untouched hu s).isOpaque ht' fun hc => ?_
  obtain ⟨n, huses, hcontains⟩ :=
    usesByValue_of_isComplete hd (openFunction_of_emit h) hw htype hc
  exact hunused n huses hcontains

end Declarations

open Workspace Declarations

/-- **Only what is used by value is completed.** Whoever asks for a type that need not be
complete completes no struct and gives no type a body, and whoever asks for a complete one
completes only structs that the node contains by value, and gives no other type a body; all of
this whether or not there is an answer. So if a shader is lowered, each of its structs that is
contained in nothing that is used by value has an opaque type in the end. -/
theorem lower_unused_struct_opaque :
    (∀ (w : Workspace) n,
      (∀ s, (w.produce n false).2.IsComplete s ↔ w.IsComplete s) ∧
      ∀ t, (w.produce n false).2.arena.body? t = w.arena.body? t) ∧
    (∀ (w : Workspace) n,
      (∀ s, (w.produce n true).2.IsComplete s → ¬w.IsComplete s →
        w.IsStruct s ∧ w.Contains n s) ∧
      ∀ t, (w.produce n true).2.arena.body? t ≠ w.arena.body? t →
        ∃ s, w.structType? s = some t ∧ w.Contains n s) ∧
    ∀ (arena : TypeArena) (shader : ShaderModule) (name : String) (m : LoweredModule),
      arena.Uniqued → lower arena shader name = .ok m →
        ∃ d, ofInstructions arena shader.instructions = .ok d ∧
          ∀ i ∈ moduleScope shader.instructions, i.op? = some .typeStruct →
            ∃ id n t, i.operands[0]? = some id ∧ d.types.lookup id = some n ∧
              m.workspace.structType? n = some t ∧
              ((∀ root, d.UsesByValue shader.instructions root →
                ¬d.workspace.Contains root n) → m.workspace.arena.isOpaque t = true) := by
  refine ⟨fun w n => ⟨w.isComplete_produce_false n, w.body?_produce_false n⟩,
    fun w n => ⟨fun s => of_isComplete_produce, fun t => of_body?_produce_ne⟩,
    fun arena shader name m hu h => ?_⟩
  obtain ⟨d, hd, hemit⟩ := of_bind_eq_ok h
  refine ⟨d, hd, fun i hi hop => ?_⟩
  obtain ⟨id, n, t, hid, hn, ht⟩ := (walks_ofInstructions hd).structType hi hop
  exact ⟨id, n, t, hid, hn, (congrFun (structType?_of_emit hemit) n).trans ht,
    isOpaque_of_emit hu hd hemit (hasType_of_lookup hn) ht⟩

/-- A variable that is a place for a pointer to a struct. -/
theorem lower_unused_struct_opaque_pointer :
    let instructions : List Instruction :=
      [⟨21, [1, 32, 1], 5, 9⟩, ⟨30, [2, 1], 9, 12⟩, ⟨32, [3, 6, 2], 12, 16⟩,
        ⟨32, [5, 6, 3], 16, 20⟩, ⟨59, [5, 4, 6], 20, 24⟩]
    ∃ m t, lower {} ⟨⟨1, 0, 0, 6⟩, instructions⟩ "unit" = .ok m ∧
      m.workspace.structType? ⟨1⟩ = some t ∧ m.workspace.arena.isOpaque t = true := by
  intro instructions
  have hlower : (lower {} ⟨⟨1, 0, 0, 6⟩, instructions⟩ "unit").toOption.map
      (fun m => m.workspace.graph.nodes.size) = some 4 := by
    decide +kernel
  obtain ⟨m, h, -⟩ := of_toOption_map_eq_some hlower
  obtain ⟨d, hd, hstructs⟩ :=
    lower_unused_struct_opaque.2.2 {} ⟨⟨1, 0, 0, 6⟩, instructions⟩ "unit" m
      TypeArena.uniqued_empty h
  have hread : (ofInstructions {} instructions).toOption.map (fun d =>
      (d.types.lookup 2, d.workspace.shape? ⟨2⟩, instructions.filterMap d.componentType?,
        (instructions.filter fun i => i.op? == some .variableOp).map d.variablePointee?)) =
      some (some ⟨1⟩, some (.formed (.pointer (some ⟨1⟩) .privateStorage) none), [],
        [some ⟨2⟩]) := by
    decide +kernel
  rw [hd] at hread
  simp only [Except.toOption, Option.map_some, Option.some.injEq, Prod.mk.injEq] at hread
  obtain ⟨hstruct, hpointer, hcomponents, hpointees⟩ := hread
  obtain ⟨id, n, t, hid, hn, ht, hopaque⟩ :=
    hstructs ⟨30, [2, 1], 9, 12⟩ (by decide +kernel) (by decide +kernel)
  obtain rfl : 2 = id := Option.some.inj hid
  obtain rfl : ⟨1⟩ = n := Option.some.inj (hstruct.symm.trans hn)
  refine ⟨m, t, h, ht, hopaque fun root huses hcontains => ?_⟩
  cases huses with
  | @pointee i _ hi hop hpointee =>
    have hmem : d.variablePointee? i ∈ [some (⟨2⟩ : NodeId)] :=
      hpointees ▸ List.mem_map_of_mem (List.mem_filter.mpr ⟨hi, beq_iff_eq.mpr hop⟩)
    obtain rfl : root = ⟨2⟩ :=
      Option.some.inj (hpointee.symm.trans (List.mem_singleton.mp hmem))
    exact absurd (hcontains.eq_of_isPointer ⟨_, _, _, hpointer⟩) (by decide)
  | function hentry => exact nomatch hentry
  | @component i _ hi hcomponent =>
    have hmem : root ∈ instructions.filterMap d.componentType? :=
      List.mem_filterMap.mpr ⟨i, hi, hcomponent⟩
    rw [hcomponents] at hmem
    exact nomatch hmem

end ShaderLowering
