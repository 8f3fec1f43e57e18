import ShaderLowering.Proofs.Lowering.Outline
import ShaderLowering.Proofs.TypeGraph.Recursion

/-!
# Types refer to earlier types

An instruction that declares a type refers to types by their ids, and an id that has not
been declared is none of a type. So a node refers to nodes that were there before it, with
two exceptions. A pointer may have been declared without its pointee, which comes later;
and the interface struct gets a member for each input and output, whose types may be later
than the struct. But the interface struct has no id, so that nothing refers to it.

This is what rules out all cycles that contain no pointer
(`ShaderLowering.Declarations.Ordered.exists_isPointer`): without pointers, references go
down, and the interface struct is at the top. `ShaderLowering.Declarations.Visits` does not
say which nodes a node that is added refers to, nor where it was declared, so what an
instruction does to the graph is said once more, by `ShaderLowering.Declarations.Extends`.
-/

namespace ShaderLowering

/-- The instructions that declare types formed in this way. -/
def Former.opcodes : Former → List Opcode
  | .pointer _ _ => [.typeForwardPointer, .typePointer]
  | .function _ _ _ => [.typeFunction]
  | .array _ _ => [.typeArray, .typeRuntimeArray]

/-- The instructions that declare types of this data which are made as soon as they are read. -/
def TypeData.opcodes : TypeData → List Opcode
  | .void => [.typeVoid]
  | .int _ => [.typeBool, .typeInt]
  | .float _ => [.typeFloat]
  | .vector _ _ => [.typeVector]
  | .array _ _ => [.typeMatrix]
  | .pointer _ _ | .function _ _ _ | .struct _ => []

namespace Declarations

open Workspace

variable {d d' : Declarations} {arena : TypeArena} {i : Instruction} {id : Id} {n m : NodeId}
  {instructions : List Instruction}

/-! ### What an instruction adds to the graph -/

/-- The node is that of a type that has been declared. -/
def HasType (d : Declarations) (n : NodeId) : Prop :=
  ∃ id, (id, n) ∈ d.types

/-- The instruction declares the node: the node points to it, refers to types that have
been declared, and if it is formed then in the way that the instruction says. -/
structure Declares (d : Declarations) (i : Instruction) (id : Id) (node : Node) : Prop where
  id : i.operands[0]? = some id
  start : node.start = i.start
  refs : ∀ m ∈ node.refs, d.HasType m
  opcode : ∀ former made, node.shape = .formed former made →
    ∃ op ∈ former.opcodes, i.op? = some op

/-- The node of the component of a vector, or of the column of a matrix, whose type an
instruction declares. -/
def componentType? (d : Declarations) (i : Instruction) : Option NodeId :=
  if i.op? = some .typeVector ∨ i.op? = some .typeMatrix then
    i.operands[1]?.bind fun id => d.types.lookup id
  else none

/-- What a node declares that is added for the type of an instruction, and the workspace to
which it is added: types of the target have perhaps been made for it. -/
inductive Makes (d : Declarations) (i : Instruction) : Shape → Workspace → Prop
  /-- A type that is formed from others, for which nothing is made yet. -/
  | formed (former : Former) : Makes d i (.formed former none) d.workspace
  /-- A type that is not made of others. -/
  | simple {data : TypeData} (hdata : data.IsStructural) (hparts : data.parts = [])
      (hop : ∃ op ∈ data.opcodes, i.op? = some op) :
    Makes d i (.simple (d.workspace.arena.intern data).1)
      { d.workspace with arena := (d.workspace.arena.intern data).2 }
  /-- A type that is made of another one, which has been produced. -/
  | composite {component : NodeId} {t : Ty} {w : Workspace} {data : TypeData}
      (hcomponent : d.componentType? i = some component)
      (h : Produced ⟨component, true⟩ d.workspace (.ok t) w)
      (hdata : data.IsStructural) (hparts : data.parts = [t])
      (hop : ∃ op ∈ data.opcodes, i.op? = some op) :
    Makes d i (.simple (w.arena.intern data).1) { w with arena := (w.arena.intern data).2 }
  /-- A struct and its type. -/
  | struct (name : String) (members : List Member) (hop : i.op? = some .typeStruct) :
    Makes d i (.struct (d.workspace.arena.struct name).1 (.ofMembers members))
      { d.workspace with arena := (d.workspace.arena.struct name).2 }

theorem Makes.skeleton_eq {shape : Shape} {w : Workspace} (h : d.Makes i shape w) :
    w.skeleton = d.workspace.skeleton := by
  cases h with
  | formed | simple | struct => rfl
  | composite _ h => exact h.skeleton_eq

/-- **What an instruction does to the graph of types.** -/
inductive Extends (d : Declarations) (i : Instruction) : Declarations → Prop
  /-- It adds nothing. -/
  | nothing {d' : Declarations} (hw : d'.workspace = d.workspace) (htypes : d'.types = d.types)
      (hinterface : d'.interface = d.interface) : Extends d i d'
  /-- It declares a type. -/
  | type {d' : Declarations} {id : Id} {node : Node} {w : Workspace}
      (hmade : d.Makes i node.shape w) (hadd : d'.workspace = (w.add node).2)
      (htypes : d'.types = (id, (w.add node).1) :: d.types)
      (hinterface : d'.interface = d.interface) (hnode : d.Declares i id node) : Extends d i d'
  /-- It gives a pointer its pointee. -/
  | pointee {d' : Declarations} {n m : NodeId} {storage : StorageClass} {made : Option Ty}
      (hs : d.workspace.shape? n = some (.formed (.pointer none storage) made))
      (hm : d.HasType m)
      (hw : d'.workspace = d.workspace.reshape n (.formed (.pointer (some m) storage) made))
      (htypes : d'.types = d.types) (hinterface : d'.interface = d.interface) : Extends d i d'
  /-- It adds a variable, whose type something points to, to the interface. -/
  | interfaceVariable {d' : Declarations} {member : Member} {members : List InterfaceVariable}
      (hmember : ∃ n, d.workspace.Refers n member.type)
      (hw : (d.openInterface i.start).2.addMember? (d.openInterface i.start).1.node member =
        some (.ok d'.workspace)) (htypes : d'.types = d.types)
      (hinterface : d'.interface = some ⟨(d.openInterface i.start).1.node, members⟩) :
    Extends d i d'

theorem hasType_of_lookup (h : d.types.lookup id = some n) : d.HasType n := by
  obtain ⟨before, after, heq, -⟩ := List.lookup_eq_some_iff.mp h
  exact ⟨id, heq ▸ List.mem_append_right _ List.mem_cons_self⟩

theorem hasType_of_typeNode (h : d.typeNode i id = .ok n) : d.HasType n :=
  hasType_of_lookup (lookup_of_typeNode h)

theorem hasType_of_componentType? (h : d.componentType? i = some n) : d.HasType n := by
  rw [componentType?] at h
  split at h
  · obtain ⟨id, -, hn⟩ := Option.bind_eq_some_iff.mp h
    exact hasType_of_lookup hn
  · exact nomatch h

theorem hasType_of_typeNodes {ids : List Id} {ns : List NodeId}
    (h : ids.mapM (d.typeNode i) = .ok ns) : ∀ n ∈ ns, d.HasType n := by
  intro n hn
  obtain ⟨id, -, hid⟩ := mem_of_mapM_eq_ok h hn
  exact hasType_of_typeNode hid

theorem Extends.of_define {w : Workspace} (node : Node) (hmade : d.Makes i node.shape w)
    (hnode : d.Declares i id node)
    (h : ({ d with workspace := w } : Declarations).define i id (w.add node) = .ok d') :
    Extends d i d' := by
  obtain ⟨-, rfl⟩ := Declarations.of_define h
  exact .type hmade rfl rfl rfl hnode

/-- A type that refers to no other is declared. -/
theorem Extends.of_defineSimple {w : Workspace} {made : Ty × TypeArena}
    (hmade : d.Makes i (.simple made.1) { w with arena := made.2 })
    (hid : i.operands[0]? = some id)
    (h : ({ d with workspace := w } : Declarations).defineSimple i id made = .ok d') :
    Extends d i d' := by
  have hnode : d.Declares i id (.simple made.1 i.start) :=
    ⟨hid, rfl, List.forall_mem_nil _, nofun⟩
  exact .of_define (w := { w with arena := made.2 }) _ hmade hnode h

/-- A type that is formed from others is declared by one of its instructions. -/
theorem Extends.of_defineFormed {former : Former} {op : Opcode}
    (h : d.defineFormed i id former = .ok d') (hi : i.op? = some op)
    (hop : op ∈ former.opcodes) (hid : i.operands[0]? = some id)
    (hrefs : ∀ m ∈ former.refs, d.HasType m) : Extends d i d' := by
  refine .of_define (.formed former i.start) (.formed former) ⟨hid, rfl, hrefs, ?_⟩ h
  rintro former' made heq
  obtain ⟨rfl, -⟩ := Shape.formed.inj heq
  exact ⟨op, hop, hi⟩

theorem Extends.of_declareScalar {make : Nat → Except TypeFault (Ty × TypeArena)}
    (hmake : ∀ bits made, make bits = .ok made → ∃ data : TypeData, data.IsStructural ∧
      data.parts = [] ∧ (∃ op ∈ data.opcodes, i.op? = some op) ∧
      made = d.workspace.arena.intern data)
    (hid : i.operands[0]? = some id) (h : d.declareScalar i id make = .ok d') :
    Extends d i d' := by
  obtain ⟨width, -, h⟩ := of_bind_eq_ok h
  obtain ⟨made, hmade, h⟩ := of_bind_eq_ok h
  obtain ⟨d₁, hd₁, h⟩ := of_bind_eq_ok h
  obtain ⟨-, rfl⟩ := Declarations.of_define hd₁
  obtain ⟨data, hdata, hparts, hop, rfl⟩ := hmake _ _ (of_madeFor hmade)
  rw [← Except.ok.inj h]
  refine .type (w := { d.workspace with arena := (d.workspace.arena.intern data).2 })
    (.simple hdata hparts hop) rfl rfl rfl ?_
  exact ⟨hid, rfl, List.forall_mem_nil _, nofun⟩

theorem Extends.of_declareVector
    {make : TypeArena → Ty → Nat → Except TypeFault (Ty × TypeArena)}
    (hi : i.op? = some .typeVector ∨ i.op? = some .typeMatrix)
    (hmake : ∀ (arena : TypeArena) t count made, make arena t count = .ok made →
      ∃ data : TypeData, data.IsStructural ∧ data.parts = [t] ∧
        (∃ op ∈ data.opcodes, i.op? = some op) ∧ made = arena.intern data)
    (hid : i.operands[0]? = some id) (h : d.declareVector i id make = .ok d') :
    Extends d i d' := by
  obtain ⟨componentId, hcomponentId, h⟩ := of_bind_eq_ok h
  obtain ⟨component, hcomponent, h⟩ := of_bind_eq_ok h
  obtain ⟨count, -, h⟩ := of_bind_eq_ok h
  have htype : d.componentType? i = some component := by
    rw [componentType?, if_pos hi, Instruction.of_operand hcomponentId]
    exact lookup_of_typeNode hcomponent
  have hproduced := d.workspace.produced component true
  generalize d.workspace.produce component true = produced at h hproduced
  obtain ⟨type, hok, h⟩ := of_bind_eq_ok h
  obtain ⟨made, hmade, h⟩ := of_bind_eq_ok h
  obtain ⟨data, hdata, hparts, hop, rfl⟩ := hmake _ _ _ _ (of_madeFor hmade)
  rw [hok] at hproduced
  exact .of_defineSimple (.composite htype hproduced hdata hparts hop) hid h

theorem Extends.of_declareArray (hi : i.op? = some .typeArray) (hid : i.operands[0]? = some id)
    (h : d.declareArray i id = .ok d') : Extends d i d' := by
  obtain ⟨elementId, -, h⟩ := of_bind_eq_ok h
  obtain ⟨element, helement, h⟩ := of_bind_eq_ok h
  obtain ⟨length, -, h⟩ := of_bind_eq_ok h
  split at h
  · exact .of_defineFormed h hi (by simp [Former.opcodes]) hid
      (List.forall_mem_singleton.mpr (hasType_of_typeNode helement))
  · exact nomatch h

theorem Extends.of_declareRuntimeArray (hi : i.op? = some .typeRuntimeArray)
    (hid : i.operands[0]? = some id) (h : d.declareRuntimeArray i id = .ok d') :
    Extends d i d' := by
  obtain ⟨elementId, -, h⟩ := of_bind_eq_ok h
  obtain ⟨element, helement, h⟩ := of_bind_eq_ok h
  exact .of_defineFormed h hi (by simp [Former.opcodes]) hid
    (List.forall_mem_singleton.mpr (hasType_of_typeNode helement))

theorem Extends.of_declareStruct (hi : i.op? = some .typeStruct)
    (hid : i.operands[0]? = some id) (h : d.declareStruct i id = .ok d') : Extends d i d' := by
  obtain ⟨types, htypes, h⟩ := of_bind_eq_ok h
  obtain ⟨-, rfl⟩ := Declarations.of_define h
  refine .type (w := { d.workspace with
    arena := (d.workspace.arena.struct (d.nameOf id s!"struct_{id}")).2 })
    (.struct _ _ hi)
    rfl rfl rfl ?_
  refine ⟨hid, rfl, fun m hm => ?_, nofun⟩
  change m ∈ (Layout.ofMembers _).members.map Member.type at hm
  rw [Layout.members_ofMembers] at hm
  obtain ⟨member, hmember, rfl⟩ := List.mem_map.mp hm
  obtain ⟨index, hindex, rfl⟩ := List.mem_mapIdx.mp hmember
  exact hasType_of_typeNodes htypes _ (List.getElem_mem hindex)

theorem Extends.of_declareForwardPointer (hi : i.op? = some .typeForwardPointer)
    (hid : i.operands[0]? = some id) (h : d.declareForwardPointer i id = .ok d') :
    Extends d i d' := by
  obtain ⟨word, -, h⟩ := of_bind_eq_ok h
  obtain ⟨storage, -, h⟩ := of_bind_eq_ok h
  exact .of_defineFormed h hi (by simp [Former.opcodes]) hid (List.forall_mem_nil _)

theorem Extends.of_declarePointer (hi : i.op? = some .typePointer)
    (hid : i.operands[0]? = some id) (h : d.declarePointer i id = .ok d') : Extends d i d' := by
  obtain ⟨word, -, h⟩ := of_bind_eq_ok h
  obtain ⟨storage, -, h⟩ := of_bind_eq_ok h
  obtain ⟨pointeeId, -, h⟩ := of_bind_eq_ok h
  obtain ⟨pointee, hpointee, h⟩ := of_bind_eq_ok h
  have hmem := hasType_of_typeNode hpointee
  split at h
  · exact .of_defineFormed h hi (by simp [Former.opcodes]) hid
      (List.forall_mem_singleton.mpr hmem)
  · split at h
    · split at h
      · exact nomatch h
      · split at h
        · rename_i bound hbound
          obtain ⟨w, hw, h⟩ := of_bind_eq_ok h
          rw [← Except.ok.inj h]
          obtain ⟨declared, made, hs, rfl⟩ := of_bind? (hbound.trans (congrArg some hw))
          exact .pointee hs hmem rfl rfl rfl
        · exact nomatch h
    · exact nomatch h

theorem Extends.of_declareFunctionType (hi : i.op? = some .typeFunction)
    (hid : i.operands[0]? = some id) (h : d.declareFunctionType i id = .ok d') :
    Extends d i d' := by
  obtain ⟨resultId, -, h⟩ := of_bind_eq_ok h
  obtain ⟨result, hresult, h⟩ := of_bind_eq_ok h
  obtain ⟨args, hargs, h⟩ := of_bind_eq_ok h
  exact .of_defineFormed h hi (by simp [Former.opcodes]) hid
    (List.forall_mem_cons.mpr ⟨hasType_of_typeNode hresult, hasType_of_typeNodes hargs⟩)

theorem Extends.of_declareType {op : Opcode} (hi : i.op? = some op)
    (h : d.declareType op i = .ok d') : Extends d i d' := by
  obtain ⟨id, hid, h⟩ := of_bind_eq_ok h
  have hid' := Instruction.of_operand hid
  dsimp only at h
  split at h
  · exact .of_defineSimple (w := d.workspace)
      (.simple (by trivial) rfl ⟨_, List.mem_singleton_self _, hi⟩) hid' h
  · exact .of_defineSimple (w := d.workspace)
      (.simple (by trivial) rfl ⟨_, List.mem_cons_self, hi⟩) hid' h
  · exact .of_declareScalar (fun _ _ hmade =>
      ⟨.int _, trivial, rfl, ⟨_, List.mem_cons_of_mem _ List.mem_cons_self, hi⟩,
        (TypeArena.of_int hmade).1⟩) hid' h
  · exact .of_declareScalar (fun _ _ hmade =>
      ⟨.float _, trivial, rfl, ⟨_, List.mem_singleton_self _, hi⟩,
        (TypeArena.of_float hmade).1⟩) hid' h
  · exact .of_declareVector (Or.inl hi) (fun _ _ _ _ hmade =>
      ⟨.vector _ _, trivial, rfl, ⟨_, List.mem_singleton_self _, hi⟩,
        TypeArena.of_vector hmade⟩) hid' h
  · exact .of_declareVector (Or.inr hi) (fun _ _ _ _ hmade =>
      ⟨.array _ _, trivial, rfl, ⟨_, List.mem_singleton_self _, hi⟩,
        (Except.ok.inj hmade).symm⟩) hid' h
  · exact .of_declareArray hi hid' h
  · exact .of_declareRuntimeArray hi hid' h
  · exact .of_declareStruct hi hid' h
  · exact .of_declareForwardPointer hi hid' h
  · exact .of_declarePointer hi hid' h
  · exact .of_declareFunctionType hi hid' h
  · exact nomatch h

/-! ### Instructions that declare no type -/

theorem Extends.of_addDecoration {target : DecorationTarget} {index : Nat}
    (h : d.addDecoration i target index = .ok d') : Extends d i d' := by
  obtain ⟨decoration, -, h⟩ := of_bind_eq_ok h
  cases decoration with
  | none =>
    rw [← Except.ok.inj h]
    exact .nothing rfl rfl rfl
  | some decoration =>
    rw [← Except.ok.inj h]
    exact .nothing rfl rfl rfl

theorem Extends.of_addExecutionMode (h : d.addExecutionMode i = .ok d') : Extends d i d' := by
  obtain ⟨function, -, h⟩ := of_bind_eq_ok h
  obtain ⟨word, -, h⟩ := of_bind_eq_ok h
  split at h
  · rw [← Except.ok.inj h]
    exact .nothing rfl rfl rfl
  · obtain ⟨size, -, h⟩ := of_bind_eq_ok h
    dsimp only at h
    split at h
    · rw [← Except.ok.inj h]
      exact .nothing rfl rfl rfl
    · exact nomatch h

theorem Extends.of_addConstant (h : d.addConstant i = .ok d') : Extends d i d' := by
  obtain ⟨type, -, h⟩ := of_bind_eq_ok h
  obtain ⟨id, -, h⟩ := of_bind_eq_ok h
  obtain ⟨value, -, h⟩ := of_bind_eq_ok h
  rw [← Except.ok.inj h]
  exact .nothing rfl rfl rfl

/-- What was noted of an instruction that declares no type and decorates nothing says what
it adds to the graph. -/
theorem Extends.of_reads (h : Reads d i d')
    (hother : i.op? ≠ some .name → i.op? ≠ some .entryPoint → i.op? ≠ some .variableOp →
      i.op? ≠ some .function → d.openFunction = none → Extends d i d') : Extends d i d' := by
  cases h with
  | named | entryPoint | moded | globalVariable | begun | parameter | ended | passed =>
    exact .nothing rfl rfl rfl
  | @interfaceVariable id member w hopen hop hi hid htype hw =>
    obtain ⟨pointer, -, hpointee⟩ := Option.bind_eq_some_iff.mp htype
    obtain ⟨storage, made, hs⟩ := pointee?_eq_some_iff.mp hpointee
    have hrefers := (refers_iff_of_shape? hs).mpr (List.mem_singleton_self _)
    exact .interfaceVariable ⟨pointer, hrefers⟩ hw rfl rfl
  | other hopen hname hentry hvariable hfunction =>
    exact hother hname hentry hvariable hfunction hopen

/-- **What an instruction does to the graph is one of these.** -/
theorem extends_visit (h : d.visit i = .ok d') : Extends d i d' := by
  refine .of_reads (reads h) fun hname hentry hvariable hfunction hopen => ?_
  rw [visit, hopen] at h
  cases hi : i.op? with
  | none =>
    rw [hi] at h
    rw [← Except.ok.inj h]
    exact .nothing rfl rfl rfl
  | some op =>
    rw [hi] at h hname hentry hvariable hfunction
    dsimp only at h
    revert h
    fun_cases visitOutside d op i
    all_goals intro h
    · exact absurd rfl hname
    · obtain ⟨id, -, h⟩ := of_bind_eq_ok h
      exact .of_addDecoration h
    · obtain ⟨struct, -, h⟩ := of_bind_eq_ok h
      obtain ⟨index, -, h⟩ := of_bind_eq_ok h
      exact .of_addDecoration h
    · exact absurd h (by simp)
    · exact absurd h (by simp)
    · exact absurd h (by simp)
    · exact absurd rfl hentry
    · exact .of_addExecutionMode h
    · exact .of_addConstant h
    · exact .of_addConstant h
    · exact absurd rfl hvariable
    · exact absurd rfl hfunction
    · exact absurd h (by simp)
    · exact absurd h (by simp)
    · rw [if_pos (by assumption)] at h
      exact .of_declareType hi h
    · rw [if_neg (by assumption)] at h
      rw [← Except.ok.inj h]
      exact .nothing rfl rfl rfl

end Declarations

namespace Workspace

variable {w w' : Workspace} {n m : NodeId} {shape : Shape}

/-! ### Where nodes are, refer and were declared -/

/-- The references of a workspace to which a node was added. -/
theorem refers_add {node : Node} (h : (w.add node).2.Refers n m) :
    n.index = w.graph.nodes.size ∧ m ∈ node.refs ∨ w.Refers n m := by
  obtain ⟨node', hn, hm⟩ := h
  rw [node?_add] at hn
  split at hn
  · rename_i hsize
    rw [← Option.some.inj hn] at hm
    exact Or.inl ⟨hsize, hm⟩
  · exact Or.inr ⟨node', hn, hm⟩

theorem start?_add_self (w : Workspace) (node : Node) :
    (w.add node).2.start? (w.add node).1 = some node.start :=
  start?_eq (w.node?_add_self node)

theorem start?_add (h : (w.node? n).isSome) (node : Node) :
    (w.add node).2.start? n = w.start? n := by
  obtain ⟨before, hn⟩ := Option.isSome_iff_exists.mp h
  rw [start?_eq hn, start?_eq (node?_add_of_node? hn node)]

theorem start?_reshape (w : Workspace) (n : NodeId) (shape : Shape) :
    (w.reshape n shape).start? = w.start? := by
  funext m
  by_cases hmn : m = n
  · rw [hmn, start?, start?, reshape, node?_modify_map, Option.map_map]
    rfl
  · rw [start?, start?, reshape, node?_modify_of_ne hmn]

/-- A pointer stays one when another node declares something else, or when it is itself
given a pointee. -/
theorem isPointer_reshape {before : Shape} (hs : w.shape? n = some before)
    (hgrows : before.Grows shape) (hm : w.IsPointer m) : (w.reshape n shape).IsPointer m := by
  obtain ⟨pointee, storage, made, hm⟩ := hm
  obtain ⟨s', hs', hgrows'⟩ := graphGrows_reshape hs hgrows m _ hm
  cases hgrows' with
  | formed => exact ⟨_, _, _, hs'⟩
  | bound => exact ⟨_, _, _, hs'⟩

end Workspace

namespace Declarations

open Workspace

variable {d d' : Declarations} {arena : TypeArena} {i : Instruction} {id : Id} {n m : NodeId}
  {instructions : List Instruction}

/-! ### References go down -/

/-- The interface struct, if there is one. -/
def interfaceNode? (d : Declarations) : Option NodeId :=
  d.interface.map Interface.node

/-- The instruction declares the type of the node, which is formed in one of the ways that the
instruction can say. -/
structure FormedBy (d : Declarations) (i : Instruction) (n : NodeId) (former : Former) :
    Prop where
  opcode : ∃ op ∈ former.opcodes, i.op? = some op
  type : ∃ id, i.operands[0]? = some id ∧ (id, n) ∈ d.types
  start : d.workspace.start? n = some i.start

/-- **What is true of the graph of types at every point of a walk.** -/
structure Ordered (d : Declarations) (instructions : List Instruction) : Prop where
  below : ∀ n m, d.workspace.Refers n m → ¬d.workspace.IsPointer n →
    d.interfaceNode? ≠ some n → m.index < n.index
  referred : ∀ n m, d.workspace.Refers n m → d.HasType m
  interface : ∀ n, d.interfaceNode? = some n → ¬d.HasType n
  formed : ∀ n former made, d.workspace.shape? n = some (.formed former made) →
    ∃ i ∈ instructions, d.FormedBy i n former

theorem ordered_empty (arena : TypeArena) (instructions : List Instruction) :
    ({ workspace := { arena } } : Declarations).Ordered instructions where
  below := by
    rintro n m ⟨node, hn, -⟩
    simp [node?] at hn
  referred := by
    rintro n m ⟨node, hn, -⟩
    simp [node?] at hn
  interface := nofun
  formed n former made hs := by simp [shape?, node?] at hs

/-- What is found out when types are made does not matter to the order. -/
theorem Ordered.congr (h : d.Ordered instructions)
    (hw : d'.workspace.skeleton = d.workspace.skeleton) (htypes : d'.types = d.types)
    (hinterface : d'.interface = d.interface) : d'.Ordered instructions := by
  have hnode : d'.interfaceNode? = d.interfaceNode? := by
    rw [interfaceNode?, hinterface, interfaceNode?]
  refine ⟨?_, ?_, ?_, fun n former made hs => ?_⟩
  · rw [refers_congr hw, isPointer_congr hw, hnode]
    exact h.below
  · rw [refers_congr hw]
    simp only [HasType, htypes]
    exact h.referred
  · rw [hnode]
    simp only [HasType, htypes]
    exact h.interface
  · obtain ⟨made', hs'⟩ := formed_of_skeleton_eq hw.symm hs
    obtain ⟨i, hi, hformed⟩ := h.formed n former made' hs'
    exact ⟨i, hi, hformed.opcode, htypes ▸ hformed.type, start?_congr hw ▸ hformed.start⟩

theorem Sound.isSome_interface (hd : d.Sound arena) (hn : d.interfaceNode? = some n) :
    (d.workspace.node? n).isSome := by
  obtain ⟨f, hf, rfl⟩ := Option.map_eq_some_iff.mp hn
  obtain ⟨t, layout, hs, -⟩ := hd.interface f hf
  obtain ⟨node, hnode, -⟩ := Option.map_eq_some_iff.mp hs
  exact Option.isSome_of_eq_some hnode

theorem HasType.isSome (h : d.HasType n) (hd : d.TypesThere) :
    (d.workspace.node? n).isSome := by
  obtain ⟨id, hmem⟩ := h
  exact hd _ hmem

/-- The order is kept by a node that refers to types, if it has been declared in case it is
formed. -/
theorem Ordered.add {node : Node} (h : d.Ordered instructions) (hd : d.TypesThere)
    (hrefs : ∀ m ∈ node.refs, d.HasType m) (hw : d'.workspace = (d.workspace.add node).2)
    (htypes : d.types ⊆ d'.types)
    (hsame : ∀ n, d.interfaceNode? = some n → d'.interfaceNode? = some n)
    (hinterface : ∀ n, d'.interfaceNode? = some n → ¬d'.HasType n)
    (hnew : ∀ former made, node.shape = .formed former made →
      ∃ i ∈ instructions, d'.FormedBy i (d.workspace.add node).1 former) :
    d'.Ordered instructions := by
  have htype {m : NodeId} (hm : d.HasType m) : d'.HasType m := by
    obtain ⟨id, hmem⟩ := hm
    exact ⟨id, htypes hmem⟩
  refine ⟨fun n m hrefers hpointer hn => ?_, fun n m hrefers => ?_, hinterface,
    fun n former made hs => ?_⟩
  · rw [hw] at hrefers hpointer
    rcases refers_add hrefers with ⟨hsize, hm⟩ | hold
    · have hlt := lt_size_iff.mpr ((hrefs m hm).isSome hd)
      omega
    · refine h.below n m hold (fun hcon => hpointer ?_) fun hcon => hn (hsame n hcon)
      obtain ⟨pointee, storage, made, hs⟩ := hcon
      obtain ⟨before, hbefore, hshape⟩ := Option.map_eq_some_iff.mp hs
      exact ⟨pointee, storage, made,
        shape?_eq_of_shape_eq (node?_add_of_node? hbefore node) hshape⟩
  · rw [hw] at hrefers
    rcases refers_add hrefers with ⟨-, hm⟩ | hold
    · exact htype (hrefs m hm)
    · exact htype (h.referred n m hold)
  · rw [hw, shape?_add] at hs
    split at hs
    · rename_i hsize
      obtain rfl : n = (d.workspace.add node).1 := by
        cases n
        exact congrArg NodeId.mk hsize
      exact hnew former made (Option.some.inj hs)
    · obtain ⟨i, hi, hopcode, ⟨id, hid, hmem⟩, hstart⟩ := h.formed n former made hs
      refine ⟨i, hi, hopcode, ⟨id, hid, htypes hmem⟩, ?_⟩
      rw [hw, start?_add (HasType.isSome ⟨id, hmem⟩ hd), hstart]

/-- **A type that is declared refers to types before it.** -/
theorem Ordered.type {node : Node} (h : d.Ordered instructions) (hd : d.TypesThere)
    (hthere : ∀ n, d.interfaceNode? = some n → (d.workspace.node? n).isSome)
    (hnode : d.Declares i id node) (hi : i ∈ instructions)
    (hw : d'.workspace = (d.workspace.add node).2)
    (htypes : d'.types = (id, (d.workspace.add node).1) :: d.types)
    (hinterface : d'.interface = d.interface) : d'.Ordered instructions := by
  have hsame : d'.interfaceNode? = d.interfaceNode? := by
    rw [interfaceNode?, hinterface, interfaceNode?]
  refine h.add hd hnode.refs hw (htypes ▸ List.subset_cons_self _ _) (fun n hn => hsame ▸ hn)
    (fun n hn => ?_) fun former made hs => ?_
  · rw [hsame] at hn
    rintro ⟨id', hmem⟩
    rw [htypes] at hmem
    rcases List.mem_cons.mp hmem with heq | hold
    -- the interface struct was there before the node
    · have hlt := lt_size_iff.mpr (hthere n hn)
      rw [(Prod.mk.inj heq).2] at hlt
      exact absurd hlt (Nat.lt_irrefl _)
    · exact h.interface n hn ⟨id', hold⟩
  · refine ⟨i, hi, hnode.opcode former made hs, ⟨id, hnode.id, ?_⟩, ?_⟩
    · exact htypes ▸ List.mem_cons_self
    · rw [hw, start?_add_self, hnode.start]

/-- **The interface struct is declared without an id**, and at first refers to nothing. -/
theorem Ordered.openInterface (h : d.Ordered instructions) (hd : d.TypesThere) (start : Nat) :
    ({ d with
      workspace := (d.openInterface start).2
      interface := some (d.openInterface start).1 } : Declarations).Ordered instructions := by
  rw [Declarations.openInterface]
  split
  · rename_i f hf
    exact h.congr rfl rfl hf.symm
  · rename_i hf
    refine Ordered.add (d := { d with
      workspace := { d.workspace with arena := (d.workspace.arena.struct interfaceStructName).2 } })
      (h.congr rfl rfl rfl) hd (List.forall_mem_nil _) rfl (List.Subset.refl _) (fun n hn => ?_)
      (fun n hn => ?_) fun _ _ hs => ?_
    · rw [interfaceNode?, hf] at hn
      exact absurd hn (by simp)
    · rw [← Option.some.inj hn]
      rintro ⟨id, hmem⟩
      exact absurd (lt_size_iff.mpr (hd _ hmem)) (Nat.lt_irrefl _)
    · exact absurd hs (by simp)

/-- The order is kept if a node comes to refer to another type, provided that it is a pointer
or the interface struct. -/
theorem Ordered.reshape {before shape : Shape} (h : d.Ordered instructions)
    (hs : d.workspace.shape? n = some before) (hgrows : before.Grows shape)
    (hrefs : ∀ m ∈ ({ shape } : Node).refs, d.workspace.Refers n m ∨ d.HasType m)
    (hkind : (∃ pointee storage made, shape = .formed (.pointer pointee storage) made) ∨
      d.interfaceNode? = some n)
    (hformed : ∀ former made, shape = .formed former made → ∃ former' made',
      before = .formed former' made' ∧ former'.opcodes = former.opcodes)
    (hw : d'.workspace = d.workspace.reshape n shape) (htypes : d'.types = d.types)
    (hinterface : d'.interfaceNode? = d.interfaceNode?) : d'.Ordered instructions := by
  have htype {m : NodeId} (hm : d.HasType m) : d'.HasType m := by
    rwa [HasType, htypes]
  refine ⟨fun l m hrefers hpointer hl => ?_, fun l m hrefers => ?_, fun l hl => ?_,
    fun l former made hshape => ?_⟩
  · rw [hw] at hrefers hpointer
    rw [hinterface] at hl
    rcases refers_reshape hrefers with hold | ⟨rfl, -⟩
    · exact h.below l m hold (fun hcon => hpointer (isPointer_reshape hs hgrows hcon)) hl
    -- the node that has changed is one of the two exceptions
    · rcases hkind with ⟨pointee, storage, made, rfl⟩ | hcon
      · exact absurd ⟨pointee, storage, made, by rw [shape?_reshape hs, if_pos rfl]⟩ hpointer
      · exact absurd hcon hl
  · rw [hw] at hrefers
    rcases refers_reshape hrefers with hold | ⟨rfl, hnew⟩
    · exact htype (h.referred l m hold)
    · rcases hrefs m hnew with hold | hm
      · exact htype (h.referred l m hold)
      · exact htype hm
  · rw [hinterface] at hl
    rw [HasType, htypes]
    exact h.interface l hl
  · have hkept {former' : Former} (hf : ∃ i ∈ instructions, d.FormedBy i l former')
        (hopcodes : former'.opcodes = former.opcodes) :
        ∃ i ∈ instructions, d'.FormedBy i l former := by
      obtain ⟨i, hi, hopcode, htyped, hstart⟩ := hf
      refine ⟨i, hi, hopcodes ▸ hopcode, htypes ▸ htyped, ?_⟩
      rw [hw, start?_reshape, hstart]
    rw [hw, shape?_reshape hs] at hshape
    split at hshape
    · rename_i hln
      obtain ⟨former', made', hbefore, hopcodes⟩ := hformed former made (Option.some.inj hshape)
      exact hkept (h.formed l former' made' (by rw [hln, hs, hbefore])) hopcodes
    · exact hkept (h.formed l former made hshape) rfl

/-- A pointer gets its pointee. -/
theorem Ordered.pointee {storage : StorageClass} {made : Option Ty} (h : d.Ordered instructions)
    (hs : d.workspace.shape? n = some (.formed (.pointer none storage) made)) (hm : d.HasType m)
    (hw : d'.workspace = d.workspace.reshape n (.formed (.pointer (some m) storage) made))
    (htypes : d'.types = d.types) (hinterface : d'.interface = d.interface) :
    d'.Ordered instructions := by
  have hsame : d'.interfaceNode? = d.interfaceNode? := by
    rw [interfaceNode?, hinterface, interfaceNode?]
  refine h.reshape hs (.bound ..) (fun l hl => ?_) (Or.inl ⟨_, _, _, rfl⟩)
    (fun former made' heq => ?_) hw htypes hsame
  · rw [List.mem_singleton.mp hl]
    exact Or.inr hm
  · obtain ⟨rfl, -⟩ := Shape.formed.inj heq
    exact ⟨_, _, rfl, rfl⟩

/-- The interface struct gets a member. -/
theorem Ordered.member {f : Interface} {member : Member} (h : d.Ordered instructions)
    (hf : d.interfaceNode? = some f.node) (hm : d.HasType member.type)
    (hw : d.workspace.addMember? f.node member = some (.ok d'.workspace))
    (htypes : d'.types = d.types) (hinterface : d'.interfaceNode? = d.interfaceNode?) :
    d'.Ordered instructions := by
  obtain ⟨type, layout, hs, -, heq⟩ := of_addMember? hw
  refine h.reshape hs (.struct _ (Layout.grows_push _ _)) (fun l hl => ?_) (Or.inr hf) nofun heq
    htypes hinterface
  have hl' : l ∈ layout.members.map Member.type ∨ l = member.type := by
    simpa [Node.refs, Layout.push] using hl
  rcases hl' with hold | rfl
  · exact Or.inl ((refers_iff_of_shape? hs).mpr hold)
  · exact Or.inr hm

/-- **An instruction keeps the order.** -/
theorem Ordered.extends (h : d.Ordered instructions) (hd : d.Sound arena)
    (hi : i ∈ instructions) (hstep : d.Extends i d') : d'.Ordered instructions := by
  cases hstep with
  | nothing hw htypes hinterface => exact h.congr (congrArg skeleton hw) htypes hinterface
  | @type id node w hmade hadd htypes hinterface hnode =>
    have hw := hmade.skeleton_eq
    have hthere : ∀ n, d.interfaceNode? = some n → (w.node? n).isSome := fun n hn =>
      (isSome_node?_congr hw n).trans (hd.isSome_interface hn)
    refine Ordered.type (d := { d with workspace := w }) (h.congr hw rfl rfl)
      (fun entry hentry => ?_) hthere ⟨hnode.id, hnode.start, hnode.refs, hnode.opcode⟩ hi hadd
      htypes hinterface
    rw [isSome_node?_congr hw]
    exact hd.types entry hentry
  | pointee hs hm hw htypes hinterface => exact h.pointee hs hm hw htypes hinterface
  | interfaceVariable hmember hw htypes hinterface =>
    obtain ⟨n, hrefers⟩ := hmember
    refine (h.openInterface hd.types i.start).member rfl (h.referred n _ hrefers) hw htypes ?_
    rw [interfaceNode?, hinterface]
    rfl

/-- **What is declared is in order.** -/
theorem ordered_ofInstructions (h : ofInstructions arena instructions = .ok d) :
    d.Ordered instructions := by
  refine (foldlM_keeps (P := fun d => d.Sound arena ∧ d.Ordered instructions)
    (fun d i hi d' hstep hd => ?_) ⟨sound_empty arena, ordered_empty arena instructions⟩ h).2
  have hvisits := visits hd.1.types hd.1.closed hstep
  exact ⟨hd.1.visits hvisits, hd.2.extends hd.1 hi (extends_visit hstep)⟩

/-! ### Cycles -/

/-- **Every cycle contains a pointer.** -/
theorem Ordered.exists_isPointer (h : d.Ordered instructions) (hclosed : d.workspace.Closed)
    {cycle : List NodeId} (hcycle : d.workspace.IsCycle cycle) :
    ∃ n ∈ cycle, d.workspace.IsPointer n := by
  classical
  refine hcycle.exists_mem (fun n =>
    if d.interfaceNode? = some n then d.workspace.graph.nodes.size else n.index)
    fun n m hrefers hpointer => ?_
  have hm : d.interfaceNode? ≠ some m := fun hcon => h.interface m hcon (h.referred n m hrefers)
  rw [if_neg hm]
  split
  · exact lt_size_iff.mpr (hclosed n m hrefers)
  · exact h.below n m hrefers hpointer ‹_›

end Declarations

end ShaderLowering
