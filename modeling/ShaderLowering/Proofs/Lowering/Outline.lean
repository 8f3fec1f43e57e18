import ShaderLowering.Proofs.Lowering.Declared

/-!
# What a walk gathers

A stream of instructions has an outline that can be read off it without lowering
anything: which instructions stand outside of functions, which of these give names or
declare variables and entry points, and which parameters a function has before it ends.
What a walk has gathered at its end is this outline. Each of its lists has one entry for
each of the instructions that it is about, in the order of the stream
(`ShaderLowering.Declarations.Walks.gathers`), and a function that has ended has the
parameters that stood before its end (`ShaderLowering.Declarations.Walks.functions`).

`ShaderLowering.Declarations.Visits` says what an instruction does to the graph, and that
is not enough here: it leaves open which name was noted, and for which instruction. So
what an instruction does to the lists is said once more, exactly, by
`ShaderLowering.Declarations.Reads`.
-/

namespace ShaderLowering

/-! ### The outline of a stream -/

/-- What an entry point is declared with. -/
structure Heading where
  /-- Its name. -/
  name : String
  /-- The stage it runs in. -/
  model : ExecutionModel
  /-- The function it runs. -/
  function : Id
  /-- The variables it says it uses. -/
  interface : List Id
  deriving DecidableEq, Repr

/-- What the entry point was declared with. -/
def ShaderEntryPoint.heading (p : ShaderEntryPoint) : Heading :=
  ⟨p.name, p.model, p.function, p.interface⟩

namespace Instruction

/-- The storage class in the third operand. -/
def storage? (i : Instruction) : Option StorageClass :=
  i.operands[2]?.bind Enumerant.ofWord?

/-- The instruction declares an input or an output variable. -/
def isInterfaceVariable (i : Instruction) : Bool :=
  i.op? == some .variableOp && i.storage?.any StorageClass.isInterface

/-- The instruction declares a variable that is neither an input nor an output. -/
def isGlobalVariable (i : Instruction) : Bool :=
  i.op? == some .variableOp && i.storage?.any fun storage => !storage.isInterface

/-- The instruction declares an entry point. -/
def isEntryPoint (i : Instruction) : Bool :=
  i.op? == some .entryPoint

/-- The instruction declares a parameter of a function. -/
def isParameter (i : Instruction) : Bool :=
  i.op? == some .functionParameter

/-- The id that an instruction names, and the name it gives. -/
def named? (i : Instruction) : Option (Id × String) :=
  if i.op? = some .name then do
    let id ← i.operands[0]?
    let (name, _) ← (i.literalString 1).toOption
    return (id, name)
  else none

/-- What an entry point is declared with by the operands of an instruction. -/
def heading? (i : Instruction) : Option Heading := do
  let model ← i.operands[0]?.bind Enumerant.ofWord?
  let function ← i.operands[1]?
  let (name, next) ← (i.literalString 2).toOption
  return ⟨name, model, function, i.operandsFrom next⟩

end Instruction

/-- The instructions outside of functions, when reading begins inside of a function or
not. The instruction that begins a function stands among them. -/
def outside : Bool → List Instruction → List Instruction
  | _, [] => []
  | true, i :: is => outside (i.op? != some .functionEnd) is
  | false, i :: is => i :: outside (i.op? == some .function) is

/-- The instructions outside of functions. -/
def moduleScope (instructions : List Instruction) : List Instruction :=
  outside false instructions

/-- The parameters that are declared before a function ends. -/
def parametersAhead (instructions : List Instruction) : List Instruction :=
  (instructions.takeWhile fun i => i.op? != some .functionEnd).filter Instruction.isParameter

/-- The functions of a stream: for each the instruction that begins it, and its
parameters. -/
def functionsOf : List Instruction → List (Instruction × List Instruction)
  | [] => []
  | i :: is =>
    if i.op? = some .function then (i, parametersAhead is) :: functionsOf is
    else functionsOf is

/-- The last name that is given to an id outside of functions. -/
def lastName (instructions : List Instruction) (id : Id) : Option String :=
  ((moduleScope instructions).filterMap Instruction.named?).reverse.lookup id

/-! ### Reading operands -/

section Operands

variable {i : Instruction} {index : Nat} {w : Word}

theorem Instruction.of_operand (h : i.operand index = .ok w) : i.operands[index]? = some w := by
  rw [Instruction.operand] at h
  split at h
  · rename_i hw
    rw [hw, Except.ok.inj h]
  · exact absurd h (by simp)

theorem Instruction.operand_eq_ok (h : i.operands[index]? = some w) : i.operand index = .ok w := by
  rw [Instruction.operand, h]

theorem Enumerant.of_decode {α : Type} [Enumerant α] {a : α} {start : Nat}
    (h : Enumerant.decode w start = .ok a) : Enumerant.ofWord? w = some a := by
  rw [Enumerant.decode] at h
  split at h
  · rename_i ha
    rw [ha, Except.ok.inj h]
  · exact absurd h (by simp)

theorem Enumerant.decode_eq_ok {α : Type} [Enumerant α] {a : α} {start : Nat}
    (h : Enumerant.ofWord? w = some a) : Enumerant.decode w start = .ok a := by
  rw [Enumerant.decode, h]

theorem Instruction.storage?_of_decode {storage : StorageClass} {start : Nat}
    (hw : i.operand 2 = .ok w) (h : Enumerant.decode w start = .ok storage) :
    i.storage? = some storage := by
  rw [storage?, of_operand hw]
  exact Enumerant.of_decode h

end Operands

namespace Declarations

open Workspace

variable {d d₁ d' : Declarations} {arena : TypeArena} {i : Instruction} {id : Id} {n : NodeId}

/-- The node of the pointer type of the variable that an instruction declares. -/
def variableType? (d : Declarations) (i : Instruction) : Option NodeId :=
  i.operands[0]?.bind fun id => d.types.lookup id

/-- What the variable that an instruction declares is a place for. -/
def variablePointee? (d : Declarations) (i : Instruction) : Option NodeId :=
  (d.variableType? i).bind d.workspace.pointee?

/-- The variables of the interface that have been read. -/
def interfaceIds (d : Declarations) : List Id :=
  (d.interface.map fun f => f.members.map InterfaceVariable.id).getD []

/-- The types of the members of the interface struct. -/
def interfaceTypes (d : Declarations) : List NodeId :=
  (d.interface.map fun f => d.workspace.memberTypes f.node).getD []

/-- The members of the interface struct, as they were added to it. -/
def interfaceMembers (d : Declarations) : List (List Decoration × NodeId) :=
  (d.interface.map fun f => d.workspace.members f.node).getD []

/-- The functions that have ended, and the one being read. -/
def allFunctions (d : Declarations) : List ShaderFunction :=
  d.functions ++ d.openFunction.toList

/-- Of the widths of scalars, those that were not there before are widths of the target. -/
def WidthsGrow (d : Declarations) (scalarWidths : List (Id × Nat)) : Prop :=
  ∀ entry ∈ scalarWidths, entry ∈ d.scalarWidths ∨ entry.2 ≤ 64

/-- **What reading an instruction notes**, inside of a function and outside. -/
inductive Reads (d : Declarations) (i : Instruction) : Declarations → Prop
  /-- It gives a name. -/
  | named {entry : Id × String} (hopen : d.openFunction = none) (hop : i.op? = some .name)
      (hentry : i.named? = some entry) :
    Reads d i { d with names := entry :: d.names }
  /-- It declares an entry point. -/
  | entryPoint {p : ShaderEntryPoint} (hopen : d.openFunction = none)
      (hop : i.op? = some .entryPoint) (hp : i.heading? = some p.heading)
      (hstart : p.start = i.start) :
    Reads d i { d with entryPoints := d.entryPoints ++ [p] }
  /-- It gives entry points a mode. -/
  | moded {record : ShaderEntryPoint → ShaderEntryPoint} (hopen : d.openFunction = none)
      (hop : i.op? = some .executionMode) (hrecord : ∀ p, (record p).heading = p.heading)
      (hstart : ∀ p, (record p).start = p.start) :
    Reads d i { d with entryPoints := d.entryPoints.map record }
  /-- It adds a variable to the interface. -/
  | interfaceVariable {id : Id} {member : Member} {w : Workspace}
      (hopen : d.openFunction = none) (hop : i.op? = some .variableOp)
      (hi : i.isInterfaceVariable = true) (hid : i.operands[1]? = some id)
      (htype : d.variablePointee? i = some member.type)
      (hw : (d.openInterface i.start).2.addMember? (d.openInterface i.start).1.node member =
        some (.ok w)) (hdecorations : member.decorations = d.decorationsOf (.object id)) :
    Reads d i { d with
      workspace := w
      interface := some { (d.openInterface i.start).1 with
        members := (d.openInterface i.start).1.members ++ [⟨id, i.start⟩] } }
  /-- It adds a global. -/
  | globalVariable {g : ShaderGlobal} (hopen : d.openFunction = none)
      (hop : i.op? = some .variableOp) (hi : i.isGlobalVariable = true)
      (hid : i.operands[1]? = some g.id) (hstorage : i.storage? = some g.storage)
      (htype : d.variableType? i = some g.pointerType)
      (hpointee : (d.workspace.pointee? g.pointerType).isSome) (hstart : g.start = i.start) :
    Reads d i { d with globals := d.globals ++ [g] }
  /-- It begins a function. -/
  | begun {f : ShaderFunction} (hopen : d.openFunction = none) (hop : i.op? = some .function)
      (hid : i.operands[1]? = some f.id)
      (htype : (i.operands[3]?.bind fun id => d.types.lookup id) = some f.type)
      (hnone : f.parameters = []) (hstart : f.start = i.start) :
    Reads d i { d with openFunction := some f }
  /-- It adds a parameter to the function that is being read. -/
  | parameter {f : ShaderFunction} {id : Id} (hopen : d.openFunction = some f)
      (hop : i.op? = some .functionParameter) (hid : i.operands[1]? = some id) :
    Reads d i { d with openFunction := some { f with parameters := f.parameters ++ [id] } }
  /-- It ends the function that is being read. -/
  | ended {f : ShaderFunction} (hopen : d.openFunction = some f)
      (hop : i.op? = some .functionEnd) :
    Reads d i { d with openFunction := none, functions := d.functions ++ [f] }
  /-- It is passed over inside of a function. -/
  | passed {f : ShaderFunction} (hopen : d.openFunction = some f)
      (hfunction : i.op? ≠ some .function) (hparameter : i.op? ≠ some .functionParameter)
      (hend : i.op? ≠ some .functionEnd) :
    Reads d i d
  /-- It declares a type or a constant, decorates something, or is passed over. -/
  | other {w : Workspace} {types : List (Id × NodeId)} {scalarWidths constants : List (Id × Nat)}
      {decorations : List (DecorationTarget × Decoration)} (hopen : d.openFunction = none)
      (hname : i.op? ≠ some .name) (hentry : i.op? ≠ some .entryPoint)
      (hvariable : i.op? ≠ some .variableOp) (hfunction : i.op? ≠ some .function)
      (hwidths : d.WidthsGrow scalarWidths) :
    Reads d i { d with workspace := w, types, scalarWidths, constants, decorations }

/-! ### What each instruction notes -/

/-- The declarations differ at most in the graph, the types and the widths of scalars. -/
def TypesChange (d d' : Declarations) : Prop :=
  ∃ w types scalarWidths, d' = { d with workspace := w, types, scalarWidths } ∧
    d.WidthsGrow scalarWidths

theorem TypesChange.of_define {added : NodeId × Workspace} (h : d.define i id added = .ok d') :
    d.TypesChange d' :=
  ⟨added.2, (id, added.1) :: d.types, d.scalarWidths, (Declarations.of_define h).2,
    fun _ => Or.inl⟩

theorem TypesChange.of_declareScalar {make : Nat → Except TypeFault (Ty × TypeArena)}
    (hmake : ∀ bits made, make bits = .ok made → bits ≤ 64)
    (h : d.declareScalar i id make = .ok d') : d.TypesChange d' := by
  obtain ⟨width, -, h⟩ := of_bind_eq_ok h
  obtain ⟨made, hmade, h⟩ := of_bind_eq_ok h
  obtain ⟨d₁, hd₁, h⟩ := of_bind_eq_ok h
  obtain ⟨w, types, scalarWidths, rfl, hwidths⟩ := TypesChange.of_define hd₁
  refine ⟨w, types, _, (Except.ok.inj h).symm, List.forall_mem_cons.mpr ⟨Or.inr ?_, hwidths⟩⟩
  exact hmake width.toNat made (of_madeFor hmade)

theorem TypesChange.of_declareVector
    {make : TypeArena → Ty → Nat → Except TypeFault (Ty × TypeArena)}
    (h : d.declareVector i id make = .ok d') : d.TypesChange d' := by
  obtain ⟨componentId, -, h⟩ := of_bind_eq_ok h
  obtain ⟨component, -, h⟩ := of_bind_eq_ok h
  obtain ⟨count, -, h⟩ := of_bind_eq_ok h
  obtain ⟨type, -, h⟩ := of_bind_eq_ok h
  obtain ⟨made, -, h⟩ := of_bind_eq_ok h
  obtain ⟨w, types, scalarWidths, heq⟩ := TypesChange.of_define h
  exact ⟨w, types, scalarWidths, heq⟩

theorem TypesChange.of_declareArray (h : d.declareArray i id = .ok d') : d.TypesChange d' := by
  obtain ⟨elementId, -, h⟩ := of_bind_eq_ok h
  obtain ⟨element, -, h⟩ := of_bind_eq_ok h
  obtain ⟨length, -, h⟩ := of_bind_eq_ok h
  split at h
  · exact .of_define h
  · exact absurd h (by simp)

theorem TypesChange.of_declarePointer (h : d.declarePointer i id = .ok d') :
    d.TypesChange d' := by
  obtain ⟨word, -, h⟩ := of_bind_eq_ok h
  obtain ⟨storage, -, h⟩ := of_bind_eq_ok h
  obtain ⟨pointeeId, -, h⟩ := of_bind_eq_ok h
  obtain ⟨pointee, -, h⟩ := of_bind_eq_ok h
  split at h
  · exact .of_define h
  · split at h
    · split at h
      · exact absurd h (by simp)
      · split at h
        · obtain ⟨w, -, h⟩ := of_bind_eq_ok h
          exact ⟨w, d.types, d.scalarWidths, (Except.ok.inj h).symm, fun _ => Or.inl⟩
        · exact absurd h (by simp)
    · exact absurd h (by simp)

/-- A type that is declared is noted among the types, or has its pointee noted. -/
theorem TypesChange.of_declareType {op : Opcode} (h : d.declareType op i = .ok d') :
    d.TypesChange d' := by
  obtain ⟨id, -, h⟩ := of_bind_eq_ok h
  dsimp only at h
  split at h
  · exact .of_define h
  · exact .of_define h
  · exact .of_declareScalar (fun _ _ hmade => (TypeArena.of_int hmade).2) h
  · exact .of_declareScalar (fun _ _ hmade => (TypeArena.of_float hmade).2) h
  · exact .of_declareVector h
  · exact .of_declareVector h
  · exact .of_declareArray h
  · obtain ⟨elementId, -, h⟩ := of_bind_eq_ok h
    obtain ⟨element, -, h⟩ := of_bind_eq_ok h
    exact .of_define h
  · obtain ⟨types, -, h⟩ := of_bind_eq_ok h
    exact .of_define h
  · obtain ⟨word, -, h⟩ := of_bind_eq_ok h
    obtain ⟨storage, -, h⟩ := of_bind_eq_ok h
    exact .of_define h
  · exact .of_declarePointer h
  · obtain ⟨resultId, -, h⟩ := of_bind_eq_ok h
    obtain ⟨result, -, h⟩ := of_bind_eq_ok h
    obtain ⟨args, -, h⟩ := of_bind_eq_ok h
    exact .of_define h
  · exact absurd h (by simp)

theorem lookup_of_typeNode (h : d.typeNode i id = .ok n) : d.types.lookup id = some n := by
  rw [typeNode] at h
  split at h
  · rename_i node hlookup
    rw [hlookup, Except.ok.inj h]
  · exact absurd h (by simp)

theorem Reads.of_addName (hopen : d.openFunction = none) (hi : i.op? = some .name)
    (h : d.addName i = .ok d') : Reads d i d' := by
  obtain ⟨id, hid, h⟩ := of_bind_eq_ok h
  obtain ⟨⟨name, next⟩, hname, h⟩ := of_bind_eq_ok h
  rw [← Except.ok.inj h]
  refine .named hopen hi ?_
  rw [Instruction.named?, if_pos hi, Instruction.of_operand hid, hname]
  rfl

theorem Reads.of_addEntryPoint (hopen : d.openFunction = none) (hi : i.op? = some .entryPoint)
    (h : d.addEntryPoint i = .ok d') : Reads d i d' := by
  obtain ⟨word, hword, h⟩ := of_bind_eq_ok h
  obtain ⟨model, hmodel, h⟩ := of_bind_eq_ok h
  obtain ⟨function, hfunction, h⟩ := of_bind_eq_ok h
  obtain ⟨⟨name, next⟩, hname, h⟩ := of_bind_eq_ok h
  rw [← Except.ok.inj h]
  refine .entryPoint hopen hi ?_ rfl
  have hmodel' : i.operands[0]?.bind Enumerant.ofWord? = some model := by
    rw [Instruction.of_operand hword]
    exact Enumerant.of_decode hmodel
  rw [Instruction.heading?, hmodel', Instruction.of_operand hfunction, hname]
  rfl

/-- Outside of functions, what notes none of the names, entry points, variables and
functions is one case. -/
theorem Reads.of_other {op : Opcode} (hopen : d.openFunction = none) (hi : i.op? = some op)
    (hop : op ≠ .name ∧ op ≠ .entryPoint ∧ op ≠ .variableOp ∧ op ≠ .function)
    {w : Workspace} {types : List (Id × NodeId)} {scalarWidths constants : List (Id × Nat)}
    {decorations : List (DecorationTarget × Decoration)} (hwidths : d.WidthsGrow scalarWidths) :
    Reads d i { d with workspace := w, types, scalarWidths, constants, decorations } := by
  obtain ⟨hname, hentry, hvariable, hfunction⟩ := hop
  exact .other hopen (hi ▸ mt Option.some.inj hname) (hi ▸ mt Option.some.inj hentry)
    (hi ▸ mt Option.some.inj hvariable) (hi ▸ mt Option.some.inj hfunction) hwidths

/-- What notes neither of these nor the width of a scalar. -/
theorem Reads.of_aside {op : Opcode} (hopen : d.openFunction = none) (hi : i.op? = some op)
    (hop : op ≠ .name ∧ op ≠ .entryPoint ∧ op ≠ .variableOp ∧ op ≠ .function)
    {constants : List (Id × Nat)} {decorations : List (DecorationTarget × Decoration)} :
    Reads d i { d with constants, decorations } :=
  .of_other hopen hi hop fun _ => Or.inl

theorem Reads.of_addExecutionMode (hopen : d.openFunction = none)
    (hi : i.op? = some .executionMode) (h : d.addExecutionMode i = .ok d') : Reads d i d' := by
  obtain ⟨function, -, h⟩ := of_bind_eq_ok h
  obtain ⟨word, -, h⟩ := of_bind_eq_ok h
  split at h
  · rw [← Except.ok.inj h]
    exact .of_aside hopen hi (by decide)
  · obtain ⟨size, -, h⟩ := of_bind_eq_ok h
    dsimp only at h
    split at h
    · rw [← Except.ok.inj h]
      refine .moded hopen hi (fun p => ?_) fun p => ?_
      · split
        · rfl
        · rfl
      · split
        · rfl
        · rfl
    · exact absurd h (by simp)

theorem Reads.of_addDecoration {op : Opcode} (hopen : d.openFunction = none)
    (hi : i.op? = some op)
    (hop : op ≠ .name ∧ op ≠ .entryPoint ∧ op ≠ .variableOp ∧ op ≠ .function)
    {target : DecorationTarget} {index : Nat} (h : d.addDecoration i target index = .ok d') :
    Reads d i d' := by
  obtain ⟨decoration, -, h⟩ := of_bind_eq_ok h
  cases decoration with
  | none =>
    rw [← Except.ok.inj h]
    exact .of_aside hopen hi hop
  | some decoration =>
    rw [← Except.ok.inj h]
    exact .of_aside hopen hi hop

theorem Reads.of_addVariable (hopen : d.openFunction = none) (hi : i.op? = some .variableOp)
    (h : d.addVariable i = .ok d') : Reads d i d' := by
  obtain ⟨typeId, htypeId, h⟩ := of_bind_eq_ok h
  obtain ⟨pointerType, htype, h⟩ := of_bind_eq_ok h
  obtain ⟨id, hid, h⟩ := of_bind_eq_ok h
  obtain ⟨word, hword, h⟩ := of_bind_eq_ok h
  obtain ⟨storage, hstorage, h⟩ := of_bind_eq_ok h
  have hid' := Instruction.of_operand hid
  have hstorage' := Instruction.storage?_of_decode hword hstorage
  have htype' : d.variableType? i = some pointerType := by
    rw [variableType?, Instruction.of_operand htypeId]
    exact lookup_of_typeNode htype
  split at h
  · exact absurd h (by simp)
  · split at h
    · rename_i pointee declared hformer
      have hpointee : d.workspace.pointee? pointerType = some pointee := by
        obtain ⟨node, hn, hformer⟩ := Option.bind_eq_some_iff.mp hformer
        rw [pointee?, hn, Option.bind_some, Node.pointee?, hformer]
      split at h
      · rename_i hinterface
        rw [addInterfaceVariable] at h
        dsimp only at h
        split at h
        · rename_i grown hgrown
          obtain ⟨w, hw, h⟩ := of_bind_eq_ok h
          rw [← Except.ok.inj h]
          refine .interfaceVariable hopen hi ?_ hid' ?_ (hgrown.trans (congrArg some hw)) rfl
          · rw [Instruction.isInterfaceVariable, hi, hstorage']
            exact hinterface
          · rw [variablePointee?, htype']
            exact hpointee
        · exact absurd h (by simp)
      · rename_i hinterface
        rw [← Except.ok.inj h]
        refine .globalVariable hopen hi ?_ hid' hstorage' htype'
          (Option.isSome_of_eq_some hpointee) rfl
        rw [Instruction.isGlobalVariable, hi, hstorage']
        simpa using hinterface
    · exact absurd h (by simp)
    · exact absurd h (by simp)

theorem Reads.of_beginFunction (hopen : d.openFunction = none) (hi : i.op? = some .function)
    (h : d.beginFunction i = .ok d') : Reads d i d' := by
  obtain ⟨resultType, -, h⟩ := of_bind_eq_ok h
  obtain ⟨id, hid, h⟩ := of_bind_eq_ok h
  obtain ⟨control, -, h⟩ := of_bind_eq_ok h
  obtain ⟨typeId, htypeId, h⟩ := of_bind_eq_ok h
  obtain ⟨type, htype, h⟩ := of_bind_eq_ok h
  split at h
  · exact absurd h (by simp)
  · split at h
    · exact absurd h (by simp)
    · rw [← Except.ok.inj h]
      refine .begun hopen hi (Instruction.of_operand hid) ?_ rfl rfl
      rw [Instruction.of_operand htypeId]
      exact lookup_of_typeNode htype

theorem Reads.of_visitInside {f : ShaderFunction} (hopen : d.openFunction = some f)
    (h : d.visitInside f i = .ok d') : Reads d i d' := by
  rw [visitInside] at h
  split at h
  · rename_i hi
    obtain ⟨id, hid, h⟩ := of_bind_eq_ok h
    rw [← Except.ok.inj h]
    exact .parameter hopen hi (Instruction.of_operand hid)
  · rename_i hi
    rw [← Except.ok.inj h]
    exact .ended hopen hi
  · exact absurd h (by simp)
  · rename_i hparameter hend hfunction
    rw [← Except.ok.inj h]
    exact .passed hopen hfunction hparameter hend

theorem Reads.of_visitOutside (hopen : d.openFunction = none) {op : Opcode}
    (hi : i.op? = some op) (h : d.visitOutside op i = .ok d') : Reads d i d' := by
  revert h
  fun_cases visitOutside d op i
  all_goals intro h
  · exact .of_addName hopen hi h
  · obtain ⟨id, -, h⟩ := of_bind_eq_ok h
    exact .of_addDecoration hopen hi (by decide) h
  · obtain ⟨struct, -, h⟩ := of_bind_eq_ok h
    obtain ⟨index, -, h⟩ := of_bind_eq_ok h
    exact .of_addDecoration hopen hi (by decide) h
  · exact absurd h (by simp)
  · exact absurd h (by simp)
  · exact absurd h (by simp)
  · exact .of_addEntryPoint hopen hi h
  · exact .of_addExecutionMode hopen hi h
  · obtain ⟨type, -, h⟩ := of_bind_eq_ok h
    obtain ⟨id, -, h⟩ := of_bind_eq_ok h
    obtain ⟨value, -, h⟩ := of_bind_eq_ok h
    rw [← Except.ok.inj h]
    exact .of_aside hopen hi (by decide)
  · obtain ⟨type, -, h⟩ := of_bind_eq_ok h
    obtain ⟨id, -, h⟩ := of_bind_eq_ok h
    obtain ⟨value, -, h⟩ := of_bind_eq_ok h
    rw [← Except.ok.inj h]
    exact .of_aside hopen hi (by decide)
  · exact .of_addVariable hopen hi h
  · exact .of_beginFunction hopen hi h
  · exact absurd h (by simp)
  · exact absurd h (by simp)
  · rw [if_pos (by assumption)] at h
    obtain ⟨w, types, scalarWidths, rfl, hwidths⟩ := TypesChange.of_declareType h
    exact .of_other hopen hi ⟨by assumption, by assumption, by assumption, by assumption⟩ hwidths
  · rw [if_neg (by assumption)] at h
    rw [← Except.ok.inj h]
    exact .of_aside hopen hi ⟨by assumption, by assumption, by assumption, by assumption⟩

/-- **What an instruction notes is one of these.** -/
theorem reads (h : d.visit i = .ok d') : Reads d i d' := by
  rw [visit] at h
  split at h
  · rename_i hopen
    exact .of_visitInside hopen h
  · rename_i hopen hi
    exact .of_visitOutside hopen hi h
  · rename_i hopen hi
    rw [← Except.ok.inj h]
    exact .other hopen (by simp [hi]) (by simp [hi]) (by simp [hi]) (by simp [hi]) fun _ => Or.inl

end Declarations

end ShaderLowering
