import ShaderLowering.Lowering.Declarations

/-!
# Type declarations

What each instruction that declares a type adds to the declarations. Most types are
only noted as nodes, to be produced when they are needed: an array of a struct may be
declared before everything the struct points to is known. Vectors and matrices are
produced at once.
-/

namespace ShaderLowering

namespace Declarations

/-- What the target makes of a request, a refusal being reported at an instruction. -/
def madeFor {α : Type} (i : Instruction) (result : Except TypeFault α) : Except Diagnostic α :=
  result.mapError fun fault => i.diagnose (.refusedType fault)

/-- Declares an integer or floating-point type of the width in its second operand, and
notes the width for constants of the type. -/
def declareScalar (d : Declarations) (i : Instruction) (id : Id)
    (make : Nat → Except TypeFault (Ty × TypeArena)) : Except Diagnostic Declarations := do
  let width ← i.operand 1
  let made ← madeFor i (make width.toNat)
  let d ← d.defineSimple i id made
  return { d with scalarWidths := (id, width.toNat) :: d.scalarWidths }

/-- Declares a vector or a matrix, which is as many of its components or columns as its
third operand says. They are produced now. -/
def declareVector (d : Declarations) (i : Instruction) (id : Id)
    (make : TypeArena → Ty → Nat → Except TypeFault (Ty × TypeArena)) :
    Except Diagnostic Declarations := do
  let component ← d.typeNode i (← i.operand 1)
  let count ← i.operand 2
  let (component, workspace) := d.workspace.produce component true
  let made ← madeFor i (make workspace.arena (← component) count.toNat)
  { d with workspace }.defineSimple i id made

/-- Declares an array whose length is the value of a constant. -/
def declareArray (d : Declarations) (i : Instruction) (id : Id) :
    Except Diagnostic Declarations := do
  let element ← d.typeNode i (← i.operand 1)
  let length ← i.operand 2
  match d.constants.lookup length with
  | some count => d.defineFormed i id (.array element count)
  | none => .error (i.diagnose (.lengthNotConstant length))

/-- Declares an array whose length is left open. -/
def declareRuntimeArray (d : Declarations) (i : Instruction) (id : Id) :
    Except Diagnostic Declarations := do
  let element ← d.typeNode i (← i.operand 1)
  d.defineFormed i id (.array element 0)

/-- Declares a struct, whose members get the decorations attached to them so far and
which is called by the name its id has so far. -/
def declareStruct (d : Declarations) (i : Instruction) (id : Id) :
    Except Diagnostic Declarations := do
  let types ← (i.operandsFrom 1).mapM (d.typeNode i)
  let members := types.mapIdx fun index type =>
    { decorations := d.decorationsOf (.member id index), type : Member }
  let name := d.nameOf id s!"struct_{id}"
  d.define i id (d.workspace.addStruct name members i.start)

/-- Declares a pointer whose pointee will be given later. -/
def declareForwardPointer (d : Declarations) (i : Instruction) (id : Id) :
    Except Diagnostic Declarations := do
  let storage ← Enumerant.decode (← i.operand 1) i.start
  d.defineFormed i id (.pointer none storage)

/-- Declares a pointer, or gives a pointer declared before its pointee. -/
def declarePointer (d : Declarations) (i : Instruction) (id : Id) :
    Except Diagnostic Declarations := do
  let storage ← Enumerant.decode (← i.operand 1) i.start
  let pointee ← d.typeNode i (← i.operand 2)
  match d.types.lookup id with
  | none => d.defineFormed i id (.pointer (some pointee) storage)
  | some forward =>
    match (d.workspace.node? forward).bind Node.former? with
    | some (.pointer none declared) =>
      if declared ≠ storage then
        .error (i.diagnose (.storageClassChanged id declared storage))
      else
        match d.workspace.bind? forward pointee with
        | some bound => return { d with workspace := ← bound }
        | none => .error (i.diagnose (.alreadyDefined id))
    | _ => .error (i.diagnose (.alreadyDefined id))

/-- Declares a function type. -/
def declareFunctionType (d : Declarations) (i : Instruction) (id : Id) :
    Except Diagnostic Declarations := do
  let result ← d.typeNode i (← i.operand 1)
  let args ← (i.operandsFrom 2).mapM (d.typeNode i)
  d.defineFormed i id (.function result args false)

/-- Declares the type that an instruction defines. -/
def declareType (d : Declarations) (op : Opcode) (i : Instruction) :
    Except Diagnostic Declarations := do
  let id ← i.operand 0
  let arena := d.workspace.arena
  match op with
  | .typeVoid => d.defineSimple i id arena.void
  | .typeBool => d.defineSimple i id arena.bool
  | .typeInt => d.declareScalar i id arena.int
  | .typeFloat => d.declareScalar i id arena.float
  | .typeVector => d.declareVector i id TypeArena.vector
  | .typeMatrix =>
    d.declareVector i id fun arena column count => .ok (arena.array column count)
  | .typeArray => d.declareArray i id
  | .typeRuntimeArray => d.declareRuntimeArray i id
  | .typeStruct => d.declareStruct i id
  | .typeForwardPointer => d.declareForwardPointer i id
  | .typePointer => d.declarePointer i id
  | .typeFunction => d.declareFunctionType i id
  | _ => .error (i.diagnose (.unsupportedType op))

end Declarations

end ShaderLowering
