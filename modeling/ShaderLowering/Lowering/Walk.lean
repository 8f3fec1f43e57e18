import ShaderLowering.Lowering.TypeDeclaration
import ShaderLowering.Operand.LiteralNumber

/-!
# The walk over the instructions

Each instruction either adds to the declarations, or is passed over, or is refused.
Which of these it is depends on whether a function is being read: inside a function
only its parameters and its end matter, and everything else is passed over, known or
unknown; outside, unknown instructions are passed over and so are known ones that
declare nothing the lowering needs.
-/

namespace ShaderLowering

namespace Declarations

/-! ### Names and decorations -/

/-- Notes the name of an id. A later name replaces an earlier one. -/
def addName (d : Declarations) (i : Instruction) : Except Diagnostic Declarations := do
  let id ← i.operand 0
  let (name, _) ← i.literalString 1
  return { d with names := (id, name) :: d.names }

/-- The decoration that begins at an operand. Unknown decorations, and those with more
parameters than there is room for, count as none. -/
def readDecoration (i : Instruction) (index : Nat) : Except Diagnostic (Option Decoration) := do
  let kind ← i.operand index
  return (Enumerant.ofWord? kind).bind fun kind =>
    Decoration.ofParameters? kind (i.operandsFrom (index + 1))

/-- Notes the decoration that begins at an operand, if it counts. -/
def addDecoration (d : Declarations) (i : Instruction) (target : DecorationTarget)
    (index : Nat) : Except Diagnostic Declarations := do
  match ← readDecoration i index with
  | some decoration => return { d with decorations := d.decorations ++ [(target, decoration)] }
  | none => return d

/-- Notes a decoration of an id. -/
def decorate (d : Declarations) (i : Instruction) : Except Diagnostic Declarations := do
  let id ← i.operand 0
  d.addDecoration i (.object id) 1

/-- Notes a decoration of a member of a struct. -/
def decorateMember (d : Declarations) (i : Instruction) : Except Diagnostic Declarations := do
  let struct ← i.operand 0
  let index ← i.operand 1
  d.addDecoration i (.member struct index.toNat) 2

/-! ### Entry points -/

/-- Notes an entry point. -/
def addEntryPoint (d : Declarations) (i : Instruction) : Except Diagnostic Declarations := do
  let model ← Enumerant.decode (← i.operand 0) i.start
  let function ← i.operand 1
  let (name, next) ← i.literalString 2
  let interface := i.operandsFrom next
  let entryPoint := { name, model, function, interface, start := i.start }
  return { d with entryPoints := d.entryPoints ++ [entryPoint] }

/-- The workgroup size that a mode brings with it, if it is one that does. -/
def readLocalSize (i : Instruction) :
    ExecutionMode → Except Diagnostic (Option LocalSize)
  | .localSize => do
    let x ← i.operand 2
    let y ← i.operand 3
    let z ← i.operand 4
    return some ⟨x, y, z⟩
  | _ => return none

/-- Records an execution mode with every entry point of its function. Modes that are not
recorded are passed over. -/
def addExecutionMode (d : Declarations) (i : Instruction) : Except Diagnostic Declarations := do
  let function ← i.operand 0
  match Enumerant.ofWord? (← i.operand 1) with
  | none => return d
  | some mode =>
    let size ← readLocalSize i mode
    if d.entryPoints.any fun e => e.function = function then
      let record (e : ShaderEntryPoint) : ShaderEntryPoint :=
        if e.function = function then
          { e with modes := e.modes ++ [mode], localSize := size.or e.localSize }
        else e
      return { d with entryPoints := d.entryPoints.map record }
    else
      .error (i.diagnose (.modeWithoutEntryPoint function))

/-! ### Constants and variables -/

/-- Notes the value of a constant, which is as wide as its type. -/
def addConstant (d : Declarations) (i : Instruction) : Except Diagnostic Declarations := do
  let type ← i.operand 0
  let id ← i.operand 1
  let value ← i.literalNumber 2 fun
    | .ofResultType =>
      match d.scalarWidths.lookup type with
      | some width => .ok width
      | none => .error (i.diagnose (.constantNotScalar type))
    | _ => .error (i.diagnose .unexpectedLiteral)
  return { d with constants := (id, value) :: d.constants }

/-- The interface, made now if there is none yet. -/
def openInterface (d : Declarations) (start : Nat) : Interface × Workspace :=
  match d.interface with
  | some interface => (interface, d.workspace)
  | none =>
    let (node, workspace) := d.workspace.addStruct interfaceStructName [] start
    ({ node }, workspace)

/-- Adds a variable to the interface as the struct's next member. -/
def addInterfaceVariable (d : Declarations) (i : Instruction) (id : Id) (pointee : NodeId) :
    Except Diagnostic Declarations :=
  let (interface, workspace) := d.openInterface i.start
  let member := { decorations := d.decorationsOf (.object id), type := pointee : Member }
  match workspace.addMember? interface.node member with
  | some grown => do
    let members := interface.members ++ [⟨id, i.start⟩]
    return { d with workspace := ← grown, interface := some { interface with members } }
  | none => .error (i.diagnose .interfaceNotAStruct)

/-- Notes a variable: as a member of the interface if it is an input or an output, as a
global if not. -/
def addVariable (d : Declarations) (i : Instruction) : Except Diagnostic Declarations := do
  let pointerType ← d.typeNode i (← i.operand 0)
  let id ← i.operand 1
  let storage : StorageClass ← Enumerant.decode (← i.operand 2) i.start
  if storage = .function then
    .error (i.diagnose (.functionStorage id))
  else
    match (d.workspace.node? pointerType).bind Node.former? with
    | some (.pointer (some pointee) _) =>
      if storage.isInterface then
        d.addInterfaceVariable i id pointee
      else
        let global : ShaderGlobal := { id, pointerType, storage, start := i.start }
        return { d with globals := d.globals ++ [global] }
    | some (.pointer none _) => .error (i.diagnose (.forwardDeclaredPointer id))
    | _ => .error (i.diagnose (.notAPointer id))

/-! ### Functions -/

/-- Begins to read a function. -/
def beginFunction (d : Declarations) (i : Instruction) : Except Diagnostic Declarations := do
  let resultType ← i.operand 0
  let id ← i.operand 1
  let control := FunctionControl.ofWord (← i.operand 2)
  let type ← d.typeNode i (← i.operand 3)
  if !(d.workspace.node? type).any Node.isFunction then
    .error (i.diagnose (.nonFunctionType id))
  else if (d.types.lookup resultType).isNone then
    .error (i.diagnose (.unknownResultType id resultType))
  else
    return { d with openFunction := some { id, type, control, start := i.start } }

/-- Reads an instruction inside a function. -/
def visitInside (d : Declarations) (f : ShaderFunction) (i : Instruction) :
    Except Diagnostic Declarations :=
  match i.op? with
  | some .functionParameter => do
    let id ← i.operand 1
    return { d with openFunction := some { f with parameters := f.parameters ++ [id] } }
  | some .functionEnd => .ok { d with openFunction := none, functions := d.functions ++ [f] }
  | some .function => .error (i.diagnose .nestedFunction)
  | _ => .ok d

/-- Reads an instruction outside of any function. -/
def visitOutside (d : Declarations) (op : Opcode) (i : Instruction) :
    Except Diagnostic Declarations :=
  match op with
  | .name => d.addName i
  | .decorate => d.decorate i
  | .memberDecorate => d.decorateMember i
  | .decorationGroup | .groupDecorate | .groupMemberDecorate =>
    .error (i.diagnose (.unsupportedInstruction op))
  | .entryPoint => d.addEntryPoint i
  | .executionMode => d.addExecutionMode i
  | .constant | .specConstant => d.addConstant i
  | .variableOp => d.addVariable i
  | .function => d.beginFunction i
  | .functionParameter | .functionEnd => .error (i.diagnose (.outsideFunction op))
  | _ => if op.isTypeDeclaration then d.declareType op i else .ok d

/-- Reads an instruction. -/
def visit (d : Declarations) (i : Instruction) : Except Diagnostic Declarations :=
  match d.openFunction, i.op? with
  | some f, _ => d.visitInside f i
  | none, some op => d.visitOutside op i
  | none, none => .ok d

/-- What the instructions of a shader declare, the types of the target that are there
already being those of `arena`. -/
def ofInstructions (arena : TypeArena) (instructions : List Instruction) :
    Except Diagnostic Declarations :=
  instructions.foldlM visit { workspace := { arena } }

end Declarations

end ShaderLowering
