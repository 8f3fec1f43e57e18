import ShaderLowering.Vocabulary.Enumerant

/-!
# Instructions by name

The instructions that the lowering acts on, together with those whose operands it
can describe. A stream may hold others; they keep their bare number and are passed
over wherever the format allows it.
-/

namespace ShaderLowering

/-- The instructions the lowering knows of. -/
inductive Opcode
  | nop | undef | sourceContinued | source | sourceExtension | name | memberName | string
  | line | extension | extInstImport | memoryModel | entryPoint | executionMode
  | capability | typeVoid | typeBool | typeInt | typeFloat | typeVector | typeMatrix
  | typeImage | typeSampler | typeSampledImage | typeArray | typeRuntimeArray | typeStruct
  | typeOpaque | typePointer | typeFunction | typeEvent | typeDeviceEvent | typeReserveId
  | typeQueue | typePipe | typeForwardPointer | constantTrue | constantFalse | constant
  | constantComposite | constantSampler | constantNull | specConstantTrue
  | specConstantFalse | specConstant | specConstantComposite | specConstantOp | function
  | functionParameter | functionEnd | variableOp | arrayLength | decorate | memberDecorate
  | decorationGroup | groupDecorate | groupMemberDecorate | vectorShuffle
  | compositeExtract | compositeInsert | branchConditional | switch | lifetimeStart
  | lifetimeStop | noLine | constantPipeStorage | moduleProcessed
  deriving DecidableEq, Repr

namespace Opcode

/-- Every instruction, by ascending number. -/
def all : List Opcode :=
  [.nop, .undef, .sourceContinued, .source, .sourceExtension, .name, .memberName, .string,
   .line, .extension, .extInstImport, .memoryModel, .entryPoint, .executionMode,
   .capability, .typeVoid, .typeBool, .typeInt, .typeFloat, .typeVector, .typeMatrix,
   .typeImage, .typeSampler, .typeSampledImage, .typeArray, .typeRuntimeArray, .typeStruct,
   .typeOpaque, .typePointer, .typeFunction, .typeEvent, .typeDeviceEvent, .typeReserveId,
   .typeQueue, .typePipe, .typeForwardPointer, .constantTrue, .constantFalse, .constant,
   .constantComposite, .constantSampler, .constantNull, .specConstantTrue,
   .specConstantFalse, .specConstant, .specConstantComposite, .specConstantOp, .function,
   .functionParameter, .functionEnd, .variableOp, .arrayLength, .decorate, .memberDecorate,
   .decorationGroup, .groupDecorate, .groupMemberDecorate, .vectorShuffle,
   .compositeExtract, .compositeInsert, .branchConditional, .switch, .lifetimeStart,
   .lifetimeStop, .noLine, .constantPipeStorage, .moduleProcessed]

/-- The number a stream writes for the value, and its name in the format. -/
def entry : Opcode → Nat × String
  | .nop => (0, "Nop")
  | .undef => (1, "Undef")
  | .sourceContinued => (2, "SourceContinued")
  | .source => (3, "Source")
  | .sourceExtension => (4, "SourceExtension")
  | .name => (5, "Name")
  | .memberName => (6, "MemberName")
  | .string => (7, "String")
  | .line => (8, "Line")
  | .extension => (10, "Extension")
  | .extInstImport => (11, "ExtInstImport")
  | .memoryModel => (14, "MemoryModel")
  | .entryPoint => (15, "EntryPoint")
  | .executionMode => (16, "ExecutionMode")
  | .capability => (17, "Capability")
  | .typeVoid => (19, "TypeVoid")
  | .typeBool => (20, "TypeBool")
  | .typeInt => (21, "TypeInt")
  | .typeFloat => (22, "TypeFloat")
  | .typeVector => (23, "TypeVector")
  | .typeMatrix => (24, "TypeMatrix")
  | .typeImage => (25, "TypeImage")
  | .typeSampler => (26, "TypeSampler")
  | .typeSampledImage => (27, "TypeSampledImage")
  | .typeArray => (28, "TypeArray")
  | .typeRuntimeArray => (29, "TypeRuntimeArray")
  | .typeStruct => (30, "TypeStruct")
  | .typeOpaque => (31, "TypeOpaque")
  | .typePointer => (32, "TypePointer")
  | .typeFunction => (33, "TypeFunction")
  | .typeEvent => (34, "TypeEvent")
  | .typeDeviceEvent => (35, "TypeDeviceEvent")
  | .typeReserveId => (36, "TypeReserveId")
  | .typeQueue => (37, "TypeQueue")
  | .typePipe => (38, "TypePipe")
  | .typeForwardPointer => (39, "TypeForwardPointer")
  | .constantTrue => (41, "ConstantTrue")
  | .constantFalse => (42, "ConstantFalse")
  | .constant => (43, "Constant")
  | .constantComposite => (44, "ConstantComposite")
  | .constantSampler => (45, "ConstantSampler")
  | .constantNull => (46, "ConstantNull")
  | .specConstantTrue => (48, "SpecConstantTrue")
  | .specConstantFalse => (49, "SpecConstantFalse")
  | .specConstant => (50, "SpecConstant")
  | .specConstantComposite => (51, "SpecConstantComposite")
  | .specConstantOp => (52, "SpecConstantOp")
  | .function => (54, "Function")
  | .functionParameter => (55, "FunctionParameter")
  | .functionEnd => (56, "FunctionEnd")
  | .variableOp => (59, "Variable")
  | .arrayLength => (68, "ArrayLength")
  | .decorate => (71, "Decorate")
  | .memberDecorate => (72, "MemberDecorate")
  | .decorationGroup => (73, "DecorationGroup")
  | .groupDecorate => (74, "GroupDecorate")
  | .groupMemberDecorate => (75, "GroupMemberDecorate")
  | .vectorShuffle => (79, "VectorShuffle")
  | .compositeExtract => (81, "CompositeExtract")
  | .compositeInsert => (82, "CompositeInsert")
  | .branchConditional => (250, "BranchConditional")
  | .switch => (251, "Switch")
  | .lifetimeStart => (256, "LifetimeStart")
  | .lifetimeStop => (257, "LifetimeStop")
  | .noLine => (317, "NoLine")
  | .constantPipeStorage => (323, "ConstantPipeStorage")
  | .moduleProcessed => (330, "ModuleProcessed")

instance : Enumerant Opcode where
  kind := "Opcode"
  all := all
  entry := entry
  find_entry := by intro a; cases a <;> rfl

/-- The name of the instruction in the format's grammar, such as OpTypeInt. -/
def mnemonic (op : Opcode) : String :=
  "Op" ++ Enumerant.label op

/-- The instruction that the grammar calls by the given name. -/
def ofMnemonic? (text : String) : Option Opcode :=
  all.find? fun op => op.mnemonic == text

/-- The instruction declares a type. The declarations occupy an interval of
numbers, and not all of them can be lowered. -/
def isTypeDeclaration (op : Opcode) : Bool :=
  Enumerant.code typeVoid ≤ Enumerant.code op &&
    Enumerant.code op ≤ Enumerant.code typeForwardPointer

end Opcode

end ShaderLowering
