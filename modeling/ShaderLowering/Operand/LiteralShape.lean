import ShaderLowering.Vocabulary.Opcode

/-!
# Which operands are literal numbers

Most operands are ids or enumerants; some are numbers written into the stream. Most
of those take one word, but a case label is as wide as the value switched on and a
constant as wide as its type. Each instruction has a list of shapes, one for each
operand, and the end of the list repeats for as long as there are operands: the last
shape only, except that the operands of a switch go on in pairs of a literal and a
label. Operands are counted as if every literal took one word.
-/

namespace ShaderLowering

/-- What decides the width of a literal operand. -/
inductive LiteralWidth
  /-- It is one word. -/
  | oneWord
  /-- It is as wide as the type of the value that another operand names. -/
  | ofOperand (index : Nat)
  /-- It is as wide as the result type of the instruction. -/
  | ofResultType
  deriving DecidableEq, Repr

/-- The shape of an operand: the width of a literal number, or nothing for every
other kind of operand. -/
abbrev OperandShape := Option LiteralWidth

namespace Opcode

/-- The shapes of an instruction's operands up to the point where they repeat. An
instruction without literal numbers has none listed. -/
def operandShapes : Opcode → List OperandShape
  | .source => [none, some .oneWord, none, none]
  | .memberName => [none, some .oneWord, none]
  | .line => [none, some .oneWord, some .oneWord]
  | .typeInt => [none, some .oneWord, some .oneWord]
  | .typeFloat => [none, some .oneWord]
  | .typeVector => [none, none, some .oneWord]
  | .typeMatrix => [none, none, some .oneWord]
  | .typeImage =>
    [none, none, none, some .oneWord, some .oneWord, some .oneWord, some .oneWord, none, none]
  | .constantSampler => [none, none, none, some .oneWord, none]
  | .arrayLength => [none, none, none, some .oneWord]
  | .memberDecorate => [none, some .oneWord, none]
  | .groupMemberDecorate => [none, some .oneWord]
  | .vectorShuffle => [none, none, none, none, some .oneWord]
  | .compositeExtract => [none, none, none, some .oneWord]
  | .compositeInsert => [none, none, none, none, some .oneWord]
  | .branchConditional => [none, none, none, some .oneWord]
  | .lifetimeStart => [none, some .oneWord]
  | .lifetimeStop => [none, some .oneWord]
  | .constantPipeStorage => [none, none, some .oneWord, some .oneWord, some .oneWord]
  | .switch => [none, none, some (.ofOperand 0), none]
  | .constant => [none, none, some .ofResultType]
  | .specConstant => [none, none, some .ofResultType]
  | _ => []

/-- How many shapes at the end of the list repeat. -/
def repeatingTail : Opcode → Nat
  | .switch => 2
  | _ => 1

/-- The shape of the operand at an index. Past the end of the list, the index is
brought back into the repeating tail. -/
def operandShape (op : Opcode) (index : Nat) : OperandShape :=
  let shapes := op.operandShapes
  if index < shapes.length then
    (shapes[index]?).join
  else
    let tailLength := min op.repeatingTail shapes.length
    let tailStart := shapes.length - tailLength
    (shapes[tailStart + (index - tailStart) % tailLength]?).join

end Opcode

/-- The shape of an operand of the instruction with the given name; names that the
grammar does not have are those of no instruction. -/
def operandShapeOf (mnemonic : String) (index : Nat) : OperandShape :=
  match Opcode.ofMnemonic? mnemonic with
  | some op => op.operandShape index
  | none => none

end ShaderLowering
