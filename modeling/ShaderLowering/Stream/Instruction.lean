import ShaderLowering.Stream.LiteralString

/-!
# Instructions

The first word of an instruction has its number in the low half and its length in
words in the high half; the words after it are operands. An instruction remembers
where in the stream it stood, so that whatever is found wrong with it later can be
reported there.
-/

namespace ShaderLowering

/-- One instruction of a shader. -/
structure Instruction where
  /-- Its number. -/
  opcode : UInt16
  /-- The words after the first. -/
  operands : List Word
  /-- The place of its first word in the stream. -/
  start : Nat
  /-- The place after its last word. -/
  stop : Nat
  deriving DecidableEq, Repr

namespace Instruction

/-- What the instruction is, if it is a known one. -/
def op? (i : Instruction) : Option Opcode :=
  Enumerant.ofCode? i.opcode.toNat

/-- A diagnostic about the whole instruction. -/
def diagnose (i : Instruction) (cause : Cause) : Diagnostic :=
  ⟨i.start, i.stop, cause⟩

/-- The operand at an index. -/
def operand (i : Instruction) (index : Nat) : Except Diagnostic Word :=
  match i.operands[index]? with
  | some w => .ok w
  | none => .error (i.diagnose (.missingOperand i.op? index))

/-- The operands from an index on. -/
def operandsFrom (i : Instruction) (index : Nat) : List Word :=
  i.operands.drop index

/-- The literal string that begins at an index, and the index of the operand after
it. -/
def literalString (i : Instruction) (index : Nat) : Except Diagnostic (String × Nat) :=
  match LiteralString.decode (i.operandsFrom index) with
  | .ok (text, length) => .ok (text, index + length)
  | .error fault => .error (i.diagnose (.badString fault))

/-- The words of an instruction. -/
def encode (i : Instruction) : List Word :=
  UInt32.ofNat ((i.operands.length + 1) * 65536 + i.opcode.toNat) :: i.operands

/-- The instruction whose first word is `first` and stands at `start`, when the
words `rest` follow. -/
def read (start : Nat) (first : Word) (rest : List Word) : Except Diagnostic Instruction :=
  let wordCount := first.toNat / 65536
  if wordCount = 0 then
    .error (.pointing start .zeroWordCount)
  else if rest.length + 1 < wordCount then
    .error ⟨start, start + (rest.length + 1), .runsPastEnd wordCount⟩
  else
    .ok ⟨UInt16.ofNat (first.toNat % 65536), rest.take (wordCount - 1), start, start + wordCount⟩

/-- The instructions that words standing at `start` split into. Each is read off the
front and takes at least its first word, so the words run out. -/
def readAll (start : Nat) : List Word → Except Diagnostic (List Instruction)
  | [] => .ok []
  | first :: rest => do
    let i ← read start first rest
    let others ← readAll i.stop (rest.drop i.operands.length)
    return i :: others
termination_by words => words.length
decreasing_by
  simp only [List.length_drop, List.length_cons]
  omega

end Instruction

end ShaderLowering
