import ShaderLowering.Operand.LiteralShape
import ShaderLowering.Stream.Instruction

/-!
# Reading literal numbers

A literal number takes as many words as its width needs, the least significant word
first, and at least one. Where the width hangs on a type, the reader of the literal
is asked for it; a width fixed by the instruction is never asked for. Numbers of
more than two words are not read.
-/

namespace ShaderLowering

/-- The number of words that a literal of the given width takes. -/
def literalWordCount (width : Nat) : Nat :=
  (max width 1 + 31) / 32

/-- The number that words stand for, the least significant word first. -/
def valueOfWords (words : List Word) : Nat :=
  words.foldr (fun w value => w.toNat + UInt32.size * value) 0

namespace Instruction

/-- The shape of the operand at an index, if the instruction is a known one. -/
def shape (i : Instruction) (index : Nat) : OperandShape :=
  i.op?.bind fun op => op.operandShape index

/-- The shape a reader is asked to turn into a width, if the operand is a literal
whose width is not fixed. -/
def askedShape? (i : Instruction) (index : Nat) : Option LiteralWidth :=
  match i.shape index with
  | some .oneWord => none
  | shape => shape

/-- The literal number at an index, with `widthOf` giving the width that a shape
stands for here. -/
def literalNumber (i : Instruction) (index : Nat)
    (widthOf : LiteralWidth → Except Diagnostic Nat) : Except Diagnostic Nat := do
  let width ←
    match i.shape index with
    | some .oneWord => .ok 32
    | some shape => widthOf shape
    | none => .error (i.diagnose (.notALiteral index i.op?))
  let wordCount := literalWordCount width
  let words := i.operandsFrom index
  if 2 < wordCount then
    .error (i.diagnose (.literalTooWide width))
  else if words.length < wordCount then
    .error (i.diagnose (.literalCutShort width wordCount words.length))
  else
    return valueOfWords (words.take wordCount)

end Instruction

end ShaderLowering
