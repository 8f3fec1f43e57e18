import ShaderLowering.Stream.Instruction

/-!
# Shader modules

A shader module is a header of five words and the instructions after it. The header
names a version, of which only the minor part is free, the generator that wrote the
module, and a bound on its ids.

Words that were read from the wrong end show it: their first is the magic number
with its bytes swapped. Such words are swapped back before anything is read, so the
order in which a module was written has no bearing on what it is.
-/

namespace ShaderLowering

/-- The header of a module. -/
structure Header where
  /-- The version before the point. -/
  major : Nat
  /-- The version after the point. -/
  minor : Nat
  /-- The tool that wrote the module. -/
  generator : Word
  /-- All ids are below this. -/
  idBound : Word
  deriving DecidableEq, Repr

/-- A decoded shader. -/
structure ShaderModule where
  /-- What the module says about itself. -/
  header : Header
  /-- Its instructions in the order of the stream. -/
  instructions : List Instruction
  deriving DecidableEq, Repr

namespace Header

/-- The number of words in a header. -/
def wordCount : Nat := 5

/-- The header at the front of a module. -/
def read : List Word → Except Diagnostic Header
  | magic :: version :: generator :: idBound :: schema :: _ =>
    let major := version.toNat / 65536 % 256
    let minor := version.toNat / 256 % 256
    if magic ≠ Word.magic then .error (.pointing 0 .badMagic)
    else if major ≠ 1 then .error (.pointing 1 (.unsupportedVersion major minor))
    else if schema ≠ 0 then .error (.pointing 4 (.unsupportedSchema schema))
    else .ok ⟨major, minor, generator, idBound⟩
  | words => .error ⟨0, words.length, .headerTooShort⟩

end Header

namespace ShaderModule

/-- The words of a module with their bytes in the right order. -/
def upright (words : List Word) : List Word :=
  if words.head? = some (Word.swapped Word.magic) then words.map Word.swapped else words

/-- The module that a sequence of words holds. -/
def read (words : List Word) : Except Diagnostic ShaderModule := do
  let words := upright words
  let header ← Header.read words
  let instructions ← Instruction.readAll Header.wordCount (words.drop Header.wordCount)
  return ⟨header, instructions⟩

end ShaderModule

end ShaderLowering
