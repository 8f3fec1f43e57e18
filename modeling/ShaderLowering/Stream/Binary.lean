import ShaderLowering.Diagnostic

/-!
# Binaries

A shader on disk is bytes. They are words if there are four to each word and the
first word is the magic number, and the way the magic number is written tells the
order in which all the words are.
-/

namespace ShaderLowering

/-- The words of a binary, in the byte order its magic number gives away. A length
that leaves bytes over is reported before anything else, at the word it breaks off
in. -/
def wordsOfBinary (bytes : List UInt8) : Except Diagnostic (List Word) :=
  if bytes.length % 4 ≠ 0 then
    .error (.pointing (bytes.length / 4) (.raggedBinary bytes.length))
  else
    match ByteOrder.ofMagic? bytes with
    | some order => .ok (order.readAll bytes)
    | none => .error (.pointing 0 .badMagic)

/-- The binary that holds the given words in the given order. -/
def binaryOfWords (order : ByteOrder) (words : List Word) : List UInt8 :=
  words.flatMap order.write

end ShaderLowering
