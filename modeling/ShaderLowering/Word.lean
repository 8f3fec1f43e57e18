/-!
# Words and the bytes they are written with

A shader binary is a sequence of 32-bit words. On disk a word is four bytes, and
the format leaves it to the writer which end comes first: a reader finds out from
the first word, whose value is fixed. This file has the words, the two orders and
the passage between a word and its bytes, all of it as place-value arithmetic in
base 256, so that what is proved about it is proved about natural numbers.
-/

namespace ShaderLowering

/-- A word of a shader binary. -/
abbrev Word := UInt32

/-- The number by which instructions refer to a type, a value or a function. -/
abbrev Id := Word

namespace Word

/-- The byte of a word at the place worth `unit`: the places are worth 1, 256, 65536
and 16777216. -/
def byteAt (w : Word) (unit : Nat) : UInt8 :=
  UInt8.ofNat (w.toNat / unit % 256)

/-- The word with the given bytes, the least significant one first. -/
def ofBytes (b₀ b₁ b₂ b₃ : UInt8) : Word :=
  UInt32.ofNat (b₀.toNat + 256 * b₁.toNat + 65536 * b₂.toNat + 16777216 * b₃.toNat)

/-- The four bytes of a word, the least significant one first. -/
def bytes (w : Word) : List UInt8 :=
  [byteAt w 1, byteAt w 256, byteAt w 65536, byteAt w 16777216]

/-- The word read from the other end: the same bytes in the opposite order. -/
def swapped (w : Word) : Word :=
  ofBytes (byteAt w 16777216) (byteAt w 65536) (byteAt w 256) (byteAt w 1)

/-- The number that every shader binary begins with. -/
def magic : Word := 0x07230203

end Word

/-- Which end of a word comes first when the word is written as bytes. -/
inductive ByteOrder
  | littleEndian
  | bigEndian
  deriving DecidableEq, Repr

namespace ByteOrder

/-- The four bytes of a word in the given order. -/
def write : ByteOrder → Word → List UInt8
  | .littleEndian, w => Word.bytes w
  | .bigEndian, w => (Word.bytes w).reverse

/-- The word that four bytes stand for in the given order. -/
def read : ByteOrder → UInt8 → UInt8 → UInt8 → UInt8 → Word
  | .littleEndian, a, b, c, d => Word.ofBytes a b c d
  | .bigEndian, a, b, c, d => Word.ofBytes d c b a

/-- The words that a sequence of bytes stands for, four bytes to a word. Bytes
that do not fill a last word are dropped. -/
def readAll (order : ByteOrder) : List UInt8 → List Word
  | a :: b :: c :: d :: rest => order.read a b c d :: readAll order rest
  | _ => []

/-- The order in which a binary was written, judged by its first four bytes,
which have to spell the magic number one way or the other. -/
def ofMagic? (bytes : List UInt8) : Option ByteOrder :=
  if bytes.take 4 = littleEndian.write Word.magic then some littleEndian
  else if bytes.take 4 = bigEndian.write Word.magic then some bigEndian
  else none

end ByteOrder

end ShaderLowering
