import ShaderLowering.Diagnostic

/-!
# Literal strings

A string among the operands of an instruction is its UTF-8 bytes, a zero byte, and
as many more zeros as fill the last word, packed into words from the least
significant byte up. The terminator always takes room, so a text whose length is a
multiple of four is followed by a word of zeros.
-/

namespace ShaderLowering

namespace LiteralString

/-- Bytes packed into words, the last word filled up with zeros. -/
def pack : List UInt8 → List Word
  | [] => []
  | [a] => [Word.ofBytes a 0 0 0]
  | [a, b] => [Word.ofBytes a b 0 0]
  | [a, b, c] => [Word.ofBytes a b c 0]
  | a :: b :: c :: d :: rest => Word.ofBytes a b c d :: pack rest

/-- The words of a text. -/
def encode (text : String) : List Word :=
  pack (Utf8.encode text ++ [0])

/-- The text at the front of a list of words, and the number of words it takes, the
terminator included. What follows the terminator is not looked at. -/
def decode (words : List Word) : Except StringFault (String × Nat) :=
  let bytes := words.flatMap Word.bytes
  let text := bytes.takeWhile (· ≠ 0)
  if text.length = bytes.length then .error .unterminated
  else
    match Utf8.decode text with
    | .ok s => .ok (s, text.length / 4 + 1)
    | .error fault => .error (.notUtf8 fault)

end LiteralString

end ShaderLowering
