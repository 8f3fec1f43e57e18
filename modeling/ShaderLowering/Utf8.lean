/-!
# Text as UTF-8

Names in a shader binary are UTF-8. The encoder writes a character as one to four
bytes by its size; the decoder accepts exactly the shortest forms of the Unicode
scalar values, and where it refuses it tells *how* the bytes went wrong: whether
they break off inside a character that could still have become valid, or else how
long the longest stretch is that could begin a character.

What a first byte promises is a `Lead`: the number of continuation bytes to come,
and the range that the first of them has to lie in. The range is where overlong
forms, surrogates and values beyond the last plane are refused, which is why such
a form is found wrong at its second byte and not at its last.
-/

namespace ShaderLowering

namespace Utf8

/-- How a sequence of bytes fails to be UTF-8. -/
inductive Fault
  /-- At `index` stand `length` bytes that begin no valid character, the longest
  such stretch that could have begun one. -/
  | invalid (length index : Nat)
  /-- The bytes end inside the character that begins at `index`. -/
  | incomplete (index : Nat)
  deriving DecidableEq, Repr

/-- The wording of a fault. -/
def Fault.message : Fault → String
  | .invalid length index => s!"invalid utf-8 sequence of {length} bytes from index {index}"
  | .incomplete index => s!"incomplete utf-8 byte sequence from index {index}"

/-! ### Encoding -/

/-- The continuation byte for the six bits of a code point at the place worth
`unit`. -/
def continuation (n unit : Nat) : UInt8 :=
  UInt8.ofNat (0x80 + n / unit % 64)

/-- The bytes of one character: its code point in base 64, the leading digit marked
with the number of bytes and the others as continuations. -/
def encodeChar (c : Char) : List UInt8 :=
  let n := c.toNat
  if n < 0x80 then [UInt8.ofNat n]
  else if n < 0x800 then [UInt8.ofNat (0xC0 + n / 64), continuation n 1]
  else if n < 0x10000 then
    [UInt8.ofNat (0xE0 + n / 4096), continuation n 64, continuation n 1]
  else
    [UInt8.ofNat (0xF0 + n / 262144), continuation n 4096, continuation n 64, continuation n 1]

/-- The bytes of a text. -/
def encode (text : String) : List UInt8 :=
  text.toList.flatMap encodeChar

/-! ### Decoding -/

/-- What the first byte of a character promises. -/
inductive Lead
  /-- The byte is the whole character. -/
  | single
  /-- One continuation byte follows. -/
  | two
  /-- Two continuation bytes follow, the first of them from `low` to `high`. -/
  | three (low high : UInt8)
  /-- Three continuation bytes follow, the first of them from `low` to `high`. -/
  | four (low high : UInt8)

/-- What a byte promises as the first of a character; some promise nothing. -/
def Lead.ofByte? (b : UInt8) : Option Lead :=
  if b < 0x80 then some .single
  else if b < 0xC2 then none
  else if b < 0xE0 then some .two
  else if b = 0xE0 then some (.three 0xA0 0xBF)
  else if b = 0xED then some (.three 0x80 0x9F)
  else if b < 0xF0 then some (.three 0x80 0xBF)
  else if b = 0xF0 then some (.four 0x90 0xBF)
  else if b < 0xF4 then some (.four 0x80 0xBF)
  else if b = 0xF4 then some (.four 0x80 0x8F)
  else none

/-- A byte lies in a range of bytes, both ends included. -/
def within (low high b : UInt8) : Bool :=
  low ≤ b && b ≤ high

/-- A byte can continue a character. -/
def isContinuation (b : UInt8) : Bool :=
  within 0x80 0xBF b

/-- The character with the given payload bits, six to each continuation byte. -/
def assemble (first : Nat) (continuations : List UInt8) : Char :=
  Char.ofNat (continuations.foldl (fun n b => 64 * n + b.toNat % 64) first)

/-- Decodes the bytes of a text from `index` on. -/
def decodeFrom (index : Nat) : List UInt8 → Except Fault (List Char)
  | [] => .ok []
  | a :: rest =>
    match Lead.ofByte? a with
    | none => .error (.invalid 1 index)
    | some .single => do
      return assemble a.toNat [] :: (← decodeFrom (index + 1) rest)
    | some .two =>
      match rest with
      | [] => .error (.incomplete index)
      | b :: rest =>
        if isContinuation b then do
          return assemble (a.toNat % 32) [b] :: (← decodeFrom (index + 2) rest)
        else .error (.invalid 1 index)
    | some (.three low high) =>
      match rest with
      | [] => .error (.incomplete index)
      | b :: rest =>
        if within low high b then
          match rest with
          | [] => .error (.incomplete index)
          | c :: rest =>
            if isContinuation c then do
              return assemble (a.toNat % 16) [b, c] :: (← decodeFrom (index + 3) rest)
            else .error (.invalid 2 index)
        else .error (.invalid 1 index)
    | some (.four low high) =>
      match rest with
      | [] => .error (.incomplete index)
      | b :: rest =>
        if within low high b then
          match rest with
          | [] => .error (.incomplete index)
          | c :: rest =>
            if isContinuation c then
              match rest with
              | [] => .error (.incomplete index)
              | d :: rest =>
                if isContinuation d then do
                  return assemble (a.toNat % 8) [b, c, d] :: (← decodeFrom (index + 4) rest)
                else .error (.invalid 3 index)
            else .error (.invalid 2 index)
        else .error (.invalid 1 index)

/-- The text that a sequence of bytes encodes. -/
def decode (bytes : List UInt8) : Except Fault String :=
  (decodeFrom 0 bytes).map String.ofList

end Utf8

end ShaderLowering
