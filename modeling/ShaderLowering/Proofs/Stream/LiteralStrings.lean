import ShaderLowering.Lowering.Walk
import ShaderLowering.Proofs.Stream.Framing
import ShaderLowering.Proofs.Stream.Utf8Coding

/-!
# What a literal string is read as

A literal string has no length in front of it. It ends at the first zero byte, which
may be any of the four of a word, and the operand after it starts with the next word:
so where the reader goes on is decided by the text. This file has the two directions of
that.

A list of words with a zero byte in it falls into the words before the one that has the
first zero byte, that word, and the rest (`LiteralString.Terminated`). Reading depends on
the three parts separately (`LiteralString.decode_of_terminated`): the text is in the
first two, the count is the number of them, and the rest does not matter. Writing a text
gives words that fall apart in the same way (`LiteralString.exists_terminated_encode`),
and writing what was read gives the first two parts back, apart from what stands after the
zero byte (`LiteralString.encode_eq`).
-/

namespace ShaderLowering

/-- The word with the bytes after its first zero byte cleared: a byte is kept if no byte
before it is zero. -/
def Word.closed (w : Word) : Word :=
  let keep (earlier : List UInt8) (b : UInt8) : UInt8 := if 0 ∈ earlier then 0 else b
  let a := byteAt w 1
  let b := byteAt w 256
  let c := byteAt w 65536
  ofBytes a (keep [a] b) (keep [a, b] c) (keep [a, b, c] (byteAt w 16777216))

theorem length_flatMap_bytes (words : List Word) :
    (words.flatMap Word.bytes).length = 4 * words.length := by
  induction words with
  | nil => rfl
  | cons w words ih =>
    rw [List.flatMap_cons, List.length_append, ih, List.length_cons]
    simp only [Word.bytes, List.length_cons, List.length_nil]
    omega

namespace LiteralString

/-- The bytes that words hold before the first that is zero. -/
def textBytes (words : List Word) : List UInt8 :=
  (words.flatMap Word.bytes).takeWhile (· ≠ 0)

/-- Where words hold a text: there are whole words of it, then the word with the zero byte
that ends it, then other words. -/
structure Terminated (words before : List Word) (last : Word) (after : List Word) : Prop where
  words_eq : words = before ++ last :: after
  whole : ∀ w ∈ before, 0 ∉ w.bytes
  zero : 0 ∈ last.bytes

variable {words before after : List Word} {last : Word}

/-- A zero byte among the bytes of words stands in a word, and there is a first such word. -/
theorem exists_terminated (h : 0 ∈ words.flatMap Word.bytes) :
    ∃ before last after, Terminated words before last after := by
  induction words with
  | nil => cases h
  | cons w words ih =>
    by_cases hw : 0 ∈ w.bytes
    · exact ⟨[], w, words, rfl, by simp, hw⟩
    · rw [List.flatMap_cons, List.mem_append, or_iff_right hw] at h
      obtain ⟨before, last, after, h⟩ := ih h
      refine ⟨w :: before, last, after, by rw [h.words_eq, List.cons_append], ?_, h.zero⟩
      rintro v (_ | ⟨_, hv⟩)
      · exact hw
      · exact h.whole v hv

theorem length_takeWhile_lt {l : List UInt8} (h : 0 ∈ l) :
    (l.takeWhile (· ≠ 0)).length < l.length := by
  refine Nat.lt_of_le_of_ne (List.takeWhile_sublist _).length_le fun hlength => ?_
  have hall : l.takeWhile (· ≠ 0) = l := (List.takeWhile_sublist _).eq_of_length hlength
  have hne := List.all_eq_true.mp (hall ▸ List.all_takeWhile) 0 h
  simp at hne

theorem takeWhile_append_of_mem {l m : List UInt8} (h : 0 ∈ l) :
    (l ++ m).takeWhile (· ≠ 0) = l.takeWhile (· ≠ 0) := by
  rw [List.takeWhile_append, if_neg (Nat.ne_of_lt (length_takeWhile_lt h))]

theorem takeWhile_append_of_not_mem {l m : List UInt8} (h : 0 ∉ l) :
    (l ++ m).takeWhile (· ≠ 0) = l ++ m.takeWhile (· ≠ 0) :=
  List.takeWhile_append_of_pos fun b hb => by
    simpa using fun hzero : b = 0 => h (hzero ▸ hb)

namespace Terminated

theorem not_mem_before (h : Terminated words before last after) :
    0 ∉ before.flatMap Word.bytes := fun hzero => by
  obtain ⟨w, hw, hb⟩ := List.mem_flatMap.mp hzero
  exact h.whole w hw hb

theorem textBytes_eq (h : Terminated words before last after) :
    textBytes words = before.flatMap Word.bytes ++ last.bytes.takeWhile (· ≠ 0) := by
  rw [textBytes, h.words_eq, List.flatMap_append, List.flatMap_cons,
    takeWhile_append_of_not_mem h.not_mem_before, takeWhile_append_of_mem h.zero]

theorem mem (h : Terminated words before last after) : 0 ∈ words.flatMap Word.bytes := by
  rw [h.words_eq]
  simp [h.zero]

/-- The zero byte is the fourth of its word at the latest. -/
theorem length_textBytes (h : Terminated words before last after) :
    (textBytes words).length / 4 = before.length := by
  have hlast : (last.bytes.takeWhile (· ≠ 0)).length < 4 := length_takeWhile_lt h.zero
  rw [h.textBytes_eq, List.length_append, length_flatMap_bytes]
  omega

end Terminated

/-- **What is read** depends on the words up to the first zero byte alone: their text, and
how many they are. -/
theorem decode_of_terminated (h : Terminated words before last after) :
    decode words = match Utf8.decode (textBytes words) with
      | .ok s => .ok (s, before.length + 1)
      | .error fault => .error (.notUtf8 fault) := by
  rw [decode, if_neg (Nat.ne_of_lt (length_takeWhile_lt h.mem))]
  change (match Utf8.decode (textBytes words) with
    | .ok s => Except.ok (s, (textBytes words).length / 4 + 1)
    | .error fault => .error (StringFault.notUtf8 fault)) = _
  rw [h.length_textBytes]

theorem decode_of_not_mem (h : 0 ∉ words.flatMap Word.bytes) :
    decode words = .error .unterminated := by
  have hall : (words.flatMap Word.bytes).takeWhile (· ≠ 0) = words.flatMap Word.bytes := by
    have := takeWhile_append_of_not_mem (m := []) h
    rwa [List.append_nil, List.takeWhile_nil, List.append_nil] at this
  rw [decode, hall]
  exact if_pos rfl

/-- A text is read exactly where words hold its bytes. -/
theorem decode_eq_ok_iff {s : String} {n : Nat} : decode words = .ok (s, n) ↔
    ∃ before last after, Terminated words before last after ∧ Utf8.encode s = textBytes words ∧
      n = before.length + 1 := by
  constructor
  · intro h
    by_cases hzero : 0 ∈ words.flatMap Word.bytes
    · obtain ⟨before, last, after, hterm⟩ := exists_terminated hzero
      rw [decode_of_terminated hterm] at h
      split at h
      · rename_i text htext
        obtain ⟨rfl, rfl⟩ := Prod.mk.inj (Except.ok.inj h)
        exact ⟨before, last, after, hterm, Utf8.decode_eq_ok_iff.mp htext, rfl⟩
      · cases h
    · rw [decode_of_not_mem hzero] at h
      cases h
  · rintro ⟨before, last, after, hterm, htext, rfl⟩
    rw [decode_of_terminated hterm, Utf8.decode_eq_ok_iff.mpr htext]

/-- A string that is read takes words of those it is read from, and at least one. -/
theorem length_of_decode {text : String} {length : Nat} (h : decode words = .ok (text, length)) :
    0 < length ∧ length ≤ words.length := by
  obtain ⟨before, last, after, hterm, -, rfl⟩ := decode_eq_ok_iff.mp h
  rw [hterm.words_eq, List.length_append, List.length_cons]
  omega

/-! ### Writing -/

theorem pack_bytes_append (w : Word) (bytes : List UInt8) :
    pack (w.bytes ++ bytes) = w :: pack bytes := by
  rw [Word.bytes, List.cons_append, List.cons_append, List.cons_append, List.cons_append,
    List.nil_append, pack, Word.ofBytes_byteAt]

theorem pack_flatMap_bytes_append (words : List Word) (bytes : List UInt8) :
    pack (words.flatMap Word.bytes ++ bytes) = words ++ pack bytes := by
  induction words with
  | nil => rfl
  | cons w words ih =>
    rw [List.flatMap_cons, List.append_assoc, pack_bytes_append, ih, List.cons_append]

/-- The last word of a text, packed again, is itself up to its first zero byte. -/
theorem pack_takeWhile (h : 0 ∈ last.bytes) :
    pack (last.bytes.takeWhile (· ≠ 0) ++ [0]) = [last.closed] := by
  rw [Word.closed, Word.bytes] at *
  generalize Word.byteAt last 1 = a at *
  generalize Word.byteAt last 256 = b at *
  generalize Word.byteAt last 65536 = c at *
  generalize Word.byteAt last 16777216 = d at *
  by_cases ha : a = 0
  · simp [ha, pack]
  by_cases hb : b = 0
  · simp [ha, hb, pack]
  by_cases hc : c = 0
  · simp [ha, hb, hc, pack, Ne.symm ha]
  by_cases hd : d = 0
  · simp [ha, hb, hc, hd, pack, Ne.symm ha, Ne.symm hb, Ne.symm hc]
  · simp [Ne.symm ha, Ne.symm hb, Ne.symm hc, Ne.symm hd] at h

/-- **Writing what was read** gives the words it was read from, the last of them up to its
zero byte. -/
theorem encode_eq {s : String} (hterm : Terminated words before last after)
    (htext : Utf8.encode s = textBytes words) : encode s = before ++ [last.closed] := by
  rw [encode, htext, hterm.textBytes_eq, List.append_assoc, pack_flatMap_bytes_append,
    pack_takeWhile hterm.zero]

theorem exists_terminated_of_pack_eq {bytes fill : List UInt8} (h : 0 ∉ bytes)
    (hpack : pack (bytes ++ [0]) = [last]) (hlast : last.bytes = bytes ++ 0 :: fill) :
    ∃ before last, Terminated (pack (bytes ++ [0]) ++ after) before last after ∧
      before.flatMap Word.bytes ++ last.bytes.takeWhile (· ≠ 0) = bytes := by
  refine ⟨[], last, ⟨by rw [hpack]; rfl, by simp, by simp [hlast]⟩, ?_⟩
  rw [hlast, takeWhile_append_of_not_mem h]
  simp

/-- Packing bytes and a zero gives words that hold the bytes. The induction takes four bytes
at a time, as packing does. -/
theorem exists_terminated_pack (bytes : List UInt8) (after : List Word) (h : 0 ∉ bytes) :
    ∃ before last, Terminated (pack (bytes ++ [0]) ++ after) before last after ∧
      before.flatMap Word.bytes ++ last.bytes.takeWhile (· ≠ 0) = bytes := by
  match bytes with
  | [] => exact exists_terminated_of_pack_eq h rfl (Word.bytes_ofBytes 0 0 0 0)
  | [a] => exact exists_terminated_of_pack_eq h rfl (Word.bytes_ofBytes a 0 0 0)
  | [a, b] => exact exists_terminated_of_pack_eq h rfl (Word.bytes_ofBytes a b 0 0)
  | [a, b, c] => exact exists_terminated_of_pack_eq h rfl (Word.bytes_ofBytes a b c 0)
  | a :: b :: c :: d :: rest =>
    have hsplit : a :: b :: c :: d :: rest = (Word.ofBytes a b c d).bytes ++ rest := by
      rw [Word.bytes_ofBytes]
      rfl
    rw [hsplit, List.mem_append, not_or] at h
    obtain ⟨before, last, hterm, hbytes⟩ := exists_terminated_pack rest after h.2
    refine ⟨Word.ofBytes a b c d :: before, last, ⟨?_, ?_, hterm.zero⟩, ?_⟩
    · rw [hsplit, List.append_assoc, pack_bytes_append, List.cons_append, hterm.words_eq,
        List.cons_append]
    · rintro w (_ | ⟨_, hw⟩)
      · exact h.1
      · exact hterm.whole w hw
    · rw [hsplit, List.flatMap_cons, List.append_assoc, hbytes]

/-- A text without the character number zero is read back from what it is written as, and
what follows is left for the reader to go on with. -/
theorem decode_encode_append {s : String} (h : Char.ofNat 0 ∉ s.toList) (rest : List Word) :
    decode (encode s ++ rest) = .ok (s, (encode s).length) ∧
      (encode s).length = s.utf8ByteSize / 4 + 1 := by
  rw [← Utf8.zero_mem_encode_iff] at h
  obtain ⟨before, last, hterm, hbytes⟩ := exists_terminated_pack _ rest h
  change Terminated (encode s ++ rest) _ _ _ at hterm
  have htext : Utf8.encode s = textBytes (encode s ++ rest) := by rw [hterm.textBytes_eq, hbytes]
  have hlength : (encode s).length = before.length + 1 := by
    rw [encode_eq hterm htext, List.length_append, List.length_singleton]
  refine ⟨?_, ?_⟩
  · rw [decode_of_terminated hterm, Utf8.decode_eq_ok_iff.mpr htext, hlength]
  · rw [hlength, ← hterm.length_textBytes, ← htext, Utf8.length_encode]

end LiteralString

/-! ### Among operands -/

/-- Operands that name an entry point: its stage, its function, its name, its interface. -/
def entryPointOperands (model : ExecutionModel) (function : Id) (name : String)
    (interface : List Id) : List Word :=
  UInt32.ofNat (Enumerant.code model) :: function :: LiteralString.encode name ++ interface

section EntryPoint

variable {i : Instruction} {model : ExecutionModel} {function : Id} {name : String}
  {interface : List Id}

/-- An entry point is read with the name and the interface that were written. -/
theorem Instruction.entryPoint_eq (hname : Char.ofNat 0 ∉ name.toList)
    (hi : i.operands = entryPointOperands model function name interface) :
    i.literalString 2 = .ok (name, 2 + (LiteralString.encode name).length) ∧
      i.operandsFrom (2 + (LiteralString.encode name).length) = interface := by
  have hfrom : i.operandsFrom 2 = LiteralString.encode name ++ interface := by
    rw [operandsFrom, hi]
    rfl
  refine ⟨?_, ?_⟩
  · rw [literalString, hfrom, (LiteralString.decode_encode_append hname interface).1]
  · rw [operandsFrom, ← List.drop_drop, ← operandsFrom, hfrom, List.drop_left]

theorem Declarations.addEntryPoint_eq (d : Declarations) (hname : Char.ofNat 0 ∉ name.toList)
    (hi : i.operands = entryPointOperands model function name interface) :
    d.addEntryPoint i = .ok { d with
      entryPoints :=
        d.entryPoints ++ [{ name, model, function, interface, start := i.start }] } := by
  have hmodel : i.operand 0 = .ok (UInt32.ofNat (Enumerant.code model)) := by
    rw [Instruction.operand, hi]
    rfl
  have hfunction : i.operand 1 = .ok function := by
    rw [Instruction.operand, hi]
    rfl
  have hdecode : Enumerant.decode (UInt32.ofNat (Enumerant.code model)) i.start = .ok model := by
    cases model <;> rfl
  obtain ⟨hstring, hinterface⟩ := Instruction.entryPoint_eq hname hi
  rw [addEntryPoint, hmodel, hfunction, hstring]
  simp only [bind, Except.bind, hdecode, hinterface]
  rfl

end EntryPoint

/-- **Literal strings are read exactly as they are written.** A text without the character
number zero is read back whatever follows it, and takes a quarter of its bytes in words,
rounded down, and one more. Any words are read as a text exactly if there is a zero byte
among them and the bytes before the first one are valid UTF-8; the text is then that of
these bytes, the reader goes on after the word with the zero byte, and writing the text
gives the words up to there with what stands after the zero byte cleared. So an entry point
is read with the name and the interface that it was written with. -/
theorem literalStrings_exact :
    (∀ (s : String) (rest : List Word), Char.ofNat 0 ∉ s.toList →
      LiteralString.decode (LiteralString.encode s ++ rest) =
          .ok (s, (LiteralString.encode s).length) ∧
        (LiteralString.encode s).length = s.utf8ByteSize / 4 + 1) ∧
    (∀ words : List Word,
      (∃ s n, LiteralString.decode words = .ok (s, n)) ↔
        0 ∈ words.flatMap Word.bytes ∧
          (LiteralString.textBytes words).toByteArray.IsValidUTF8) ∧
    (∀ (words : List Word) (s : String) (n : Nat), LiteralString.decode words = .ok (s, n) →
      ∃ before last after, LiteralString.Terminated words before last after ∧
        s.toByteArray = (LiteralString.textBytes words).toByteArray ∧
        n = before.length + 1 ∧
        LiteralString.encode s = before ++ [last.closed]) ∧
    (∀ (d : Declarations) (i : Instruction) (model : ExecutionModel) (function : Id)
      (name : String) (interface : List Id), Char.ofNat 0 ∉ name.toList →
      i.operands = entryPointOperands model function name interface →
      (∃ next, i.literalString 2 = .ok (name, next) ∧ i.operandsFrom next = interface) ∧
        d.addEntryPoint i = .ok { d with entryPoints :=
          d.entryPoints ++ [{ name, model, function, interface, start := i.start }] }) := by
  refine ⟨fun s rest h => LiteralString.decode_encode_append h rest, fun words => ⟨?_, ?_⟩,
    fun words s n h => ?_, fun d i model function name interface hname hi =>
      ⟨⟨_, Instruction.entryPoint_eq hname hi⟩, d.addEntryPoint_eq hname hi⟩⟩
  · rintro ⟨s, n, h⟩
    obtain ⟨before, last, after, hterm, htext, -⟩ := LiteralString.decode_eq_ok_iff.mp h
    exact ⟨hterm.mem, Utf8.exists_decode_iff.mp ⟨s, Utf8.decode_eq_ok_iff.mpr htext⟩⟩
  · rintro ⟨hzero, hvalid⟩
    obtain ⟨before, last, after, hterm⟩ := LiteralString.exists_terminated hzero
    obtain ⟨s, hs⟩ := Utf8.exists_decode_iff.mpr hvalid
    exact ⟨s, _, LiteralString.decode_eq_ok_iff.mpr
      ⟨before, last, after, hterm, Utf8.decode_eq_ok_iff.mp hs, rfl⟩⟩
  · obtain ⟨before, last, after, hterm, htext, hn⟩ := LiteralString.decode_eq_ok_iff.mp h
    refine ⟨before, last, after, hterm, ?_, hn, LiteralString.encode_eq hterm htext⟩
    rw [← htext, Utf8.toByteArray_encode]

/-- A name whose length is a multiple of four takes a word for its end, and the interface is
found behind it; what stands after a zero byte is not written again. -/
theorem literalStrings_exact_main :
    LiteralString.encode "main" = [0x6e69616d, 0] ∧
      LiteralString.decode (LiteralString.encode "main" ++ [7, 9]) = .ok ("main", 2) ∧
      (∃ next, (⟨15, entryPointOperands .fragment 4 "main" [7, 9], 5, 12⟩ :
          Instruction).literalString 2 = .ok ("main", next) ∧
        (⟨15, entryPointOperands .fragment 4 "main" [7, 9], 5, 12⟩ :
          Instruction).operandsFrom next = [7, 9]) ∧
      ∃ before last after, LiteralString.Terminated [0xff006261, 7] before last after ∧
        1 = before.length + 1 ∧ LiteralString.encode "ab" = before ++ [last.closed] := by
  have hname : Char.ofNat 0 ∉ "main".toList := by decide
  have hencode : LiteralString.encode "main" = [0x6e69616d, 0] := by decide +kernel
  refine ⟨hencode, ?_, ?_, ?_⟩
  · have := (literalStrings_exact.1 "main" [7, 9] hname).1
    rwa [hencode] at this
  · exact (literalStrings_exact.2.2.2 { workspace := { arena := {} } } _ .fragment 4 "main" [7, 9]
      hname rfl).1
  · have hread : LiteralString.decode [0xff006261, 7] = .ok ("ab", 1) :=
      LiteralString.decode_eq_ok_iff.mpr
        ⟨[], 0xff006261, [7], ⟨rfl, by simp, by decide +kernel⟩, by decide +kernel, rfl⟩
    obtain ⟨before, last, after, hterm, -, hn, hencode⟩ :=
      literalStrings_exact.2.2.1 [0xff006261, 7] "ab" 1 hread
    exact ⟨before, last, after, hterm, hn, hencode⟩

end ShaderLowering
