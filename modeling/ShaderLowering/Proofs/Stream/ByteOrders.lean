import ShaderLowering.Proofs.Stream.Framing
import ShaderLowering.Stream.Binary

/-!
# Either byte order

There are two places where a reader finds out which end of a word comes first. A binary is
judged by its first four bytes, which have to spell the magic number one way or the other.
Words are judged by their first, which has to be the magic number or what is left of it when
its bytes are swapped; that is how words look that were read in the wrong order. This file
shows that the two agree on everything, and that neither takes part of a stream in one order
and part in the other: to write words in either order and to read them back gives the words
(`ShaderLowering.wordsOfBinary_binaryOfWords`), nothing but what was written in one of the two
orders is read (`ShaderLowering.wordsOfBinary_eq_ok_iff`), and words from the other end make
the same module or the same report (`ShaderLowering.ShaderModule.read_map_swapped`).
-/

namespace ShaderLowering

/-! ### One word -/

/-- The bytes of a word that is read from the other end come in the opposite order. -/
theorem Word.bytes_swapped (w : Word) : bytes (swapped w) = (bytes w).reverse := by
  rw [swapped, bytes_ofBytes]
  rfl

namespace ByteOrder

variable {order : ByteOrder} {bs : List UInt8} {words : List Word}

/-- A word is written as four bytes. -/
theorem exists_write (order : ByteOrder) (w : Word) :
    ∃ a b c d, order.write w = [a, b, c, d] ∧ order.read a b c d = w := by
  cases order with
  | littleEndian => exact ⟨_, _, _, _, rfl, Word.ofBytes_byteAt w⟩
  | bigEndian => exact ⟨_, _, _, _, rfl, Word.ofBytes_byteAt w⟩

/-- Four bytes are what the word is written as that they stand for. -/
theorem write_read (order : ByteOrder) (a b c d : UInt8) :
    order.write (order.read a b c d) = [a, b, c, d] := by
  cases order with
  | littleEndian => exact Word.bytes_ofBytes a b c d
  | bigEndian => exact congrArg List.reverse (Word.bytes_ofBytes d c b a)

theorem length_write (order : ByteOrder) (w : Word) : (order.write w).length = 4 := by
  obtain ⟨a, b, c, d, hwrite, -⟩ := order.exists_write w
  rw [hwrite]
  rfl

/-! ### Many words -/

/-- Words are read back in the order in which they were written. -/
theorem readAll_flatMap_write (order : ByteOrder) (words : List Word) :
    order.readAll (words.flatMap order.write) = words := by
  induction words with
  | nil => rfl
  | cons w words ih =>
    obtain ⟨a, b, c, d, hwrite, hread⟩ := order.exists_write w
    rw [List.flatMap_cons, hwrite]
    change order.read a b c d :: order.readAll (words.flatMap order.write) = w :: words
    rw [hread, ih]

/-- Bytes that fill their last word are what the words are written as that they stand for. -/
theorem flatMap_write_readAll (order : ByteOrder) (h : bs.length % 4 = 0) :
    (order.readAll bs).flatMap order.write = bs := by
  induction bs using readAll.induct with
  | case1 a b c d rest ih =>
    have hrest : rest.length % 4 = 0 := by
      simp only [List.length_cons] at h
      omega
    rw [readAll, List.flatMap_cons, write_read, ih hrest]
    rfl
  | case2 bs hshort =>
    match bs, hshort, h with
    | [], _, _ => rfl
    | a :: b :: c :: d :: rest, hshort, _ => exact (hshort a b c d rest rfl).elim

/-- The first four bytes are the magic number in one order only. -/
theorem ofMagic?_eq_some_iff :
    ofMagic? bs = some order ↔ bs.take 4 = order.write Word.magic := by
  have hne : littleEndian.write Word.magic ≠ bigEndian.write Word.magic := by decide
  rw [ofMagic?]
  constructor
  · intro h
    split at h
    · rename_i hlittle
      rw [← Option.some.inj h, hlittle]
    · split at h
      · rename_i hbig
        rw [← Option.some.inj h, hbig]
      · exact nomatch h
  · intro h
    cases order with
    | littleEndian => rw [if_pos h]
    | bigEndian => rw [if_neg fun hlittle => hne (hlittle.symm.trans h), if_pos h]

/-- Words begin with the magic number if what they are written as does. -/
theorem take_flatMap_write_iff :
    (words.flatMap order.write).take 4 = order.write Word.magic ↔
      words.head? = some Word.magic := by
  cases words with
  | nil => cases order <;> decide
  | cons w words =>
    rw [List.flatMap_cons, List.take_left' (order.length_write w), List.head?_cons,
      Option.some.injEq]
    refine ⟨fun h => ?_, fun h => by rw [h]⟩
    -- the words are read off the bytes again
    have hread := congrArg order.readAll h
    have hw := order.readAll_flatMap_write [w]
    have hmagic := order.readAll_flatMap_write [Word.magic]
    rw [List.flatMap_singleton] at hw hmagic
    rw [hw, hmagic] at hread
    exact (List.cons.inj hread).1

end ByteOrder

/-! ### Binaries -/

variable {order : ByteOrder} {words : List Word} {bs : List UInt8}

theorem length_binaryOfWords (order : ByteOrder) (words : List Word) :
    (binaryOfWords order words).length = 4 * words.length := by
  induction words with
  | nil => rfl
  | cons w words ih =>
    rw [binaryOfWords, List.flatMap_cons, List.length_append, order.length_write, List.length_cons,
      ← binaryOfWords, ih]
    omega

/-- Words written with their first byte last are the swapped words with it first. -/
theorem binaryOfWords_map_swapped (words : List Word) :
    binaryOfWords .littleEndian (words.map Word.swapped) = binaryOfWords .bigEndian words := by
  rw [binaryOfWords, List.flatMap_map, binaryOfWords]
  exact congrArg (List.flatMap · words) (funext Word.bytes_swapped)

/-- **What is written in either order is read back.** -/
theorem wordsOfBinary_binaryOfWords (h : words.head? = some Word.magic) (order : ByteOrder) :
    wordsOfBinary (binaryOfWords order words) = .ok words := by
  have hfull : ¬(binaryOfWords order words).length % 4 ≠ 0 := by
    rw [length_binaryOfWords]
    omega
  have hmagic : ByteOrder.ofMagic? (binaryOfWords order words) = some order :=
    ByteOrder.ofMagic?_eq_some_iff.mpr (ByteOrder.take_flatMap_write_iff.mpr h)
  rw [wordsOfBinary, if_neg hfull, hmagic]
  exact congrArg Except.ok (order.readAll_flatMap_write words)

/-- **Nothing is read but what was written in one of the orders.** -/
theorem wordsOfBinary_eq_ok_iff :
    wordsOfBinary bs = .ok words ↔
      words.head? = some Word.magic ∧ ∃ order, bs = binaryOfWords order words := by
  constructor
  · intro h
    rw [wordsOfBinary] at h
    split at h
    · exact nomatch h
    · rename_i hfull
      split at h
      · rename_i order horder
        have hbytes := order.flatMap_write_readAll (Decidable.not_not.mp hfull)
        rw [← Except.ok.inj h]
        rw [ByteOrder.ofMagic?_eq_some_iff, ← hbytes, ByteOrder.take_flatMap_write_iff] at horder
        exact ⟨horder, order, hbytes.symm⟩
      · exact nomatch h
  · rintro ⟨hmagic, order, rfl⟩
    exact wordsOfBinary_binaryOfWords hmagic order

/-! ### Modules -/

/-- **Words from the other end make the same module**, or the same report about the same
words. -/
theorem ShaderModule.read_map_swapped (h : words.head? = some Word.magic) :
    read (words.map Word.swapped) = read words := by
  rw [List.head?_eq_getElem?] at h
  rw [read, read, upright_map_swapped h, upright_of_magic h]

/-- **Byte order makes no difference.** Words that begin with the magic number are read back
from the bytes they are written as, whichever end of each comes first; and with the bytes of
all of them swapped, which is what it is to take the one order for the other, they make the
same module or the same report. Bytes that are read at all are four to a word, and are what the
words, which begin with the magic number, are written as in one of the orders; all other bytes
are refused. -/
theorem byteOrder_irrelevant :
    (∀ words, words.head? = some Word.magic →
      (∀ order, wordsOfBinary (binaryOfWords order words) = .ok words) ∧
      binaryOfWords .littleEndian (words.map Word.swapped) = binaryOfWords .bigEndian words ∧
      ShaderModule.read (words.map Word.swapped) = ShaderModule.read words) ∧
    (∀ bytes words, wordsOfBinary bytes = .ok words →
      bytes.length = 4 * words.length ∧ words.head? = some Word.magic ∧
      ∃ order, bytes = binaryOfWords order words) ∧
    ∀ bytes, (∀ order words, words.head? = some Word.magic → bytes ≠ binaryOfWords order words) →
      ∃ e, wordsOfBinary bytes = .error e := by
  refine ⟨fun words h => ⟨wordsOfBinary_binaryOfWords h, binaryOfWords_map_swapped words,
    ShaderModule.read_map_swapped h⟩, fun bytes words h => ?_, fun bytes hother => ?_⟩
  · obtain ⟨hmagic, order, rfl⟩ := wordsOfBinary_eq_ok_iff.mp h
    exact ⟨length_binaryOfWords order words, hmagic, order, rfl⟩
  · cases h : wordsOfBinary bytes with
    | error e => exact ⟨e, rfl⟩
    | ok words =>
      obtain ⟨hmagic, order, heq⟩ := wordsOfBinary_eq_ok_iff.mp h
      exact absurd heq (hother order words hmagic)

/-- Words of which the last instruction is cut short, written both ways: they are read back, and
the report is the same when the bytes of all of them are swapped. -/
theorem byteOrder_irrelevant_cut_short :
    let words : List Word := [0x07230203, 0x00010300, 0, 4, 0, 0x00020011]
    wordsOfBinary (binaryOfWords .bigEndian words) = .ok words ∧
      wordsOfBinary (binaryOfWords .littleEndian words) = .ok words ∧
      ShaderModule.read (words.map Word.swapped) = .error ⟨5, 6, .runsPastEnd 2⟩ ∧
      (binaryOfWords .bigEndian words).length = 4 * words.length ∧
      ∃ e, wordsOfBinary [3, 2, 35, 7, 0] = .error e := by
  intro words
  obtain ⟨hback, -, hswapped⟩ := byteOrder_irrelevant.1 words rfl
  have hupright : ShaderModule.upright words = words := by decide
  have hread : ShaderModule.read words = .error ⟨5, 6, .runsPastEnd 2⟩ := by
    rw [ShaderModule.read, hupright]
    cbv
  have hbytes := (byteOrder_irrelevant.2.1 _ _ (hback .bigEndian)).1
  refine ⟨hback .bigEndian, hback .littleEndian, hswapped.trans hread, hbytes,
    byteOrder_irrelevant.2.2 _ fun order words _ heq => ?_⟩
  have hlength := congrArg List.length heq
  rw [length_binaryOfWords] at hlength
  simp only [List.length_cons, List.length_nil] at hlength
  omega

end ShaderLowering
