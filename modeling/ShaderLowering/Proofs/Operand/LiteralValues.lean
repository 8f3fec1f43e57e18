import Mathlib.Algebra.BigOperators.Ring.Finset
import Mathlib.Algebra.Order.Floor.Div
import Mathlib.Data.Nat.Bitwise
import Mathlib.GroupTheory.GroupAction.Ring
import ShaderLowering.Operand.LiteralNumber
import ShaderLowering.Proofs.Operand.EndlessShapes

/-!
# What literal numbers are worth

A literal number is made of words, each worth so many times what the one before it is. One or two
of them can be read, into 64 bits at most, where each word is shifted to its place and put to the
others (`ShaderLowering.toNat_gathered`). A number comes out if the operand is a literal, if not
too many words are needed for its width, and if these words are there; and then it is the number
that was written there, whatever comes after it
(`ShaderLowering.Instruction.literalNumber_exact`).

Where the width hangs on a type it has to be asked for. That nothing is asked for otherwise is not
to be seen from the answers, so the number is read once more by a reader that keeps a record of
what it is asked (`ShaderLowering.Instruction.literalNumberIn`).
-/

namespace ShaderLowering

/-! ### Numbers and their words -/

/-- The words of a number, the least significant first, as many as are wanted. -/
def wordsOf : Nat → Nat → List Word
  | 0, _ => []
  | count + 1, value => UInt32.ofNat value :: wordsOf count (value / UInt32.size)

/-- The words put together in 64 bits: each is shifted to its place and put to those before it. -/
def gathered (words : List Word) : UInt64 :=
  words.zipIdx.foldl (fun sum (w, place) => sum ||| w.toUInt64 <<< UInt64.ofNat (32 * place)) 0

@[simp] theorem valueOfWords_nil : valueOfWords [] = 0 := rfl

@[simp] theorem valueOfWords_cons (w : Word) (words : List Word) :
    valueOfWords (w :: words) = w.toNat + UInt32.size * valueOfWords words := rfl

theorem pow_words_succ (count : Nat) : 2 ^ (32 * (count + 1)) = UInt32.size * 2 ^ (32 * count) := by
  rw [Nat.mul_succ, Nat.pow_add, Nat.mul_comm]

@[simp] theorem length_wordsOf (count value : Nat) : (wordsOf count value).length = count := by
  induction count generalizing value with
  | zero => rfl
  | succ count ih => rw [wordsOf, List.length_cons, ih]

/-- **The words of a number are worth the number**, if they can hold it. -/
theorem valueOfWords_wordsOf {count value : Nat} (h : value < 2 ^ (32 * count)) :
    valueOfWords (wordsOf count value) = value := by
  induction count generalizing value with
  | zero => exact (Nat.lt_one_iff.mp h).symm
  | succ count ih =>
    rw [pow_words_succ] at h
    rw [wordsOf, valueOfWords_cons, ih (Nat.div_lt_of_lt_mul h)]
    exact Nat.mod_add_div value UInt32.size

theorem valueOfWords_lt (words : List Word) : valueOfWords words < 2 ^ (32 * words.length) := by
  induction words with
  | nil => exact Nat.one_pos
  | cons w words ih =>
    have hw : w.toNat < UInt32.size := w.toNat_lt
    rw [valueOfWords_cons, List.length_cons, pow_words_succ]
    calc w.toNat + UInt32.size * valueOfWords words
        < UInt32.size * (valueOfWords words + 1) := by rw [Nat.mul_succ]; omega
      _ ≤ UInt32.size * 2 ^ (32 * words.length) := Nat.mul_le_mul_left _ ih

/-- Words are worth the sum of what each of them is worth at its place. -/
theorem valueOfWords_eq_sum (words : List Word) :
    valueOfWords words =
      ∑ place ∈ Finset.range words.length, (words.getD place 0).toNat * 2 ^ (32 * place) := by
  induction words with
  | nil => rfl
  | cons w words ih =>
    have hfirst : ((w :: words).getD 0 0).toNat * 2 ^ (32 * 0) = w.toNat := by
      rw [List.getD_cons_zero, Nat.mul_zero, Nat.pow_zero, Nat.mul_one]
    have hlater (place : Nat) : ((w :: words).getD (place + 1) 0).toNat * 2 ^ (32 * (place + 1)) =
        UInt32.size * ((words.getD place 0).toNat * 2 ^ (32 * place)) := by
      rw [List.getD_cons_succ, pow_words_succ, Nat.mul_left_comm]
    rw [valueOfWords_cons, ih, List.length_cons, Finset.sum_range_succ', hfirst,
      Finset.sum_congr rfl fun place _ => hlater place, Finset.mul_sum, Nat.add_comm]

/-- A word that is shifted to its place does not touch what is worth less. -/
theorem toNat_or_shiftLeft {sum : UInt64} {place : Nat} (hplace : place < 2)
    (hsum : sum.toNat < 2 ^ (32 * place)) (w : Word) :
    (sum ||| w.toUInt64 <<< UInt64.ofNat (32 * place)).toNat =
      sum.toNat + 2 ^ (32 * place) * w.toNat := by
  have hshift : (UInt64.ofNat (32 * place)).toNat % 64 = 32 * place := by
    rw [UInt64.toNat_ofNat']
    omega
  have hfits : 2 ^ (32 * place) * w.toNat < 2 ^ 64 := by
    calc 2 ^ (32 * place) * w.toNat < 2 ^ (32 * place) * 2 ^ 32 :=
          Nat.mul_lt_mul_of_pos_left w.toNat_lt (Nat.two_pow_pos _)
      _ = 2 ^ (32 * place + 32) := (Nat.pow_add 2 _ _).symm
      _ ≤ 2 ^ 64 := Nat.pow_le_pow_right Nat.two_pos (by omega)
  rw [UInt64.toNat_or, UInt64.toNat_shiftLeft, hshift, UInt32.toNat_toUInt64, Nat.shiftLeft_eq,
    Nat.mul_comm w.toNat, Nat.mod_eq_of_lt hfits, Nat.or_comm,
    ← Nat.two_pow_add_eq_or_of_lt hsum, Nat.add_comm]

/-- **What is gathered is what the words are worth**, as long as there are no more than fit in. -/
theorem toNat_gathered {words : List Word} (h : words.length ≤ 2) :
    (gathered words).toNat = valueOfWords words := by
  have hzero : (0 : UInt64).toNat < 2 ^ (32 * 0) := Nat.one_pos
  have hfirst (w : Word) : (gathered [w]).toNat = w.toNat := by
    refine (toNat_or_shiftLeft Nat.two_pos hzero w).trans ?_
    rw [Nat.mul_zero, Nat.pow_zero, Nat.one_mul]
    exact Nat.zero_add _
  match words with
  | [] => rfl
  | [w] => rw [hfirst, valueOfWords_cons, valueOfWords_nil, Nat.mul_zero, Nat.add_zero]
  | [low, high] =>
    have hlow : (gathered [low]).toNat < 2 ^ (32 * 1) := hfirst low ▸ low.toNat_lt
    refine (toNat_or_shiftLeft Nat.one_lt_two hlow high).trans ?_
    rw [hfirst, valueOfWords_cons, valueOfWords_cons, valueOfWords_nil, Nat.mul_zero, Nat.add_zero]
    rfl

/-- As many words as the width needs, and one at least. -/
theorem literalWordCount_eq (width : Nat) : literalWordCount width = max 1 (width ⌈/⌉ 32) := by
  rw [literalWordCount, Nat.ceilDiv_eq_add_pred_div]
  omega

theorem literalWordCount_pos (width : Nat) : 0 < literalWordCount width := by
  rw [literalWordCount_eq]
  exact Nat.lt_of_lt_of_le Nat.one_pos (Nat.le_max_left 1 _)

namespace Instruction

variable {i : Instruction} {index width value : Nat} {shape : LiteralWidth}
  {widthOf : LiteralWidth → Except Diagnostic Nat}

/-- What is read at an index as a literal of the given width. -/
def literalOfWidth (i : Instruction) (index width : Nat) : Except Diagnostic Nat :=
  if 2 < literalWordCount width then
    .error (i.diagnose (.literalTooWide width))
  else if (i.operandsFrom index).length < literalWordCount width then
    .error (i.diagnose (.literalCutShort width (literalWordCount width)
      (i.operandsFrom index).length))
  else .ok (valueOfWords ((i.operandsFrom index).take (literalWordCount width)))

/-- The literal number at an index, where the reader that is asked for a width may do something
besides answering. -/
def literalNumberIn {m : Type → Type} [Monad m] [MonadExceptOf Diagnostic m] (i : Instruction)
    (index : Nat) (widthOf : LiteralWidth → m Nat) : m Nat := do
  let width ←
    match i.shape index with
    | some .oneWord => pure 32
    | some shape => widthOf shape
    | none => throw (i.diagnose (.notALiteral index i.op?))
  ofExcept (i.literalOfWidth index width)

/-- A reader that does nothing but answer reads the same number. -/
theorem literalNumberIn_eq (i : Instruction) (index : Nat)
    (widthOf : LiteralWidth → Except Diagnostic Nat) :
    i.literalNumberIn index widthOf = i.literalNumber index widthOf := by
  have hread (width : Nat) : (ofExcept (i.literalOfWidth index width) : Except Diagnostic Nat) =
      i.literalOfWidth index width := by
    cases i.literalOfWidth index width <;> rfl
  rw [literalNumberIn, literalNumber]
  simp only [hread]
  rfl

/-- The reader with a record of the shapes it was asked for. -/
def recording (widthOf : LiteralWidth → Except Diagnostic Nat) (shape : LiteralWidth) :
    ExceptT Diagnostic (StateM (List LiteralWidth)) Nat :=
  ExceptT.mk fun asked => (widthOf shape, asked ++ [shape])

/-- **The reader is asked once at most**, and for the shape of the operand. -/
theorem literalNumberIn_recording (i : Instruction) (index : Nat)
    (widthOf : LiteralWidth → Except Diagnostic Nat) (asked : List LiteralWidth) :
    (i.literalNumberIn index (recording widthOf)).run.run asked =
      (i.literalNumberIn index widthOf, asked ++ (i.askedShape? index).toList) := by
  have hread (width : Nat) (asked : List LiteralWidth) :
      (ofExcept (i.literalOfWidth index width) :
        ExceptT Diagnostic (StateM (List LiteralWidth)) Nat).run.run asked =
      (ofExcept (i.literalOfWidth index width), asked) := by
    cases i.literalOfWidth index width <;> rfl
  have hasked (shape : LiteralWidth) :
      ((recording widthOf shape >>= fun width => ofExcept (i.literalOfWidth index width)) :
        ExceptT Diagnostic (StateM (List LiteralWidth)) Nat).run.run asked =
      (widthOf shape >>= fun width => ofExcept (i.literalOfWidth index width),
        asked ++ [shape]) := by
    have hrecord : (recording widthOf shape).run.run asked = (widthOf shape, asked ++ [shape]) :=
      rfl
    rw [ExceptT.run_bind, StateT.run_bind, hrecord]
    cases widthOf shape with
    | ok width => exact hread width _
    | error d => rfl
  rw [literalNumberIn, literalNumberIn, askedShape?]
  cases i.shape index with
  | none => exact congrArg (Prod.mk _) (List.append_nil asked).symm
  | some shape =>
    cases shape with
    | oneWord => exact (hread 32 asked).trans (congrArg (Prod.mk _) (List.append_nil asked).symm)
    | ofOperand => exact hasked _
    | ofResultType => exact hasked _

/-! ### What is read -/

/-- **How wide the literal at an index is**: one word if the instruction has it so, and else what
the reader answers. -/
inductive IsWide (i : Instruction) (index : Nat)
    (widthOf : LiteralWidth → Except Diagnostic Nat) : Nat → Prop
  | fixed (h : i.shape index = some .oneWord) : IsWide i index widthOf 32
  | asked {shape : LiteralWidth} {width : Nat} (h : i.askedShape? index = some shape)
      (hwidth : widthOf shape = .ok width) : IsWide i index widthOf width

/-- The shape of an operand is the one that the table has for the name of the instruction. -/
theorem shape_eq_operandShapeOf (i : Instruction) (index : Nat) :
    i.shape index = operandShapeOf (i.op?.elim "" Opcode.mnemonic) index := by
  rw [shape]
  cases i.op? with
  | none => rfl
  | some op => rw [Option.elim_some, operandShapeOf, op.ofMnemonic?_mnemonic, Option.bind_some]

theorem askedShape?_eq_some_iff :
    i.askedShape? index = some shape ↔ i.shape index = some shape ∧ shape ≠ .oneWord := by
  rw [askedShape?]
  split
  · rename_i h
    rw [h]
    exact ⟨nofun, fun hcon => absurd (Option.some.inj hcon.1).symm hcon.2⟩
  · rename_i h
    refine ⟨fun hshape => ⟨hshape, ?_⟩, And.left⟩
    rintro rfl
    exact h hshape

/-- If the reader is asked for a width, the literal is read as one of the width that it answers. -/
theorem literalNumber_of_asked (h : i.askedShape? index = some shape) :
    i.literalNumber index widthOf = widthOf shape >>= i.literalOfWidth index := by
  obtain ⟨hshape, hne⟩ := askedShape?_eq_some_iff.mp h
  rw [literalNumber, hshape]
  cases shape with
  | oneWord => exact absurd rfl hne
  | ofOperand | ofResultType => rfl

/-- Once the width is known, the literal is read as one of that width. -/
theorem literalNumber_of_isWide (h : i.IsWide index widthOf width) :
    i.literalNumber index widthOf = i.literalOfWidth index width := by
  cases h with
  | fixed h =>
    rw [literalNumber, h]
    rfl
  | asked h hwidth =>
    rw [literalNumber_of_asked h, hwidth]
    rfl

/-- What the reader reports is reported. -/
theorem literalNumber_of_error {d : Diagnostic} (h : i.askedShape? index = some shape)
    (herror : widthOf shape = .error d) : i.literalNumber index widthOf = .error d := by
  rw [literalNumber_of_asked h, herror]
  rfl

/-- A number is read from a literal only. -/
theorem exists_isWide (h : i.literalNumber index widthOf = .ok value) :
    ∃ width, i.IsWide index widthOf width := by
  cases hshape : i.shape index with
  | none =>
    rw [literalNumber, hshape] at h
    exact nomatch h
  | some shape =>
    by_cases hone : shape = .oneWord
    · exact ⟨32, .fixed (hone ▸ hshape)⟩
    · have hasked := askedShape?_eq_some_iff.mpr ⟨hshape, hone⟩
      cases hwidth : widthOf shape with
      | ok width => exact ⟨width, .asked hasked hwidth⟩
      | error d =>
        rw [literalNumber_of_error hasked hwidth] at h
        exact nomatch h

/-- **A literal is read if it is not too wide and all its words are there.** -/
theorem literalOfWidth_eq_ok_iff :
    i.literalOfWidth index width = .ok value ↔ literalWordCount width ≤ 2 ∧
      index + literalWordCount width ≤ i.operands.length ∧
      value = valueOfWords ((i.operandsFrom index).take (literalWordCount width)) := by
  have hpos := literalWordCount_pos width
  have hroom : (i.operandsFrom index).length < literalWordCount width ↔
      ¬index + literalWordCount width ≤ i.operands.length := by
    rw [operandsFrom, List.length_drop]
    omega
  rw [literalOfWidth]
  split
  · rename_i hwide
    exact ⟨nofun, fun h => absurd h.1 (Nat.not_le_of_lt hwide)⟩
  · rename_i hwide
    split
    · rename_i hshort
      exact ⟨nofun, fun h => absurd h.2.1 (hroom.mp hshort)⟩
    · rename_i hlong
      rw [Except.ok.injEq, eq_comm]
      exact ⟨fun h => ⟨Nat.le_of_not_lt hwide, not_not.mp (mt hroom.mpr hlong), h⟩,
        fun h => h.2.2⟩

theorem length_take_operandsFrom {count : Nat} (h : index + count ≤ i.operands.length) :
    ((i.operandsFrom index).take count).length = count := by
  rw [operandsFrom, List.length_take, List.length_drop]
  omega

/-- The words of a literal are worth what each of them is worth at its place. -/
theorem valueOfWords_take_operandsFrom {count : Nat} (h : index + count ≤ i.operands.length) :
    valueOfWords ((i.operandsFrom index).take count) =
      ∑ place ∈ Finset.range count,
        (i.operands.getD (index + place) 0).toNat * 2 ^ (32 * place) := by
  rw [valueOfWords_eq_sum, length_take_operandsFrom h]
  refine Finset.sum_congr rfl fun place hplace => ?_
  rw [operandsFrom, List.getD_eq_getElem?_getD,
    List.getElem?_take_of_lt (Finset.mem_range.mp hplace), List.getElem?_drop,
    ← List.getD_eq_getElem?_getD]

/-- **Literal numbers are read exactly, or refused.**

* The shape of an operand is the one on the table, and the reader is asked for the width of a
  literal that is not one word wide, once, and is asked nothing else. What it reports is reported.
  With a record or without one, the same number is read.
* A literal takes as many words as its width needs, and one at least. It is read if and only if
  these are two at most and there are so many operands from its index on. Then its value is the sum
  of the words, each times what it is worth at its place, whatever comes after them.
* The value is below the power of two that the words make up, so that nothing of it is lost where
  the words are put together in 64 bits.
* A number whose words are written there, the least significant first, is read again. -/
theorem literalNumber_exact (i : Instruction) (index : Nat)
    (widthOf : LiteralWidth → Except Diagnostic Nat) :
    i.shape index = operandShapeOf (i.op?.elim "" Opcode.mnemonic) index ∧
    i.literalNumberIn index widthOf = i.literalNumber index widthOf ∧
    (∀ asked, (i.literalNumberIn index (recording widthOf)).run.run asked =
      (i.literalNumber index widthOf, asked ++ (i.askedShape? index).toList)) ∧
    (∀ shape d, i.askedShape? index = some shape → widthOf shape = .error d →
      i.literalNumber index widthOf = .error d) ∧
    (∀ width, literalWordCount width = max 1 (width ⌈/⌉ 32)) ∧
    (∀ value, i.literalNumber index widthOf = .ok value ↔
      ∃ width, i.IsWide index widthOf width ∧ literalWordCount width ≤ 2 ∧
        index + literalWordCount width ≤ i.operands.length ∧
        value = ∑ place ∈ Finset.range (literalWordCount width),
          (i.operands.getD (index + place) 0).toNat * 2 ^ (32 * place)) ∧
    (∀ width value, i.IsWide index widthOf width → i.literalNumber index widthOf = .ok value →
      value < 2 ^ (32 * literalWordCount width) ∧
      (gathered ((i.operandsFrom index).take (literalWordCount width))).toNat = value) ∧
    ∀ width value rest, i.IsWide index widthOf width → literalWordCount width ≤ 2 →
      value < 2 ^ (32 * literalWordCount width) →
      i.operandsFrom index = wordsOf (literalWordCount width) value ++ rest →
      i.literalNumber index widthOf = .ok value := by
  refine ⟨i.shape_eq_operandShapeOf index, i.literalNumberIn_eq index widthOf, fun asked => ?_,
    fun _ _ => literalNumber_of_error, literalWordCount_eq, fun value => ⟨fun h => ?_, ?_⟩,
    fun width value hwidth h => ?_, fun width value rest hwidth hcount hvalue hwords => ?_⟩
  · rw [literalNumberIn_recording, literalNumberIn_eq]
  · obtain ⟨width, hwidth⟩ := exists_isWide h
    rw [literalNumber_of_isWide hwidth] at h
    obtain ⟨hcount, hroom, rfl⟩ := literalOfWidth_eq_ok_iff.mp h
    exact ⟨width, hwidth, hcount, hroom, valueOfWords_take_operandsFrom hroom⟩
  · rintro ⟨width, hwidth, hcount, hroom, rfl⟩
    rw [literalNumber_of_isWide hwidth]
    exact literalOfWidth_eq_ok_iff.mpr ⟨hcount, hroom, (valueOfWords_take_operandsFrom hroom).symm⟩
  · rw [literalNumber_of_isWide hwidth] at h
    obtain ⟨hcount, hroom, rfl⟩ := literalOfWidth_eq_ok_iff.mp h
    have hlength := length_take_operandsFrom hroom
    have hlt := valueOfWords_lt ((i.operandsFrom index).take (literalWordCount width))
    rw [hlength] at hlt
    exact ⟨hlt, toNat_gathered (hlength.le.trans hcount)⟩
  · have hpos := literalWordCount_pos width
    have hlength := congrArg List.length hwords
    rw [operandsFrom, List.length_drop, List.length_append, length_wordsOf] at hlength
    rw [literalNumber_of_isWide hwidth]
    refine literalOfWidth_eq_ok_iff.mpr ⟨hcount, by omega, ?_⟩
    rw [hwords, List.take_left' (length_wordsOf _ _), valueOfWords_wordsOf hvalue]

/-- A constant of 64 bits with a word after it, and one of 65 bits, which is refused. -/
theorem literalNumber_exact_constant :
    let i : Instruction := ⟨43, [1, 2, 0x89abcdef, 0x01234567, 9], 10, 16⟩
    let widthOf (width : Nat) : LiteralWidth → Except Diagnostic Nat := fun _ => .ok width
    i.IsWide 2 (widthOf 64) 64 ∧ i.literalNumber 2 (widthOf 64) = .ok 0x0123456789abcdef ∧
      (i.literalNumberIn 2 (recording (widthOf 64))).run.run [] =
        (.ok 0x0123456789abcdef, [.ofResultType]) ∧
      (∀ value, i.literalNumber 2 (widthOf 65) ≠ .ok value) := by
  intro i widthOf
  have hasked : i.askedShape? 2 = some .ofResultType := by decide +kernel
  have hwide : i.IsWide 2 (widthOf 64) 64 := .asked hasked rfl
  obtain ⟨-, -, hrecord, -, -, -, -, hread⟩ := literalNumber_exact i 2 (widthOf 64)
  obtain ⟨-, -, -, -, -, hiff, -⟩ := literalNumber_exact i 2 (widthOf 65)
  have hvalue := hread 64 0x0123456789abcdef [9] hwide (by decide) (by decide) (by decide +kernel)
  refine ⟨hwide, hvalue, (hrecord []).trans (by rw [hvalue, hasked]; rfl), fun value h => ?_⟩
  obtain ⟨width, hwidth, hcount, -⟩ := (hiff value).mp h
  cases hwidth with
  | fixed hshape => exact absurd (askedShape?_eq_some_iff.mp hasked).1 (by rw [hshape]; simp)
  | asked _ hw =>
    obtain rfl := Except.ok.inj hw
    exact absurd hcount (by decide)

end Instruction

end ShaderLowering
