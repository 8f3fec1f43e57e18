import Mathlib.Algebra.Group.Nat.Even
import Mathlib.Data.List.DropRight
import Mathlib.Data.Nat.PSub
import Mathlib.Data.Stream.Init
import Mathlib.Tactic.IntervalCases
import ShaderLowering.Operand.LiteralShape

/-!
# Shapes without end

An instruction may have any number of operands, and a list of shapes stands for shapes without
end: the list itself, and then its last members over and over (`ShaderLowering.endless`). To look
up a shape, the index of an operand is brought back into the list. The remainder that does this
is taken from where the repeating tail begins, and not from where the list ends, so that it has to
be in step with the list for every length of the two (`ShaderLowering.getElem_place?`).

The arithmetic is that of natural numbers, where a difference that would be negative is zero and
a remainder by zero is something as well. That nothing of the kind ever comes in is said by doing
it once more with operations that do not come to anything then (`ShaderLowering.place?`).
-/

namespace ShaderLowering

/-! ### Lists whose end repeats -/

section Endless

variable {α : Type} {l : List α} {tail : Nat}

/-- The list, and after it its last `tail` members over and over. -/
def endless (l : List α) (tail : Nat) (h : l.rtake tail ≠ []) : Stream' α :=
  l ++ₛ Stream'.cycle (l.rtake tail) h

/-- Where the member at an index stands on a list of the given length whose tail repeats. Nothing
comes of it if a difference would be negative, or a remainder by zero. -/
def place? (length tail index : Nat) : Option Nat :=
  if index < length then some index
  else do
    let tailLength := min tail length
    let tailStart ← length.psub tailLength
    let past ← index.psub tailStart
    if tailLength = 0 then none else return tailStart + past % tailLength

theorem length_rtake (l : List α) (tail : Nat) : (l.rtake tail).length = min tail l.length := by
  rw [List.rtake, List.length_drop]
  omega

theorem rtake_ne_nil (hl : l ≠ []) (htail : 0 < tail) : l.rtake tail ≠ [] := by
  have hpos := List.length_pos_iff.mpr hl
  rw [← List.length_pos_iff, length_rtake]
  omega

/-- What is repeated over and over stands at the remainder of the index. -/
theorem get_cycle (hl : l ≠ []) (index : Nat) :
    (Stream'.cycle l hl).get index =
      l.get ⟨index % l.length, Nat.mod_lt _ (List.length_pos_iff.mpr hl)⟩ := by
  -- one time round the list takes as many members off the index as the list has
  induction index using Nat.strong_induction_on with
  | _ index ih =>
    have hpos := List.length_pos_iff.mpr hl
    rw [Stream'.cycle_eq]
    by_cases hlt : index < l.length
    · rw [Stream'.get_append_left _ _ _ hlt]
      simp only [Nat.mod_eq_of_lt hlt, List.get_eq_getElem]
    · obtain ⟨past, rfl⟩ := Nat.exists_eq_add_of_le (Nat.le_of_not_lt hlt)
      rw [Stream'.get_append_right, ih past (by omega)]
      simp only [Nat.add_mod_left]

/-- **The place of a member is always found.** -/
theorem place?_eq_some {length : Nat} (hlength : 0 < length) (htail : 0 < tail) (index : Nat) :
    place? length tail index = some (if index < length then index
      else length - min tail length + (index - (length - min tail length)) % min tail length) := by
  rw [place?]
  split
  · rfl
  · have hpositive : min tail length ≠ 0 := by omega
    dsimp only
    rw [Nat.psub_eq_sub (Nat.min_le_right tail length), Option.bind_eq_bind, Option.bind_some,
      Nat.psub_eq_sub (by omega), Option.bind_some, if_neg hpositive]
    rfl

/-- **At its place stands the member of the endless list**, which is in step with the repeating
tail at every index. -/
theorem getElem_place? (hl : l ≠ []) (htail : 0 < tail) (index : Nat) :
    ∃ place, place? l.length tail index = some place ∧
      l[place]? = some ((endless l tail (rtake_ne_nil hl htail)).get index) := by
  have hpos := List.length_pos_iff.mpr hl
  refine ⟨_, place?_eq_some hpos htail index, ?_⟩
  split
  · rename_i hlt
    rw [endless, Stream'.get_append_left _ _ _ hlt, List.getElem?_eq_getElem hlt]
  · rename_i hle
    obtain ⟨past, rfl⟩ := Nat.exists_eq_add_of_le (Nat.le_of_not_lt hle)
    -- the list ends where the tail has been gone through once
    have hphase : (l.length + past - (l.length - min tail l.length)) % min tail l.length =
        past % min tail l.length := by
      rw [show l.length + past - (l.length - min tail l.length) = past + min tail l.length by omega,
        Nat.add_mod_right]
    have hstart : l.length - min tail l.length = l.length - tail := by omega
    have hin : past % min tail l.length < min tail l.length := Nat.mod_lt _ (by omega)
    rw [hphase, hstart, endless, Stream'.get_append_right, get_cycle,
      List.getElem?_eq_getElem (by omega)]
    simp only [length_rtake]
    simp only [List.rtake, List.get_eq_getElem, List.getElem_drop]

end Endless

namespace Opcode

variable {op : Opcode}

/-- There are shapes on the list of the instruction. -/
def IsListed (op : Opcode) : Prop :=
  op.operandShapes ≠ []

/-- At least the last shape of a list repeats. -/
theorem repeatingTail_pos (op : Opcode) : 0 < op.repeatingTail := by
  unfold repeatingTail
  split <;> decide

/-- The shapes of the operands of an instruction, without end. -/
def endlessShapes (op : Opcode) (hop : op.IsListed) : Stream' OperandShape :=
  endless op.operandShapes op.repeatingTail (rtake_ne_nil hop op.repeatingTail_pos)

/-- The shape of an operand is the one that stands at its place on the list. -/
theorem operandShape_of_place? {index place : Nat}
    (h : place? op.operandShapes.length op.repeatingTail index = some place)
    (hop : op.IsListed) : op.operandShape index = (op.operandShapes[place]?).join := by
  have hlength := List.length_pos_iff.mpr hop
  rw [place?_eq_some hlength op.repeatingTail_pos] at h
  obtain rfl := Option.some.inj h
  rw [operandShape]
  split <;> rfl

/-- **The shapes of the operands are those of the endless list.** -/
theorem operandShape_eq_get (hop : op.IsListed) (index : Nat) :
    op.operandShape index = (op.endlessShapes hop).get index := by
  obtain ⟨place, hplace, hget⟩ := getElem_place? hop op.repeatingTail_pos index
  rw [operandShape_of_place? hplace hop, hget]
  rfl

/-- An instruction without shapes on its list has no literal numbers. -/
theorem operandShape_of_not_isListed (h : ¬op.IsListed) (index : Nat) :
    op.operandShape index = none := by
  rw [IsListed, not_not] at h
  simp [operandShape, h]

/-- The operands of a switch go on in pairs. -/
theorem operandShape_switch (index : Nat) :
    Opcode.switch.operandShape index =
      if 2 ≤ index ∧ Even index then some (.ofOperand 0) else none := by
  rw [operandShape]
  split
  · rename_i hlt
    have hfour : index < 4 := hlt
    interval_cases index <;> decide
  · rename_i hle
    have hfour : 4 ≤ index := Nat.le_of_not_lt hle
    change (Opcode.switch.operandShapes[2 + (index - 2) % 2]?).join = _
    rcases Nat.even_or_odd index with heven | hodd
    · have hphase : (index - 2) % 2 = 0 := by
        have := Nat.even_iff.mp heven
        omega
      rw [hphase, if_pos ⟨by omega, heven⟩]
      rfl
    · have hphase : (index - 2) % 2 = 1 := by
        have := Nat.odd_iff.mp hodd
        omega
      rw [hphase, if_neg fun hcon => Nat.not_even_iff_odd.mpr hodd hcon.2]
      rfl

/-- An instruction is found by its name. -/
@[simp] theorem ofMnemonic?_mnemonic (op : Opcode) : ofMnemonic? op.mnemonic = some op := by
  have hall : ∀ op ∈ all, ofMnemonic? op.mnemonic = some op := by decide +kernel
  exact hall op (Enumerant.mem_all op)

/-- Only the name of an instruction finds it. -/
theorem mnemonic_of_ofMnemonic? {text : String} (h : ofMnemonic? text = some op) :
    op.mnemonic = text := by
  simpa using List.find?_some h

end Opcode

/-! ### The table by name -/

/-- **The shapes of the operands of an instruction are a list without end**, at every index however
large.

* For an instruction on the table they are its list, and then the tail of the list over and over;
  and the place at which a shape stands is found without a negative difference or a remainder by
  zero, and is on the list.
* For a switch, the operands from the third on are in turn a literal that is as wide as the selector
  and something else.
* No other name has literal numbers among its operands. -/
theorem operandShapeOf_endless (index : Nat) :
    (∀ (op : Opcode) (hop : op.IsListed),
      operandShapeOf op.mnemonic index = (op.endlessShapes hop).get index ∧
      ∃ place, place? op.operandShapes.length op.repeatingTail index = some place ∧
        op.operandShapes[place]? = some (operandShapeOf op.mnemonic index)) ∧
    operandShapeOf "OpSwitch" index =
      (if 2 ≤ index ∧ Even index then some (.ofOperand 0) else none) ∧
    ∀ name, (∀ op : Opcode, op.IsListed → op.mnemonic ≠ name) →
      operandShapeOf name index = none := by
  have hnamed (op : Opcode) : operandShapeOf op.mnemonic index = op.operandShape index := by
    rw [operandShapeOf, Opcode.ofMnemonic?_mnemonic]
  refine ⟨fun op hop => ?_, ?_, fun name hname => ?_⟩
  · rw [hnamed, Opcode.operandShape_eq_get hop]
    exact ⟨rfl, getElem_place? hop op.repeatingTail_pos index⟩
  · rw [← Opcode.operandShape_switch, ← hnamed]
    rfl
  · rw [operandShapeOf]
    split
    · rename_i op hop
      exact Opcode.operandShape_of_not_isListed
        (fun hlisted => hname op hlisted (Opcode.mnemonic_of_ofMnemonic? hop)) index
    · rfl

/-- A vector shuffle goes on with literals, a switch with pairs, and the type without values is not
on the table. -/
theorem operandShapeOf_endless_shuffle :
    (∃ hop, (Opcode.vectorShuffle.endlessShapes hop).get 1001 = some .oneWord) ∧
      place? 5 1 1001 = some 4 ∧ operandShapeOf "OpSwitch" 1001 = none ∧
      operandShapeOf "OpTypeVoid" 1001 = none := by
  have hlisted : Opcode.vectorShuffle.IsListed := List.cons_ne_nil _ _
  have hunlisted : ∀ op : Opcode, op.IsListed → op.mnemonic ≠ "OpTypeVoid" := by
    intro op hop hname
    obtain rfl : Opcode.typeVoid = op :=
      Option.some.inj (Opcode.typeVoid.ofMnemonic?_mnemonic.symm.trans
        ((congrArg Opcode.ofMnemonic? hname.symm).trans op.ofMnemonic?_mnemonic))
    exact hop rfl
  have hshape : operandShapeOf Opcode.vectorShuffle.mnemonic 1001 = some .oneWord := by
    decide +kernel
  obtain ⟨htable, hswitch, hothers⟩ := operandShapeOf_endless 1001
  obtain ⟨hget, -⟩ := htable .vectorShuffle hlisted
  have hfour : place? 5 1 1001 = some 4 := by decide +kernel
  exact ⟨⟨hlisted, hget.symm.trans hshape⟩, hfour, hswitch.trans (if_neg (by decide)),
    hothers _ hunlisted⟩

end ShaderLowering
