import ShaderLowering.Proofs.Lowering.Gathered
import ShaderLowering.Proofs.Operand.LiteralValues

/-!
# What is noted for later instructions

Decorations, constants and the widths of scalar types are not emitted. They are noted, and an
instruction that comes later looks them up: a struct and an input or output look for their
decorations, a constant for the width of its type, and an array for its length. What an
instruction notes of them is said here once, by `ShaderLowering.Declarations.Records`.

The decorations of a walk are those that stand outside of functions, in their order
(`ShaderLowering.Declarations.Walks.decorations_eq`). Constants and widths are kept with the
latest first, so that what is looked up was noted by the last instruction that could have
noted it (`ShaderLowering.Declarations.Walks.exists_latest`).
-/

namespace ShaderLowering

/-! ### Which instruction notes what -/

/-- The decoration that a word and the words after it give: there is none if the word names no
kind of decoration, or if there are more parameters than a decoration has. -/
def decorationOf? (kind : Word) (parameters : List Word) : Option Decoration :=
  (Enumerant.ofWord? kind).bind fun kind => Decoration.ofParameters? kind parameters

namespace Instruction

variable {i : Instruction}

/-- What an instruction writes about an id, or the member of a struct: the number of a kind of
decoration, and parameters. -/
def writing? (i : Instruction) : Option (DecorationTarget × Word × List Word) :=
  match i.op?, i.operands with
  | some .decorate, id :: kind :: parameters => some (.object id, kind, parameters)
  | some .memberDecorate, id :: index :: kind :: parameters =>
    some (.member id index.toNat, kind, parameters)
  | _, _ => none

/-- What an instruction decorates, and how. -/
def decoration? (i : Instruction) : Option (DecorationTarget × Decoration) :=
  i.writing?.bind fun (target, kind, parameters) =>
    (decorationOf? kind parameters).map fun decoration => (target, decoration)

/-- The id of the constant to which an instruction gives a value. -/
def constantId? (i : Instruction) : Option Id :=
  if i.op? = some .constant ∨ i.op? = some .specConstant then i.operands[1]? else none

/-- The id of the number type that an instruction declares. -/
def scalarId? (i : Instruction) : Option Id :=
  if i.op? = some .typeInt ∨ i.op? = some .typeFloat then i.operands[0]? else none

theorem decoration?_eq_none (h : i.op? ≠ some .decorate) (h' : i.op? ≠ some .memberDecorate) :
    i.decoration? = none := by
  rw [decoration?, writing?]
  split
  · exact absurd (by assumption) h
  · exact absurd (by assumption) h'
  · rfl

theorem operandsFrom_eq_cons {index : Nat} {w : Word} (h : i.operand index = .ok w) :
    i.operandsFrom index = w :: i.operandsFrom (index + 1) := by
  obtain ⟨hlt, rfl⟩ := List.getElem?_eq_some_iff.mp (of_operand h)
  exact List.drop_eq_getElem_cons hlt

/-- What decorates an id. -/
theorem decoration?_of_decorate (hi : i.op? = some .decorate) {id kind : Word}
    (hid : i.operand 0 = .ok id) (hkind : i.operand 1 = .ok kind) :
    i.decoration? =
      (decorationOf? kind (i.operandsFrom 2)).map fun decoration => (.object id, decoration) := by
  have hoperands : i.operands = id :: kind :: i.operandsFrom 2 :=
    (operandsFrom_eq_cons hid).trans (congrArg (id :: ·) (operandsFrom_eq_cons hkind))
  rw [decoration?, writing?, hi]
  conv_lhs => rw [hoperands]
  rfl

/-- What decorates a member of a struct. -/
theorem decoration?_of_memberDecorate (hi : i.op? = some .memberDecorate) {id index kind : Word}
    (hid : i.operand 0 = .ok id) (hindex : i.operand 1 = .ok index)
    (hkind : i.operand 2 = .ok kind) :
    i.decoration? = (decorationOf? kind (i.operandsFrom 3)).map
      fun decoration => (.member id index.toNat, decoration) := by
  have hoperands : i.operands = id :: index :: kind :: i.operandsFrom 3 := by
    refine (operandsFrom_eq_cons hid).trans (congrArg (id :: ·) ?_)
    exact (operandsFrom_eq_cons hindex).trans (congrArg (index :: ·) (operandsFrom_eq_cons hkind))
  rw [decoration?, writing?, hi]
  conv_lhs => rw [hoperands]
  rfl

/-- The instruction gives a constant its value, which has as many bits as the width says; of a
value that takes two words the first has the low bits. -/
structure GivesConstant (i : Instruction) (id type : Id) (width value : Nat) : Prop where
  op : i.op? = some .constant ∨ i.op? = some .specConstant
  type : i.operands[0]? = some type
  id : i.operands[1]? = some id
  narrow : width ≤ 32 → ∃ low, i.operands[2]? = some low ∧ value = low.toNat
  wide : 32 < width → width ≤ 64 ∧ ∃ low high, i.operands[2]? = some low ∧
    i.operands[3]? = some high ∧ value = low.toNat + UInt32.size * high.toNat

end Instruction

/-- The decorations that instructions give to a target, in their order. -/
def decorationsGiven (instructions : List Instruction) (target : DecorationTarget) :
    List Decoration :=
  (instructions.filterMap Instruction.decoration?).filterMap fun entry =>
    if entry.1 = target then some entry.2 else none

namespace Declarations

open Workspace

variable {d d₁ d' : Declarations} {arena : TypeArena} {i : Instruction}
  {is : List Instruction} {id : Id} {n : NodeId} {op : Opcode}

/-! ### What an instruction notes -/

/-- **What an instruction notes of decorations, constants and widths.** -/
inductive Records (d : Declarations) (i : Instruction) : Declarations → Prop
  /-- It decorates something. -/
  | decoration {entry : DecorationTarget × Decoration} (hopen : d.openFunction = none)
      (hop : i.op? = some .decorate ∨ i.op? = some .memberDecorate)
      (hentry : i.decoration? = some entry) :
    Records d i { d with decorations := d.decorations ++ [entry] }
  /-- It gives a constant its value. -/
  | constant {id type : Id} {width value : Nat} (hopen : d.openFunction = none)
      (hi : i.GivesConstant id type width value)
      (hwidth : d.scalarWidths.lookup type = some width) :
    Records d i { d with constants := (id, value) :: d.constants }
  /-- It declares a number type. -/
  | scalar {d' : Declarations} {id : Id} {width : Word} (hopen : d.openFunction = none)
      (hop : i.op? = some .typeInt ∨ i.op? = some .typeFloat)
      (hid : i.operands[0]? = some id) (hwidth : i.operands[1]? = some width)
      (hwidths : d'.scalarWidths = (id, width.toNat) :: d.scalarWidths)
      (hdecorations : d'.decorations = d.decorations) (hconstants : d'.constants = d.constants) :
    Records d i d'
  /-- It notes nothing of them. -/
  | nothing {d' : Declarations} (hdecoration : d.openFunction = none → i.decoration? = none)
      (hconstant : d.openFunction = none → i.constantId? = none)
      (hscalar : d.openFunction = none → i.scalarId? = none)
      (hwidths : d'.scalarWidths = d.scalarWidths)
      (hdecorations : d'.decorations = d.decorations) (hconstants : d'.constants = d.constants) :
    Records d i d'

/-- Nothing is noted by an instruction that is none of those that note something. -/
theorem Records.of_op (hi : i.op? = some op)
    (hop : op ∉ [.decorate, .memberDecorate, .constant, .specConstant, .typeInt, .typeFloat])
    (hwidths : d'.scalarWidths = d.scalarWidths) (hdecorations : d'.decorations = d.decorations)
    (hconstants : d'.constants = d.constants) : Records d i d' := by
  simp only [List.mem_cons, List.not_mem_nil, or_false, not_or] at hop
  obtain ⟨hdecorate, hmember, hconstant, hspec, hint, hfloat⟩ := hop
  refine .nothing (fun _ => ?_) (fun _ => if_neg ?_) (fun _ => if_neg ?_) hwidths hdecorations
    hconstants
  · exact Instruction.decoration?_eq_none (by simpa [hi]) (by simpa [hi])
  · simp [hi, hconstant, hspec]
  · simp [hi, hint, hfloat]

/-- Neither do names, entry points, variables and functions note anything, nor what stands
inside of functions. -/
theorem Reads.records_nothing (h : Reads d i d')
    (hother : d.openFunction = none → i.op? = some .name ∨ i.op? = some .entryPoint ∨
      i.op? = some .variableOp ∨ i.op? = some .function) :
    d'.scalarWidths = d.scalarWidths ∧ d'.decorations = d.decorations ∧
      d'.constants = d.constants := by
  cases h with
  | other hopen hname hentry hvariable hfunction =>
    rcases hother hopen with h | h | h | h
    · exact absurd h hname
    · exact absurd h hentry
    · exact absurd h hvariable
    · exact absurd h hfunction
  | _ => exact ⟨rfl, rfl, rfl⟩

/-- A decoration that does not count is passed over. -/
theorem Records.of_addDecoration {target : DecorationTarget} {index : Nat}
    (hopen : d.openFunction = none)
    (hop : i.op? = some .decorate ∨ i.op? = some .memberDecorate)
    (hentry : ∀ kind, i.operand index = .ok kind → i.decoration? =
      (decorationOf? kind (i.operandsFrom (index + 1))).map fun decoration => (target, decoration))
    (h : d.addDecoration i target index = .ok d') : Records d i d' := by
  obtain ⟨read, hread, h⟩ := of_bind_eq_ok h
  obtain ⟨kind, hkind, hread⟩ := of_bind_eq_ok hread
  have hdecoration := hentry kind hkind
  rw [decorationOf?, Except.ok.inj hread] at hdecoration
  cases read with
  | none =>
    rw [← Except.ok.inj h]
    refine .nothing (fun _ => hdecoration) (fun _ => if_neg ?_) (fun _ => if_neg ?_) rfl rfl rfl
    · rcases hop with hop | hop <;> simp [hop]
    · rcases hop with hop | hop <;> simp [hop]
  | some decoration =>
    rw [← Except.ok.inj h]
    exact .decoration hopen hop hdecoration

/-- A literal of one word or of two. -/
theorem of_literalWords {i : Instruction} {width : Nat} (hcount : literalWordCount width ≤ 2)
    (hroom : 2 + literalWordCount width ≤ i.operands.length) :
    (width ≤ 32 → ∃ low, i.operands[2]? = some low ∧
      valueOfWords ((i.operandsFrom 2).take (literalWordCount width)) = low.toNat) ∧
    (32 < width → width ≤ 64 ∧ ∃ low high, i.operands[2]? = some low ∧
      i.operands[3]? = some high ∧
      valueOfWords ((i.operandsFrom 2).take (literalWordCount width)) =
        low.toNat + UInt32.size * high.toNat) := by
  have hget (index : Nat) : i.operands[2 + index]? = (i.operandsFrom 2)[index]? :=
    List.getElem?_drop.symm
  have hlow := hget 0
  have hhigh := hget 1
  have hlength : literalWordCount width ≤ (i.operandsFrom 2).length := by
    rw [Instruction.operandsFrom, List.length_drop]
    exact Nat.le_sub_of_add_le' hroom
  rw [literalWordCount] at hcount hlength ⊢
  constructor
  · intro hwidth
    have hone : (max width 1 + 31) / 32 = 1 := by omega
    rw [hone] at hlength ⊢
    obtain ⟨low, words, hwords⟩ := List.exists_cons_of_length_pos hlength
    rw [hwords] at hlow ⊢
    exact ⟨low, hlow, by simp⟩
  · intro hwidth
    have htwo : (max width 1 + 31) / 32 = 2 := by omega
    rw [htwo] at hlength ⊢
    obtain ⟨low, after, hafter⟩ := List.exists_cons_of_length_pos (Nat.two_pos.trans_le hlength)
    rw [hafter] at hlength hlow hhigh ⊢
    obtain ⟨high, words, rfl⟩ := List.exists_cons_of_length_pos (Nat.le_of_succ_le_succ hlength)
    exact ⟨by omega, low, high, hlow, hhigh, by simp⟩

theorem Records.of_addConstant (hopen : d.openFunction = none)
    (hop : i.op? = some .constant ∨ i.op? = some .specConstant)
    (h : d.addConstant i = .ok d') : Records d i d' := by
  obtain ⟨type, htype, h⟩ := of_bind_eq_ok h
  obtain ⟨id, hid, h⟩ := of_bind_eq_ok h
  obtain ⟨value, hvalue, h⟩ := of_bind_eq_ok h
  have hasked : i.askedShape? 2 = some .ofResultType := by
    rcases hop with hop | hop <;> rw [Instruction.askedShape?, Instruction.shape, hop] <;> rfl
  rw [← Except.ok.inj h]
  rw [Instruction.literalNumber_of_asked hasked] at hvalue
  obtain ⟨width, hwidth, hvalue⟩ := of_bind_eq_ok hvalue
  obtain ⟨hcount, hroom, hvalue⟩ := Instruction.literalOfWidth_eq_ok_iff.mp hvalue
  obtain ⟨hnarrow, hwide⟩ := of_literalWords hcount hroom
  rw [← hvalue] at hnarrow hwide
  dsimp only at hwidth
  split at hwidth
  · rename_i width' hlookup
    obtain rfl := Except.ok.inj hwidth
    exact .constant hopen ⟨hop, Instruction.of_operand htype, Instruction.of_operand hid,
      hnarrow, hwide⟩ hlookup
  · exact absurd hwidth (by simp)

/-! ### Type declarations -/

theorem scalarWidths_of_define {added : NodeId × Workspace} (h : d.define i id added = .ok d') :
    d'.scalarWidths = d.scalarWidths := by
  obtain ⟨-, rfl⟩ := of_define h
  rfl

theorem scalarWidths_of_declareVector
    {make : TypeArena → Ty → Nat → Except TypeFault (Ty × TypeArena)}
    (h : d.declareVector i id make = .ok d') : d'.scalarWidths = d.scalarWidths := by
  obtain ⟨componentId, -, h⟩ := of_bind_eq_ok h
  obtain ⟨component, -, h⟩ := of_bind_eq_ok h
  obtain ⟨count, -, h⟩ := of_bind_eq_ok h
  obtain ⟨type, -, h⟩ := of_bind_eq_ok h
  obtain ⟨made, -, h⟩ := of_bind_eq_ok h
  exact scalarWidths_of_define h

theorem scalarWidths_of_declareArray (h : d.declareArray i id = .ok d') :
    d'.scalarWidths = d.scalarWidths := by
  obtain ⟨elementId, -, h⟩ := of_bind_eq_ok h
  obtain ⟨element, -, h⟩ := of_bind_eq_ok h
  obtain ⟨length, -, h⟩ := of_bind_eq_ok h
  split at h
  · exact scalarWidths_of_define h
  · exact nomatch h

theorem scalarWidths_of_declarePointer (h : d.declarePointer i id = .ok d') :
    d'.scalarWidths = d.scalarWidths := by
  obtain ⟨word, -, h⟩ := of_bind_eq_ok h
  obtain ⟨storage, -, h⟩ := of_bind_eq_ok h
  obtain ⟨pointeeId, -, h⟩ := of_bind_eq_ok h
  obtain ⟨pointee, -, h⟩ := of_bind_eq_ok h
  split at h
  · exact scalarWidths_of_define h
  · split at h
    · split at h
      · exact nomatch h
      · split at h
        · obtain ⟨w, -, h⟩ := of_bind_eq_ok h
          rw [← Except.ok.inj h]
        · exact nomatch h
    · exact nomatch h

/-- A number type that is declared has its width noted. -/
theorem Records.of_declareScalar {make : Nat → Except TypeFault (Ty × TypeArena)}
    (hopen : d.openFunction = none) (hop : i.op? = some .typeInt ∨ i.op? = some .typeFloat)
    (hid : i.operands[0]? = some id) (h : d.declareScalar i id make = .ok d') :
    Records d i d' := by
  obtain ⟨width, hwidth, h⟩ := of_bind_eq_ok h
  obtain ⟨made, -, h⟩ := of_bind_eq_ok h
  obtain ⟨d₁, hd₁, h⟩ := of_bind_eq_ok h
  obtain ⟨-, rfl⟩ := of_define hd₁
  rw [← Except.ok.inj h]
  exact .scalar hopen hop hid (Instruction.of_operand hwidth) rfl rfl rfl

/-- Only number types have their widths noted. -/
theorem Records.of_declareType (hopen : d.openFunction = none) (hi : i.op? = some op)
    (htype : op.isTypeDeclaration = true) (h : d.declareType op i = .ok d') :
    Records d i d' := by
  obtain ⟨w, types, scalarWidths, heq, -⟩ := TypesChange.of_declareType h
  have hnothing (hop : op ≠ .typeInt ∧ op ≠ .typeFloat)
      (hwidths : d'.scalarWidths = d.scalarWidths) : Records d i d' := by
    refine .of_op hi (fun hmem => ?_) hwidths (heq ▸ rfl) (heq ▸ rfl)
    simp only [List.mem_cons, List.not_mem_nil, or_false] at hmem
    rcases hmem with rfl | rfl | rfl | rfl | rfl | rfl
    · exact absurd htype (by decide)
    · exact absurd htype (by decide)
    · exact absurd htype (by decide)
    · exact absurd htype (by decide)
    · exact hop.1 rfl
    · exact hop.2 rfl
  obtain ⟨id, hid, h⟩ := of_bind_eq_ok h
  dsimp only at h
  split at h
  · exact hnothing (by decide) (scalarWidths_of_define h)
  · exact hnothing (by decide) (scalarWidths_of_define h)
  · exact .of_declareScalar hopen (Or.inl hi) (Instruction.of_operand hid) h
  · exact .of_declareScalar hopen (Or.inr hi) (Instruction.of_operand hid) h
  · exact hnothing (by decide) (scalarWidths_of_declareVector h)
  · exact hnothing (by decide) (scalarWidths_of_declareVector h)
  · exact hnothing (by decide) (scalarWidths_of_declareArray h)
  · obtain ⟨elementId, -, h⟩ := of_bind_eq_ok h
    obtain ⟨element, -, h⟩ := of_bind_eq_ok h
    exact hnothing (by decide) (scalarWidths_of_define h)
  · obtain ⟨types, -, h⟩ := of_bind_eq_ok h
    exact hnothing (by decide) (scalarWidths_of_define h)
  · obtain ⟨word, -, h⟩ := of_bind_eq_ok h
    obtain ⟨storage, -, h⟩ := of_bind_eq_ok h
    exact hnothing (by decide) (scalarWidths_of_define h)
  · exact hnothing (by decide) (scalarWidths_of_declarePointer h)
  · obtain ⟨resultId, -, h⟩ := of_bind_eq_ok h
    obtain ⟨result, -, h⟩ := of_bind_eq_ok h
    obtain ⟨args, -, h⟩ := of_bind_eq_ok h
    exact hnothing (by decide) (scalarWidths_of_define h)
  · exact nomatch h

/-! ### Every instruction -/

theorem Records.of_addExecutionMode (hi : i.op? = some .executionMode)
    (h : d.addExecutionMode i = .ok d') : Records d i d' := by
  obtain ⟨function, -, h⟩ := of_bind_eq_ok h
  obtain ⟨word, -, h⟩ := of_bind_eq_ok h
  split at h
  · rw [← Except.ok.inj h]
    exact .of_op hi (by decide) rfl rfl rfl
  · obtain ⟨size, -, h⟩ := of_bind_eq_ok h
    dsimp only at h
    split at h
    · rw [← Except.ok.inj h]
      exact .of_op hi (by decide) rfl rfl rfl
    · exact nomatch h

/-- An instruction that is read by one of the handlers that note nothing. -/
theorem Records.of_reads (h : Reads d i d') (hi : i.op? = some op)
    (hop : op = .name ∨ op = .entryPoint ∨ op = .variableOp ∨ op = .function) :
    Records d i d' := by
  obtain ⟨hwidths, hdecorations, hconstants⟩ := h.records_nothing fun _ => by
    rcases hop with rfl | rfl | rfl | rfl <;> simp [hi]
  refine .of_op hi ?_ hwidths hdecorations hconstants
  rcases hop with rfl | rfl | rfl | rfl <;> decide

theorem Records.of_visitOutside (hopen : d.openFunction = none) (hi : i.op? = some op)
    (h : d.visitOutside op i = .ok d') : Records d i d' := by
  revert h
  fun_cases visitOutside d op i
  all_goals intro h
  · exact .of_reads (.of_addName hopen hi h) hi (by decide)
  · obtain ⟨id, hid, h⟩ := of_bind_eq_ok h
    exact .of_addDecoration hopen (Or.inl hi)
      (fun _ hkind => Instruction.decoration?_of_decorate hi hid hkind) h
  · obtain ⟨struct, hstruct, h⟩ := of_bind_eq_ok h
    obtain ⟨index, hindex, h⟩ := of_bind_eq_ok h
    exact .of_addDecoration hopen (Or.inr hi)
      (fun _ hkind => Instruction.decoration?_of_memberDecorate hi hstruct hindex hkind) h
  · exact absurd h (by simp)
  · exact absurd h (by simp)
  · exact absurd h (by simp)
  · exact .of_reads (.of_addEntryPoint hopen hi h) hi (by decide)
  · exact .of_addExecutionMode hi h
  · exact .of_addConstant hopen (Or.inl hi) h
  · exact .of_addConstant hopen (Or.inr hi) h
  · exact .of_reads (.of_addVariable hopen hi h) hi (by decide)
  · exact .of_reads (.of_beginFunction hopen hi h) hi (by decide)
  · exact absurd h (by simp)
  · exact absurd h (by simp)
  · rw [if_pos (by assumption)] at h
    exact .of_declareType hopen hi (by assumption) h
  · have htype : ¬op.isTypeDeclaration = true := by assumption
    have hother : op ≠ .decorate ∧ op ≠ .memberDecorate ∧ op ≠ .constant ∧ op ≠ .specConstant :=
      ⟨by assumption, by assumption, by assumption, by assumption⟩
    rw [if_neg htype] at h
    rw [← Except.ok.inj h]
    refine .of_op hi (fun hmem => ?_) rfl rfl rfl
    simp only [List.mem_cons, List.not_mem_nil, or_false, hother, false_or] at hmem
    rcases hmem with rfl | rfl
    · exact htype rfl
    · exact htype rfl

/-- **What an instruction notes is one of these.** -/
theorem records (h : d.visit i = .ok d') : Records d i d' := by
  have hreads := reads h
  rw [visit] at h
  split at h
  · rename_i hopen
    have hinside : d.openFunction ≠ none := hopen ▸ Option.some_ne_none _
    obtain ⟨hwidths, hdecorations, hconstants⟩ :=
      hreads.records_nothing fun hnone => absurd hnone hinside
    exact .nothing (absurd · hinside) (absurd · hinside) (absurd · hinside) hwidths hdecorations
      hconstants
  · rename_i hopen hi
    exact .of_visitOutside hopen hi h
  · rename_i hopen hi
    rw [← Except.ok.inj h]
    refine .nothing (fun _ => ?_) (fun _ => if_neg ?_) (fun _ => if_neg ?_) rfl rfl rfl
    · exact Instruction.decoration?_eq_none (by simp [hi]) (by simp [hi])
    · simp [hi]
    · simp [hi]

/-! ### What a walk has noted -/

theorem Records.decorations_eq (h : Records d i d') :
    d'.decorations = d.decorations ++ (d.heard i).filterMap Instruction.decoration? := by
  have hnone (hi : d.openFunction = none → i.decoration? = none) :
      (d.heard i).filterMap Instruction.decoration? = [] := by
    cases hopen : d.openFunction with
    | none => rw [heard_of_none hopen, List.filterMap_cons_none (hi hopen), List.filterMap_nil]
    | some f => rw [heard_of_some hopen, List.filterMap_nil]
  cases h with
  | decoration hopen _ hentry =>
    rw [heard_of_none hopen, List.filterMap_cons_some hentry, List.filterMap_nil]
  | constant _ hi =>
    rw [hnone fun _ => ?_, List.append_nil]
    rcases hi.op with hop | hop
    all_goals exact Instruction.decoration?_eq_none (by simp [hop]) (by simp [hop])
  | scalar _ hop _ _ _ hdecorations =>
    rw [hnone fun _ => ?_, List.append_nil, hdecorations]
    rcases hop with hop | hop
    all_goals exact Instruction.decoration?_eq_none (by simp [hop]) (by simp [hop])
  | nothing hdecoration _ _ _ hdecorations =>
    rw [hnone hdecoration, List.append_nil, hdecorations]

/-- **The decorations of a walk** are those that are given outside of functions, in their
order. -/
theorem Walks.decorations_eq (h : Walks arena d is d') :
    d'.decorations = d.decorations ++
      (outside d.openFunction.isSome is).filterMap Instruction.decoration? := by
  induction h with
  | nil => rw [outside, List.filterMap_nil, List.append_nil]
  | cons _ hvisit _ hreads _ ih =>
    rw [ih, (records hvisit).decorations_eq, hreads.outside_cons, List.filterMap_append,
      List.append_assoc]

/-- The decorations that are looked up are those that came before. -/
theorem ComesBy.decorationsOf_eq {before after : List Instruction} {d₂ : Declarations}
    (h : ComesBy arena { workspace := { arena } } before i after d' d₁ d₂)
    (target : DecorationTarget) : d₁.decorationsOf target = decorationsGiven before target := by
  obtain ⟨is, rfl, hwalks⟩ := h.earlier
  rw [decorationsOf, hwalks.decorations_eq]
  rfl

/-- **What is looked up was noted by the last instruction that could have noted it**, unless it
was there before the walk and none was noted since. The list that is looked at has the latest
entry first, and each instruction with a key adds an entry of that key. -/
theorem Walks.exists_latest {β : Type} (h : Walks arena d is d')
    (view : Declarations → List (Id × β)) (key? : Instruction → Option Id)
    (hstep : ∀ d i d', Records d i d' →
      (view d' = view d ∧ (d.openFunction = none → key? i = none)) ∨
        d.openFunction = none ∧ ∃ entry, view d' = entry :: view d ∧ key? i = some entry.1)
    {b : β} (hb : (view d').lookup id = some b) :
    ((view d).lookup id = some b ∧
        ∀ j ∈ outside d.openFunction.isSome is, key? j ≠ some id) ∨
      ∃ before c after d₁ d₂, outside d.openFunction.isSome is = before ++ c :: after ∧
        ComesBy arena d before c after d' d₁ d₂ ∧ view d₂ = (id, b) :: view d₁ ∧
        key? c = some id ∧ ∀ j ∈ after, key? j ≠ some id := by
  induction h with
  | nil =>
    refine Or.inl ⟨hb, ?_⟩
    rw [outside]
    exact List.forall_mem_nil _
  | @cons d d₀ d' i is hd hvisit hvisits hreads hrest ih =>
    rw [hreads.outside_cons]
    rcases ih hb with ⟨hlookup, hnone⟩ | ⟨before, c, after, d₁, d₂, hsplit, hby, hfound⟩
    · rcases hstep d i d₀ (records hvisit) with ⟨hview, hi⟩ | ⟨hopen, entry, hview, hkey⟩
      · refine Or.inl ⟨hview ▸ hlookup, List.forall_mem_append.mpr ⟨fun j hj => ?_, hnone⟩⟩
        cases hopen : d.openFunction with
        | none =>
          rw [heard_of_none hopen, List.mem_singleton] at hj
          rw [hj, hi hopen]
          exact (Option.some_ne_none id).symm
        | some f =>
          rw [heard_of_some hopen] at hj
          exact absurd hj List.not_mem_nil
      · rw [heard_of_none hopen]
        rw [hview, List.lookup_cons] at hlookup
        split at hlookup
        · -- the entry is that of the instruction
          rename_i heq
          obtain ⟨id', b'⟩ := entry
          obtain rfl : id = id' := eq_of_beq heq
          obtain rfl := Option.some.inj hlookup
          refine Or.inr ⟨[], i, _, d, d₀, rfl, ⟨⟨[], ?_, .nil hd⟩, hopen, hvisit, is, rfl, hrest⟩,
            hview, hkey, hnone⟩
          rw [outside]
        · rename_i hne
          refine Or.inl ⟨hlookup, List.forall_mem_cons.mpr ⟨fun hcon => ?_, hnone⟩⟩
          rw [hkey, Option.some.injEq] at hcon
          rw [hcon, beq_self_eq_true] at hne
          exact absurd hne (by decide)
    · refine Or.inr ⟨d.heard i ++ before, c, after, d₁, d₂, ?_,
        hby.cons hd hvisit hvisits hreads, hfound⟩
      rw [hsplit, List.append_assoc]

/-! ### Widths and constants -/

/-- Among the instructions is one that declares a type of integers or of floating-point numbers
of a width. -/
def DeclaresNumber (instructions : List Instruction) (type : Id) (width : Nat) : Prop :=
  ∃ i ∈ instructions, (i.op? = some .typeInt ∨ i.op? = some .typeFloat) ∧
    i.operands[0]? = some type ∧ ∃ word, i.operands[1]? = some word ∧ width = word.toNat

theorem Records.scalarWidths_cases (h : Records d i d') :
    (d'.scalarWidths = d.scalarWidths ∧ (d.openFunction = none → i.scalarId? = none)) ∨
      d.openFunction = none ∧ ∃ entry, d'.scalarWidths = entry :: d.scalarWidths ∧
        i.scalarId? = some entry.1 := by
  cases h with
  | decoration _ hop =>
    refine Or.inl ⟨rfl, fun _ => if_neg ?_⟩
    rcases hop with hop | hop <;> simp [hop]
  | constant _ hi =>
    refine Or.inl ⟨rfl, fun _ => if_neg ?_⟩
    rcases hi.op with hop | hop <;> simp [hop]
  | scalar hopen hop hid _ hwidths => exact Or.inr ⟨hopen, _, hwidths, (if_pos hop).trans hid⟩
  | nothing _ _ hscalar hwidths => exact Or.inl ⟨hwidths, hscalar⟩

theorem Records.constants_cases (h : Records d i d') :
    (d'.constants = d.constants ∧ (d.openFunction = none → i.constantId? = none)) ∨
      d.openFunction = none ∧ ∃ entry, d'.constants = entry :: d.constants ∧
        i.constantId? = some entry.1 := by
  cases h with
  | decoration _ hop =>
    refine Or.inl ⟨rfl, fun _ => if_neg ?_⟩
    rcases hop with hop | hop <;> simp [hop]
  | constant hopen hi => exact Or.inr ⟨hopen, _, rfl, (if_pos hi.op).trans hi.id⟩
  | scalar _ hop _ _ _ _ hconstants =>
    refine Or.inl ⟨hconstants, fun _ => if_neg ?_⟩
    rcases hop with hop | hop <;> simp [hop]
  | nothing _ hconstant _ _ _ hconstants => exact Or.inl ⟨hconstants, hconstant⟩

/-- **The widths of a walk** are those of number types that are declared outside of
functions. -/
theorem Walks.declaresNumber (h : Walks arena { workspace := { arena } } is d) {width : Nat}
    (hwidth : d.scalarWidths.lookup id = some width) :
    DeclaresNumber (moduleScope is) id width := by
  rcases h.exists_latest scalarWidths Instruction.scalarId?
    (fun _ _ _ h => h.scalarWidths_cases) hwidth with
    ⟨hnone, -⟩ | ⟨before, c, after, d₁, d₂, hsplit, hby, hview, -⟩
  · exact nomatch hnone
  · -- the entry is the one that the instruction notes
    have hc : c ∈ moduleScope is := by
      rw [moduleScope]
      exact hsplit ▸ List.mem_append_right _ List.mem_cons_self
    have hlength := congrArg List.length hview
    cases records hby.visit with
    | decoration => exact absurd hlength (by simp)
    | constant => exact absurd hlength (by simp)
    | nothing _ _ _ hwidths => exact absurd (hwidths ▸ hlength) (by simp)
    | scalar _ hop hid hword hwidths =>
      obtain ⟨hentry, -⟩ := List.cons.inj (hview.symm.trans hwidths)
      obtain ⟨rfl, rfl⟩ := Prod.mk.inj hentry
      exact ⟨c, hc, hop, hid, _, hword, rfl⟩

/-- The last of the instructions that give a constant a value gives it this one, and its type was
declared before. -/
def GivesLast (instructions : List Instruction) (id : Id) (value : Nat) : Prop :=
  ∃ before c after type width, instructions = before ++ c :: after ∧
    c.GivesConstant id type width value ∧ (∀ j ∈ after, j.constantId? ≠ some id) ∧
    DeclaresNumber before type width

/-- **The constants of a walk** have the values that were given them last. -/
theorem Walks.givesLast (h : Walks arena { workspace := { arena } } is d) {value : Nat}
    (hvalue : d.constants.lookup id = some value) : GivesLast (moduleScope is) id value := by
  rcases h.exists_latest constants Instruction.constantId?
    (fun _ _ _ h => h.constants_cases) hvalue with
    ⟨hnone, -⟩ | ⟨before, c, after, d₁, d₂, hsplit, hby, hview, -, hlater⟩
  · exact nomatch hnone
  · have hlength := congrArg List.length hview
    obtain ⟨is₁, hbefore, hwalks⟩ := hby.earlier
    cases records hby.visit with
    | decoration => exact absurd hlength (by simp)
    | scalar _ _ _ _ _ _ hconstants => exact absurd (hconstants ▸ hlength) (by simp)
    | nothing _ _ _ _ _ hconstants => exact absurd (hconstants ▸ hlength) (by simp)
    | @constant id' type width value' _ hi hwidth =>
      obtain ⟨hentry, -⟩ := List.cons.inj hview
      obtain ⟨rfl, rfl⟩ := Prod.mk.inj hentry
      exact ⟨before, c, after, type, width, hsplit, hi, hlater, hbefore ▸
        hwalks.declaresNumber hwidth⟩

end Declarations

end ShaderLowering
