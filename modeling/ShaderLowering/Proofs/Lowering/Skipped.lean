import ShaderLowering.Lowering.Emission
import ShaderLowering.Proofs.Lowering.Gathered

/-!
# Instructions that are skipped

Most instructions of a shader are of no interest to the lowering: the code inside of functions,
and what a stream holds outside of them for debuggers, for validation or for other consumers. They
are skipped, which is to say that the shader may as well not have them.

Which instructions are skipped depends on where they stand, since a name or a variable counts
outside of functions only. So what is left of a stream is found by going through it as the walk
does (`ShaderLowering.heeded`), and the two go in step, also where the walk comes to an end in
front of the stream's (`ShaderLowering.Declarations.foldlM_visit_heeded`).
-/

namespace ShaderLowering

/-! ### What is left of a stream -/

/-- The instruction counts outside of functions: it declares a type, or is one of those that the
lowering reads there or refuses. -/
def Opcode.countsOutside (op : Opcode) : Bool :=
  op.isTypeDeclaration ||
    op ∈ [.name, .decorate, .memberDecorate, .decorationGroup, .groupDecorate, .groupMemberDecorate,
      .entryPoint, .executionMode, .constant, .specConstant, .variableOp, .function,
      .functionParameter, .functionEnd]

/-- The instruction counts inside of functions. -/
def Opcode.countsInside (op : Opcode) : Bool :=
  op ∈ [.function, .functionParameter, .functionEnd]

/-- The instruction counts, inside of a function or outside. An unknown one never does. -/
def Instruction.counts (i : Instruction) (inside : Bool) : Bool :=
  i.op?.any fun op => if inside then op.countsInside else op.countsOutside

/-- Whether reading goes on inside of a function after an instruction. -/
def Instruction.leadsInside (i : Instruction) (inside : Bool) : Bool :=
  if inside then i.op? != some .functionEnd else i.op? == some .function

/-- The instructions of a stream that count, when reading begins inside of a function or not. -/
def heeded : Bool → List Instruction → List Instruction
  | _, [] => []
  | inside, i :: is =>
    if i.counts inside then i :: heeded (i.leadsInside inside) is
    else heeded (i.leadsInside inside) is

namespace Instruction

variable {i : Instruction} {inside : Bool}

/-- What an instruction is that does not count, if it is known. -/
theorem not_counts_iff : ¬i.counts inside = true ↔ ∀ op, i.op? = some op →
    (if inside then op.countsInside else op.countsOutside) = false := by
  rw [counts]
  cases i.op? with
  | none => simp
  | some op => simp

/-- An instruction that does not count begins no function and ends none. -/
theorem leadsInside_of_not_counts (h : ¬i.counts inside = true) :
    i.leadsInside inside = inside := by
  rw [not_counts_iff] at h
  cases inside with
  | false =>
    refine beq_false_of_ne fun hop => ?_
    exact nomatch h .function hop
  | true =>
    refine bne_iff_ne.mpr fun hop => ?_
    exact nomatch h .functionEnd hop

end Instruction

namespace Declarations

variable {d d' : Declarations} {i : Instruction} {is : List Instruction}

/-- Whether reading goes on inside of a function is a matter of the instruction. -/
theorem isSome_of_visit (h : d.visit i = .ok d') :
    d'.openFunction.isSome = i.leadsInside d.openFunction.isSome := by
  cases hopen : d.openFunction with
  | none => exact (reads h).isSome_of_none hopen
  | some f => exact (reads h).isSome_of_some hopen

/-- **An instruction that does not count changes nothing.** -/
theorem visit_of_not_counts (h : ¬i.counts d.openFunction.isSome = true) :
    d.visit i = .ok d := by
  rw [Instruction.not_counts_iff] at h
  rw [visit]
  split
  · rename_i f hopen
    rw [hopen, Option.isSome_some] at h
    rw [visitInside]
    split
    · rename_i hop
      exact absurd (h .functionParameter hop) (by decide)
    · rename_i hop
      exact absurd (h .functionEnd hop) (by decide)
    · rename_i hop
      exact absurd (h .function hop) (by decide)
    · rfl
  · rename_i op hopen hop
    rw [hopen] at h
    have hcounts : op.countsOutside = false := h op hop
    fun_cases visitOutside d op i
    iterate 14 exact absurd hcounts (by decide)
    · rw [if_neg (by simp [(Bool.or_eq_false_iff.mp hcounts).1])]
    · exact if_neg (by assumption)
  · rfl

/-- **A walk over what is left of a stream** ends as the walk over the stream does, or fails as
it does. -/
theorem foldlM_visit_heeded (d : Declarations) (is : List Instruction) :
    (heeded d.openFunction.isSome is).foldlM visit d = is.foldlM visit d := by
  induction is generalizing d with
  | nil => rw [heeded]
  | cons i is ih =>
    rw [heeded]
    split
    · rw [List.foldlM_cons, List.foldlM_cons]
      cases hvisit : d.visit i with
      | error e => rfl
      | ok d' =>
        rw [← isSome_of_visit hvisit]
        exact ih d'
    · rename_i hcounts
      rw [Instruction.leadsInside_of_not_counts hcounts, List.foldlM_cons,
        visit_of_not_counts hcounts]
      exact ih d

end Declarations

/-- **Instructions that are skipped never influence the result.** A shader without them, the others
standing where they stood, is lowered to the same unit, with the same types, or is refused with the
same report. -/
theorem lower_heeded (arena : TypeArena) (shader : ShaderModule) (name : String) :
    lower arena { shader with instructions := heeded false shader.instructions } name =
      lower arena shader name := by
  have hwalk := Declarations.foldlM_visit_heeded { workspace := { arena } } shader.instructions
  rw [lower, lower, Declarations.ofInstructions, Declarations.ofInstructions]
  exact congrArg (· >>= fun d => d.emit name) hwalk

/-- A name counts outside of the function only. -/
example :
    (heeded false [⟨3, [2, 450], 5, 8⟩, ⟨5, [1, 0x61], 8, 11⟩, ⟨54, [1, 2, 0, 3], 11, 16⟩,
      ⟨5, [2, 0x61], 16, 19⟩, ⟨56, [], 19, 20⟩]).map Instruction.opcode = [5, 54, 56] := by
  decide

end ShaderLowering
