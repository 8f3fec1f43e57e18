import ShaderLowering.Proofs.Lowering.Cycles
import ShaderLowering.Proofs.Stream.Refusal

/-!
# Where reports point

A shader may be refused long after the instruction that is to blame was read: a type is
asked for when another needs it, and most of what is checked is checked when the unit is
put together. So places are carried along, in the nodes of types and with everything that
is noted for later, and each of them is where some instruction begins
(`ShaderLowering.Declarations.Placed`). Whatever is reported of a shader therefore points
to one of its instructions, and so back into the stream it was read from
(`ShaderLowering.report_points_into_stream`).

One report points to no instruction: that there is no such node. Nodes refer to nodes that
are there, so it is not made (`ShaderLowering.Produced.exists_start`).
-/

namespace ShaderLowering

/-- The report is about an instruction as a whole, or points to where it begins. -/
def Diagnostic.PointsTo (e : Diagnostic) (i : Instruction) : Prop :=
  e.start = i.start ∧ (e.stop = i.start ∨ e.stop = i.stop)

instance (e : Diagnostic) (i : Instruction) : Decidable (e.PointsTo i) :=
  inferInstanceAs (Decidable (_ ∧ _))

/-! ### What a production reports -/

/-- **A production is reported at a node.** -/
theorem Produced.exists_start {r : Request} {w w' : Workspace} {e : Diagnostic}
    (h : Produced r w (.error e) w') (hclosed : w.Closed) (hr : (w.node? r.node).isSome) :
    ∃ n start cause, w.start? n = some start ∧ e = .pointing start cause := by
  refine h.induct (motive := fun r w result _ => ∀ e, result = .error e → w.Closed →
    (w.node? r.node).isSome → ∃ n start cause, w.start? n = some start ∧
      e = .pointing start cause) (fun {r w result w'} h => ?_) e rfl hclosed hr
  intro e he hclosed hr
  cases h with
  | known | nested | formed | laidOut => exact nomatch he
  | missing hn =>
    rw [hn] at hr
    exact absurd hr (by simp)
  | @full n _ _ node hn | @unbound n _ _ node _ hn | @looped n _ _ _ node _ _ _ hn
  | @refused n _ _ _ node _ _ _ _ hn =>
    cases he
    exact ⟨n, node.start, _, Workspace.start?_eq hn, rfl⟩
  | @failed n complete w w₁ node d hn ho h =>
    cases he
    obtain ⟨before, r, after, types, w₂, hrs, hbefore, -, hinner⟩ := h.split_error
    obtain ⟨hskeleton, hclosed', hthere⟩ := hclosed.inner hn hrs hbefore.left
    obtain ⟨m, start, cause, hstart, heq⟩ := hinner e rfl hclosed' hthere
    exact ⟨m, start, cause, Workspace.start?_congr hskeleton ▸ hstart, heq⟩

namespace Workspace

variable {w : Workspace} {n : NodeId} {start : Nat}

theorem start?_add_cases {node : Node} (h : (w.add node).2.start? n = some start) :
    w.start? n = some start ∨ start = node.start := by
  rw [start?, node?_add] at h
  split at h
  · exact Or.inr (Option.some.inj h).symm
  · exact Or.inl h

end Workspace

namespace Declarations

open Workspace

variable {d d' : Declarations} {arena : TypeArena} {i : Instruction} {w : Workspace} {n : NodeId}
  {start : Nat} {instructions : List Instruction} {e : Diagnostic}

/-! ### Where things were declared -/

theorem start?_openInterface (h : (d.openInterface i.start).2.start? n = some start) :
    d.workspace.start? n = some start ∨ start = i.start := by
  rw [openInterface] at h
  split at h
  · exact Or.inl h
  · exact start?_add_cases
      (w := { d.workspace with arena := (d.workspace.arena.struct interfaceStructName).2 }) h

/-- A node that was not there before the instruction begins where the instruction does. -/
theorem Extends.start? (h : Extends d i d') (hn : d'.workspace.start? n = some start) :
    d.workspace.start? n = some start ∨ start = i.start := by
  cases h with
  | nothing hw => exact Or.inl (hw ▸ hn)
  | type hmade hadd _ _ hnode =>
    rw [hadd] at hn
    rw [← start?_congr hmade.skeleton_eq, ← hnode.start]
    exact start?_add_cases hn
  | pointee _ _ hw =>
    rw [hw, start?_reshape] at hn
    exact Or.inl hn
  | interfaceVariable _ hw =>
    obtain ⟨type, layout, -, -, heq⟩ := of_addMember? hw
    rw [heq, start?_reshape] at hn
    exact start?_openInterface hn

/-- The variables of an interface that is open were there before. -/
theorem notes_of_mem_openInterface {v : InterfaceVariable}
    (hv : v ∈ (d.openInterface i.start).1.members) : d.Notes v.start := by
  rw [openInterface] at hv
  split at hv
  · rename_i f hf
    exact .interfaceVariable hf hv
  · exact absurd hv List.not_mem_nil

/-- What was not noted before the instruction was declared by it. -/
theorem Reads.notes (h : Reads d i d') (hstart : d'.Notes start) :
    d.Notes start ∨ start = i.start := by
  cases hstart with
  | @interfaceVariable f v hf hv =>
    cases h with
    | interfaceVariable =>
      cases hf
      rcases List.mem_append.mp hv with hold | hnew
      · exact Or.inl (notes_of_mem_openInterface hold)
      · exact Or.inr (congrArg InterfaceVariable.start (List.mem_singleton.mp hnew))
    | _ => exact Or.inl (.interfaceVariable hf hv)
  | @global g hg =>
    cases h with
    | globalVariable _ _ _ _ _ _ _ hplace =>
      rcases List.mem_append.mp hg with hold | hnew
      · exact Or.inl (.global hold)
      · exact Or.inr (List.mem_singleton.mp hnew ▸ hplace)
    | _ => exact Or.inl (.global hg)
  | @entryPoint p hp =>
    cases h with
    | entryPoint _ _ _ hplace =>
      rcases List.mem_append.mp hp with hold | hnew
      · exact Or.inl (.entryPoint hold)
      · exact Or.inr (List.mem_singleton.mp hnew ▸ hplace)
    | moded _ _ _ hplace =>
      obtain ⟨q, hq, rfl⟩ := List.mem_map.mp hp
      rw [hplace q]
      exact Or.inl (.entryPoint hq)
    | _ => exact Or.inl (.entryPoint hp)
  | @function f hf =>
    cases h with
    | ended hopen =>
      rcases List.mem_append.mp hf with hold | hnew
      · exact Or.inl (.function hold)
      · exact Or.inl (List.mem_singleton.mp hnew ▸ .openFunction hopen)
    | _ => exact Or.inl (.function hf)
  | @openFunction f hf =>
    cases h with
    | begun _ _ _ _ _ hplace =>
      cases hf
      exact Or.inr hplace
    | @parameter f' _ hopen =>
      cases hf
      exact Or.inl (.openFunction (f := f') hopen)
    | ended => exact nomatch hf
    | _ => exact Or.inl (.openFunction hf)

/-- **Everything that was declared has its place**: where one of the instructions begins. -/
structure Placed (d : Declarations) (instructions : List Instruction) : Prop where
  node : ∀ n start, d.workspace.start? n = some start → ∃ i ∈ instructions, start = i.start
  noted : ∀ start, d.Notes start → ∃ i ∈ instructions, start = i.start

theorem placed_empty (arena : TypeArena) (instructions : List Instruction) :
    ({ workspace := { arena } } : Declarations).Placed instructions where
  node n start h := by simp [start?, node?] at h
  noted start h := by
    cases h with
    | interfaceVariable hf | openFunction hf => cases hf
    | global hg | entryPoint hg | function hg => exact absurd hg List.not_mem_nil

theorem Placed.visit (h : d.Placed instructions) (hi : i ∈ instructions)
    (hstep : d.visit i = .ok d') : d'.Placed instructions where
  node n start hn := by
    rcases (extends_visit hstep).start? hn with hold | rfl
    · exact h.node n start hold
    · exact ⟨i, hi, rfl⟩
  noted start hstart := by
    rcases (reads hstep).notes hstart with hold | rfl
    · exact h.noted start hold
    · exact ⟨i, hi, rfl⟩

/-- **What a walk has declared has its place** among its instructions. -/
theorem placed_ofInstructions {before : List Instruction} (hbefore : before ⊆ instructions)
    (h : ofInstructions arena before = .ok d) : d.Placed instructions :=
  foldlM_keeps (P := fun d => d.Placed instructions)
    (fun _ _ hi _ hstep hd => hd.visit (hbefore hi) hstep) (placed_empty arena instructions) h

/-! ### Reports -/

/-- What is reported by a production of a node that is there points to an instruction. -/
theorem Placed.of_produced (h : d.Placed instructions) {w' : Workspace} {r : Request}
    (hskeleton : w.skeleton = d.workspace.skeleton) (hclosed : d.workspace.Closed)
    (hr : (d.workspace.node? r.node).isSome) (hproduced : Produced r w (.error e) w') :
    ∃ i ∈ instructions, e.PointsTo i := by
  obtain ⟨n, start, cause, hstart, rfl⟩ := hproduced.exists_start (hclosed.congr hskeleton)
    (isSome_node?_congr hskeleton _ ▸ hr)
  obtain ⟨i, hi, rfl⟩ := h.node n start (start?_congr hskeleton ▸ hstart)
  exact ⟨i, hi, rfl, Or.inl rfl⟩

theorem Placed.of_reportsAt (h : d.Placed instructions) (hd : d.Sound arena)
    (hi : i ∈ instructions) (he : d.ReportsAt i e) : ∃ i ∈ instructions, e.PointsTo i := by
  cases he with
  | whole | tooWide | notAStruct => exact ⟨i, hi, rfl, Or.inr rfl⟩
  | opening => exact ⟨i, hi, rfl, Or.inl rfl⟩
  | member hmember =>
    obtain ⟨-, start, hstart, rfl⟩ := of_addMember?_eq_error hmember
    rcases start?_openInterface hstart with hold | rfl
    · obtain ⟨j, hj, rfl⟩ := h.node _ _ hold
      exact ⟨j, hj, rfl, Or.inl rfl⟩
    · exact ⟨i, hi, rfl, Or.inl rfl⟩
  | produced hid hproduced =>
    exact h.of_produced rfl hd.closed (isSome_of_lookup hd.types hid) hproduced

/-- The types that are asked for when a unit is put together are there. -/
theorem Wants.isSome (h : d.Wants w n) (hd : d.Sound arena)
    (hw : d.workspace.Becomes Action.Asking w) : (d.workspace.node? n).isSome := by
  cases h with
  | interface hf => exact hd.isSome_interface (Option.map_eq_some_iff.mpr ⟨_, hf, rfl⟩)
  | global _ hn =>
    obtain ⟨storage, made, hs⟩ := pointee?_eq_some_iff.mp hn
    have hrefers := (refers_iff_of_shape? hs).mpr (List.mem_singleton_self _)
    rw [refers_congr hw.skeleton_eq] at hrefers
    exact hd.closed _ _ hrefers
  | function hf =>
    obtain ⟨result, args, variadic, made, hs⟩ := hd.functions _ hf
    obtain ⟨node, hn, -⟩ := Option.map_eq_some_iff.mp hs
    exact Option.isSome_of_eq_some hn

theorem Placed.of_reportsEmitting (h : d.Placed instructions) (hd : d.Sound arena)
    (he : d.ReportsEmitting e) : ∃ i ∈ instructions, e.PointsTo i := by
  cases he with
  | noted hstart =>
    obtain ⟨i, hi, rfl⟩ := h.noted _ hstart
    exact ⟨i, hi, rfl, Or.inl rfl⟩
  | lostPointee hg =>
    obtain ⟨i, hi, hstart⟩ := h.noted _ (.global hg)
    exact ⟨i, hi, hstart, Or.inl hstart⟩
  | produced hw hn hproduced =>
    exact h.of_produced hw.skeleton_eq hd.closed (hn.isSome hd hw) hproduced

end Declarations

open Declarations

/-- **What is reported of a shader points to one of its instructions.** -/
theorem pointsTo_of_lower_eq_error {arena : TypeArena} {shader : ShaderModule} {name : String}
    {e : Diagnostic} (h : lower arena shader name = .error e) :
    ∃ i ∈ shader.instructions, e.PointsTo i := by
  rcases of_lower_eq_error h with ⟨before, i, after, d, heq, hd, hi⟩ | ⟨d, hd, he⟩
  · rw [heq]
    exact (placed_ofInstructions (List.subset_append_left _ _) hd).of_reportsAt
      (sound_ofInstructions hd) (List.mem_append_right _ List.mem_cons_self) hi
  · exact (placed_ofInstructions (List.Subset.refl _) hd).of_reportsEmitting
      (sound_ofInstructions hd) he

/-- **Every report points back into the stream.** Words that are no module are refused within
them. And if they are a module that cannot be lowered, whatever types there were before, then
what is reported is about one of its instructions as a whole or points to where that begins,
and the instruction stands within the words. -/
theorem report_points_into_stream (words : List Word) :
    (∀ e, ShaderModule.read words = .error e → e.Within words.length) ∧
    ∀ shader, ShaderModule.read words = .ok shader →
      ∀ arena name e, lower arena shader name = .error e →
        e.Within words.length ∧ ∃ i ∈ shader.instructions, e.PointsTo i := by
  refine ⟨fun e => ShaderModule.within_of_read, fun shader hread arena name e he => ?_⟩
  obtain ⟨i, hi, hstart, hstop⟩ := pointsTo_of_lower_eq_error he
  obtain ⟨hle, hbound⟩ := ShaderModule.bounds_of_read hread i hi
  refine ⟨⟨?_, ?_⟩, i, hi, hstart, hstop⟩
  · rcases hstop with hstop | hstop <;> omega
  · rcases hstop with hstop | hstop <;> omega

/-- A module whose last instruction has more words than are left, and one whose last
instruction asks for a type that was declared two instructions before and comes to no end. -/
theorem report_points_into_stream_back :
    let header : List Word := [0x07230203, 0x00010000, 0, 3, 0]
    let cut := header ++ [0x00040027, 1, 6]
    let circle := header ++ [0x00030027, 1, 6, 0x00040020, 1, 6, 1, 0x00040017, 2, 1, 4]
    ShaderModule.read cut = .error ⟨5, 8, .runsPastEnd 4⟩ ∧
      (⟨5, 8, .runsPastEnd 4⟩ : Diagnostic).Within cut.length ∧
      ∃ shader, ShaderModule.read circle = .ok shader ∧
        lower {} shader "unit" = .error (.pointing 5 .tooManyRecursions) ∧
        ∃ i ∈ shader.instructions,
          (Diagnostic.pointing 5 .tooManyRecursions).PointsTo i := by
  intro header cut circle
  have hcut : ShaderModule.read cut = .error ⟨5, 8, .runsPastEnd 4⟩ := by decide +kernel
  have hcircle : ShaderModule.read circle = .ok ⟨⟨1, 0, 0, 3⟩,
      [⟨39, [1, 6], 5, 8⟩, ⟨32, [1, 6, 1], 8, 12⟩, ⟨23, [2, 1, 4], 12, 16⟩]⟩ := by
    decide +kernel
  have hlower : lower {} ⟨⟨1, 0, 0, 3⟩,
      [⟨39, [1, 6], 5, 8⟩, ⟨32, [1, 6, 1], 8, 12⟩, ⟨23, [2, 1, 4], 12, 16⟩]⟩ "unit" =
      .error (.pointing 5 .tooManyRecursions) := by
    decide +kernel
  exact ⟨hcut, (report_points_into_stream cut).1 _ hcut, _, hcircle, hlower,
    ((report_points_into_stream circle).2 _ hcircle _ _ _ hlower).2⟩

end ShaderLowering
