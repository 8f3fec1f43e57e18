import ShaderLowering.Proofs.Lowering.DeclarationOrder
import ShaderLowering.Proofs.Lowering.Reports
import ShaderLowering.Proofs.TypeGraph.Makeable
import ShaderLowering.Proofs.TypeGraph.WriteOnce

/-!
# Only pointers make cycles

A shader can declare types in circles, but only through pointers: whatever the instructions
are, every cycle of the graph contains one. So a struct is never asked for while it is being
laid out, none is found among its own members, and whatever is given up as endless is given
up elsewhere, at a pointer, a function or an array that leads back to itself without a struct
on the way. That is what a lowering then reports, and it points to the declaration
(`ShaderLowering.lower_cycles`).

While a unit is put together types are asked for and nothing is declared. The workspaces that
come up are those that the declarations become by such actions, and the graph is the same in
all of them.
-/

namespace ShaderLowering

namespace Workspace

variable {w w' : Workspace} {n m : NodeId} {arena : TypeArena}

/-! ### Cycles -/

theorem isCycle_congr (h : w'.skeleton = w.skeleton) : w'.IsCycle = w.IsCycle := by
  funext cycle
  rw [IsCycle, IsCycle, refers_congr h]

/-- **Cycles through pointers are harmless.** If every cycle of a graph that was built up from
nothing contains a pointer, no node holds itself, and no struct was found among its own
members. -/
theorem Becomes.untangled {allowed : Action → Prop}
    (h : ({ arena } : Workspace).Becomes allowed w)
    (hcycles : ∀ cycle, w.IsCycle cycle → ∃ n ∈ cycle, w.IsPointer n) : w.Untangled := by
  have hholds : ∀ n, ¬Relation.TransGen w.Holds n n := by
    intro n hn
    obtain ⟨cycle, hcycle, hnot⟩ := exists_isCycle hn
    obtain ⟨m, hm, hpointer⟩ := hcycles cycle hcycle
    exact (hnot m hm).1 hpointer
  exact ⟨hholds, fun n hn => hholds n (h.looped_holds hn)⟩

/-! ### Changes that are refused -/

/-- A struct refuses a member once it is complete, and reports where it was declared. -/
theorem of_addMember?_eq_error {member : Member} {e : Diagnostic}
    (h : w.addMember? n member = some (.error e)) :
    w.IsComplete n ∧ ∃ start, w.start? n = some start ∧ e = .pointing start .layoutComplete := by
  obtain ⟨node, hn, h⟩ := Option.bind_eq_some_iff.mp h
  obtain ⟨⟨layout, hlayout, hc⟩, rfl⟩ :=
    Node.addMember?_eq_error_iff.mp (map_map_eq_error_iff.mp h)
  exact ⟨⟨layout, (layout?_eq hn).trans hlayout, hc⟩, node.start, start?_eq hn, rfl⟩

end Workspace

namespace Declarations

open Workspace

variable {d : Declarations} {arena : TypeArena} {instructions : List Instruction} {i : Instruction}
  {w w' : Workspace} {r : Request} {e : Diagnostic}

/-! ### Declarations in order -/

/-- The cycles are the same while types are asked for, and each contains a pointer. -/
theorem Ordered.exists_isPointer_of_asking (h : d.Ordered instructions) (hd : d.Sound arena)
    (hw : d.workspace.Becomes Action.Asking w) {cycle : List NodeId} (hcycle : w.IsCycle cycle) :
    ∃ n ∈ cycle, w.IsPointer n := by
  rw [isCycle_congr hw.skeleton_eq] at hcycle
  rw [isPointer_congr hw.skeleton_eq]
  exact h.exists_isPointer hd.closed hcycle

theorem Ordered.untangled (h : d.Ordered instructions) (hd : d.Sound arena)
    (hw : d.workspace.Becomes Action.Asking w) : w.Untangled := by
  have hhistory : ({ arena } : Workspace).Becomes (fun _ => True) w :=
    (hd.history.imp fun _ _ => trivial).trans (hw.imp fun _ _ => trivial)
  exact hhistory.untangled fun _ => h.exists_isPointer_of_asking hd hw

/-- **The report points to a cycle without a struct**: to the declaration of a pointer, a
function or an array on it. -/
def PointsToCycle (d : Declarations) (instructions : List Instruction) (e : Diagnostic) : Prop :=
  ∃ i ∈ instructions, ∃ n former made, d.workspace.shape? n = some (.formed former made) ∧
    d.FormedBy i n former ∧ e = .pointing i.start .tooManyRecursions ∧
    ∃ cycle, d.workspace.IsCycle cycle ∧ n ∈ cycle ∧ ∀ m ∈ cycle, ¬d.workspace.IsStruct m

/-- A request that is reported as endless is reported where a type on such a cycle was
declared. -/
theorem Ordered.pointsToCycle (h : d.Ordered instructions) (hd : d.Sound arena)
    (hw : d.workspace.Becomes Action.Asking w) (hproduced : Produced r w (.error e) w')
    (hc : e.cause = .tooManyRecursions) : d.PointsToCycle instructions e := by
  have hidle : w.Idle := hw.idle hd.idle
  obtain ⟨n, start, hstart, heq, hback⟩ :=
    (h.untangled hd hw).exists_formedFrom hidle hproduced hc
  rw [start?_congr hw.skeleton_eq] at hstart
  rw [formedFrom_congr hw.skeleton_eq] at hback
  obtain ⟨m, hfirst, -⟩ := Relation.TransGen.head'_iff.mp hback
  obtain ⟨former, made, hs, -⟩ := hfirst.exists_former
  obtain ⟨i, hi, hformed⟩ := h.formed n former made hs
  have hstart' : i.start = start := Option.some.inj (hformed.start.symm.trans hstart)
  exact ⟨i, hi, n, former, made, hs, hformed, hstart' ▸ heq, exists_isCycle_of_formedFrom hback⟩

/-- No instruction is reported as endless by itself. -/
theorem Ordered.of_reportsAt (h : d.Ordered instructions) (hd : d.Sound arena)
    (he : d.ReportsAt i e) (hc : e.cause = .tooManyRecursions) :
    d.PointsToCycle instructions e := by
  cases he with
  | @whole cause hcause =>
    obtain rfl : cause = .tooManyRecursions := hc
    exact nomatch hcause
  | @opening cause hcause =>
    obtain rfl : cause = .tooManyRecursions := hc
    exact nomatch hcause
  | tooWide | notAStruct => exact nomatch hc
  | member hmember =>
    obtain ⟨-, start, -, rfl⟩ := of_addMember?_eq_error hmember
    exact nomatch hc
  | produced _ hproduced => exact h.pointsToCycle hd (.refl _) hproduced hc

theorem Ordered.of_reportsEmitting (h : d.Ordered instructions) (hd : d.Sound arena)
    (he : d.ReportsEmitting e) (hc : e.cause = .tooManyRecursions) :
    d.PointsToCycle instructions e := by
  cases he with
  | @noted start cause _ hcause =>
    obtain rfl : cause = .tooManyRecursions := hc
    exact nomatch hcause
  | lostPointee => exact nomatch hc
  | produced hw _ hproduced => exact h.pointsToCycle hd hw hproduced hc

end Declarations

open Workspace Declarations

/-- **Only pointers make cycles.** Whatever the instructions of a shader are, and however far
they have been read: every cycle of the graph contains a pointer, and whatever types are asked
for, no struct is found among its own members on the way, and none gives the request up. So
none is found to be so in a unit that has been put together. And if a lowering is given up
because a type comes to no end, what is reported is where a pointer, a function or an array was
declared that lies on a cycle without a struct. -/
theorem lower_cycles (arena : TypeArena) (shader : ShaderModule) (name : String) :
    (∀ before d, before <+: shader.instructions → ofInstructions arena before = .ok d →
      ∀ w, d.workspace.Becomes Action.Asking w →
        (∀ cycle, w.IsCycle cycle → ∃ n ∈ cycle, w.IsPointer n) ∧ ∀ r, w.SparesStructs r) ∧
    (∀ m, lower arena shader name = .ok m → ∀ n, ¬m.workspace.Looped n) ∧
    ∀ e, lower arena shader name = .error e → e.cause = .tooManyRecursions →
      ∃ before d, before <+: shader.instructions ∧ ofInstructions arena before = .ok d ∧
        d.PointsToCycle before e := by
  refine ⟨fun before d _ hd w hw => ?_, fun m hm n hn => ?_, fun e he hc => ?_⟩
  · have hsound := sound_ofInstructions hd
    have hordered := ordered_ofInstructions hd
    exact ⟨fun _ => hordered.exists_isPointer_of_asking hsound hw,
      (hordered.untangled hsound hw).sparesStructs (hw.idle hsound.idle)⟩
  · obtain ⟨d, hd, hemit⟩ := of_bind_eq_ok hm
    obtain ⟨w, hw, heq⟩ := asking_of_emit hemit
    rw [heq, looped_detachAll] at hn
    exact ((ordered_ofInstructions hd).untangled (sound_ofInstructions hd) hw).looped n hn
  · rcases of_lower_eq_error he with ⟨before, i, after, d, heq, hd, hi⟩ | ⟨d, hd, hemitting⟩
    · exact ⟨before, d, ⟨_, heq.symm⟩, hd,
        (ordered_ofInstructions hd).of_reportsAt (sound_ofInstructions hd) hi hc⟩
    · exact ⟨_, d, List.prefix_rfl, hd,
        (ordered_ofInstructions hd).of_reportsEmitting (sound_ofInstructions hd) hemitting hc⟩

/-- A vector of pointers, each of which points to pointers of the same type. -/
theorem lower_cycles_self_pointer :
    let instructions : List Instruction :=
      [⟨39, [1, 6], 5, 8⟩, ⟨32, [1, 6, 1], 8, 12⟩, ⟨23, [2, 1, 4], 12, 16⟩]
    lower {} ⟨⟨1, 0, 0, 3⟩, instructions⟩ "unit" = .error (.pointing 5 .tooManyRecursions) ∧
      ∃ before d, before <+: instructions ∧ ofInstructions {} before = .ok d ∧
        d.PointsToCycle before (.pointing 5 .tooManyRecursions) := by
  intro instructions
  have h : lower {} ⟨⟨1, 0, 0, 3⟩, instructions⟩ "unit" =
      .error (.pointing 5 .tooManyRecursions) := by
    decide +kernel
  exact ⟨h, (lower_cycles {} ⟨⟨1, 0, 0, 3⟩, instructions⟩ "unit").2.2 _ h rfl⟩

end ShaderLowering
