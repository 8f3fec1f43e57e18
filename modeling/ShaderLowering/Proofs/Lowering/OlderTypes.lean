import ShaderLowering.Proofs.Lowering.Renaming
import ShaderLowering.Proofs.Lowering.Reports
import ShaderLowering.Proofs.TypeGraph.ByValue

/-!
# Types that were there before

Shaders that are lowered one after another share an arena, and each finds there what the others
have left, opaque structs among it. Almost everything that is asked of an arena adds types and
leaves those alone that there are; but an opaque struct may be given a body. What keeps one
lowering from giving a body to a struct of another is that it does so through its nodes, and
that the type of a struct is made along with its node. So the types of its structs are younger
than the workspace that it began with (`ShaderLowering.Workspace.Above`), and the types that
were there before are neither changed nor read differently (`ShaderLowering.lower_older_types`).
-/

namespace ShaderLowering

namespace TypeArena

variable {a b : TypeArena} {t : Ty}

/-- If every type is there with the data it had, types were at most added at the end. -/
theorem isPrefix_of_data? (h : ∀ t d, a.data? t = some d → b.data? t = some d) :
    a.types.toList <+: b.types.toList := by
  refine List.prefix_iff_getElem?.mpr fun index hindex => ?_
  have hdata : a.data? ⟨index⟩ = some a.types.toList[index] := by
    rw [data?, ← Array.getElem?_toList, List.getElem?_eq_getElem hindex]
  rw [Array.getElem?_toList]
  exact h ⟨index⟩ _ hdata

/-- Types that keep their data are carried over under their own handles. -/
theorem carried_of_data? (ha : a.Founded) (hb : b.Founded)
    (h : ∀ t d, a.data? t = some d → b.data? t = some d) : Carried (fun t => t) a b :=
  ⟨ha, hb, fun t d ht => by rw [TypeData.rename_id, h t d ht]⟩

end TypeArena

namespace Workspace

variable {old : TypeArena} {w w' : Workspace} {s : NodeId} {t : Ty}

/-- **The workspace is above some types**: they are what they were, and none of them is the type
of one of its structs. -/
structure Above (old : TypeArena) (w : Workspace) : Prop where
  kept : ∀ t d, old.data? t = some d → w.arena.data? t = some d
  younger : ∀ s t, w.structType? s = some t → old.data? t = none

/-- A workspace without nodes is above the types it begins with. -/
theorem above_ofArena (arena : TypeArena) : ({ arena } : Workspace).Above arena where
  kept _ _ h := h
  younger s t hs := by simp [structType?, shape?, node?] at hs

/-- What is asked of the types themselves leaves those alone that are there, unless it gives one
a body. -/
theorem kept_perform {arena : TypeArena} {action : TypeAction}
    (hgives : (Action.arena action).GivesNoBody) {d : TypeData} (ht : arena.data? t = some d) :
    (arena.perform action).data? t = some d := by
  rcases arena.perform_cases action with heq | ⟨data, -, heq⟩ | ⟨name, heq⟩ |
    ⟨type, members, packed, rfl, -⟩
  · rw [heq, ht]
  · rw [heq, TypeArena.data?_intern_of_data? ht]
  · rw [heq]
    exact TypeArena.data?_push_of_data? ht
  · exact hgives.elim

/-- An action leaves the data of the older types alone. -/
theorem Above.kept_performs (h : w.Above old) {action : Action} (hgives : action.GivesNoBody)
    (hperforms : w.Performs action w') :
    ∀ t d, old.data? t = some d → w'.arena.data? t = some d := by
  intro t d ht
  have hkept := h.kept t d ht
  rcases hperforms with _ | a | _ | ⟨name, members, start⟩ | _ | _ | ⟨n, complete⟩
  · exact hkept
  · exact kept_perform hgives hkept
  · exact hkept
  · exact TypeArena.data?_push_of_data? hkept
  · exact hkept
  · exact hkept
  -- the structs that are completed have younger types
  · rcases (w.touchesOnly_produce n complete).types t with hspares | ⟨s, -, hs⟩
    · exact hspares.data? hkept
    · exact absurd ((h.younger s t hs).symm.trans ht) nofun

/-- **A workspace that is above some types stays so** as long as no struct is given a body from
outside. -/
theorem Above.performs (h : w.Above old) {action : Action} (hgives : action.GivesNoBody)
    (hperforms : w.Performs action w') : w'.Above old := by
  refine ⟨h.kept_performs hgives hperforms, fun s t hs => ?_⟩
  rcases hperforms.structType? hs with hs | ⟨_, _, _, -, rfl, -⟩
  · exact h.younger s t hs
  · refine Option.eq_none_iff_forall_ne_some.mpr fun d hd => ?_
    exact absurd (TypeArena.lt_size_of_data? (h.kept _ d hd)) (Nat.lt_irrefl _)

theorem Above.becomes (h : w.Above old) (hw : w.Becomes Action.GivesNoBody w') :
    w'.Above old := by
  obtain ⟨actions, rfl, hgives⟩ := hw
  induction actions generalizing w with
  | nil => exact h
  | cons action actions ih =>
    obtain ⟨haction, hactions⟩ := List.forall_mem_cons.mp hgives
    exact ih (h.performs haction (w.performs action)) hactions

end Workspace

open Declarations

/-- To lower a shader leaves the data of the types alone that were there before. -/
theorem data?_of_lower {a : TypeArena} {shader : ShaderModule} {name : String}
    {m : LoweredModule} (h : lower a shader name = .ok m) :
    ∀ t d, a.data? t = some d → m.workspace.arena.data? t = some d := by
  obtain ⟨d, hd, hemit⟩ := of_bind_eq_ok h
  obtain ⟨w, hw, heq⟩ := asking_of_emit hemit
  have hhistory := (sound_ofInstructions hd).history_of_asking hw
  rw [heq]
  exact ((Workspace.above_ofArena a).becomes hhistory).kept

/-- **A lowering leaves the types alone that were there before.** Whatever was done to an arena
before, to lower a shader adds types at its end. Those that were there keep their data, so that
opaque structs among them stay opaque and bodies are what they were; they read the same, and
the same of them can be stored. -/
theorem lower_older_types {a : TypeArena} {shader : ShaderModule} {name : String}
    {m : LoweredModule} (ha : a.Reachable) (h : lower a shader name = .ok m) :
    a.types.toList <+: m.workspace.arena.types.toList ∧
      ∀ t, a.Has t →
        m.workspace.arena.data? t = a.data? t ∧
        m.workspace.arena.isOpaque t = a.isOpaque t ∧
        m.workspace.arena.body? t = a.body? t ∧
        m.workspace.arena.text t = a.text t ∧
        m.workspace.arena.definitionText t = a.definitionText t ∧
        m.workspace.arena.isSized t = a.isSized t := by
  have hkept := data?_of_lower h
  have hcarried : TypeArena.Carried (fun t => t) a m.workspace.arena :=
    TypeArena.carried_of_data? ha.sound.1 (ha.lowered h).sound.1 hkept
  refine ⟨TypeArena.isPrefix_of_data? hkept, fun t ht => ?_⟩
  have hdata : m.workspace.arena.data? t = a.data? t := by
    obtain ⟨d, hd⟩ := ht.exists_data?
    rw [hd, hkept t d hd]
  have hstruct : m.workspace.arena.struct? t = a.struct? t := by
    rw [TypeArena.struct?, TypeArena.struct?, hdata]
  refine ⟨hdata, ?_, ?_, hcarried.text ht, hcarried.definitionText ht, hcarried.isSized ht⟩
  · rw [TypeArena.isOpaque, TypeArena.isOpaque, hstruct]
  · rw [TypeArena.body?, TypeArena.body?, hstruct]

/-- A shader with a struct of its own, lowered where there is an opaque struct of that name. -/
theorem lower_older_types_same_name :
    let instructions : List Instruction :=
      [⟨5, [2, 0x73], 5, 8⟩, ⟨22, [1, 32], 8, 11⟩, ⟨30, [2, 1], 11, 14⟩,
        ⟨32, [3, 6, 2], 14, 18⟩, ⟨59, [3, 4, 6], 18, 22⟩]
    let used : TypeArena := (({} : TypeArena).perform (.struct "s")).perform (.float 32)
    ∃ m, lower used ⟨⟨1, 0, 0, 5⟩, instructions⟩ "unit" = .ok m ∧
      m.workspace.arena.name? ⟨2⟩ = some "s" ∧ m.workspace.arena.body? ⟨2⟩ = some [⟨1⟩] ∧
      m.workspace.arena.isOpaque ⟨0⟩ = true ∧
      m.workspace.arena.definitionText ⟨0⟩ = used.definitionText ⟨0⟩ := by
  intro instructions used
  have hused : used.Reachable :=
    (TypeArena.Reachable.empty.perform (List.forall_mem_nil _)).perform (List.forall_mem_nil _)
  have hlower : (lower used ⟨⟨1, 0, 0, 5⟩, instructions⟩ "unit").toOption.map
      (fun m => (m.workspace.arena.name? ⟨2⟩, m.workspace.arena.body? ⟨2⟩)) =
      some (some "s", some [⟨1⟩]) := by
    decide +kernel
  obtain ⟨m, h, hnew⟩ := of_toOption_map_eq_some hlower
  obtain ⟨hname, hbody⟩ := Prod.mk.inj hnew
  have hthere : used.Has ⟨0⟩ := by
    rw [TypeArena.Has]
    decide +kernel
  obtain ⟨-, hopaque, -, -, hdefinition, -⟩ := (lower_older_types hused h).2 ⟨0⟩ hthere
  exact ⟨m, h, hname, hbody, hopaque.trans (by decide +kernel), hdefinition⟩

end ShaderLowering
