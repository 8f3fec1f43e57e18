import ShaderLowering.Proofs.Lowering.Renaming
import ShaderLowering.Proofs.Lowering.Reports
import ShaderLowering.Proofs.Target.Reading
import ShaderLowering.Proofs.TypeGraph.Operations

/-!
# The text of a type is enough to know it

What is written of a type names structs instead of describing them, and puts stars, address
spaces and parameters one after another to the right. It still says which type it is, if the
structs have different names: there is a way back from texts to types
(`ShaderLowering.TypeArena.Legible.read_text`). In an arena that comes about by work on nodes
and by lowering shaders, nothing is in the way of that but the names, since such an arena
comes about by actions on types alone (`ShaderLowering.TypeArena.Reachable.operates`).
-/

namespace ShaderLowering

open Declarations

namespace TypeArena

/-- **Work on nodes and lowering come to actions on types.** -/
theorem Reachable.operates {a : TypeArena} (h : a.Reachable) : ({} : TypeArena).Operates a := by
  induction h with
  | empty => exact .refl _
  | @acted w action _ _ _ ih => exact ih.trans (w.performs action).operates
  | @lowered a shader name m _ hm ih =>
    obtain ⟨d, hd, hemit⟩ := of_bind_eq_ok hm
    obtain ⟨w, hw, heq⟩ := asking_of_emit hemit
    obtain ⟨actions, rfl, -⟩ := (sound_ofInstructions hd).history_of_asking hw
    rw [heq]
    exact ih.trans (Workspace.operates_run _ actions)

theorem Reachable.namesWidths {a : TypeArena} (h : a.Reachable) : a.NamesWidths :=
  h.operates.keeps (fun _ action ha => ha.perform action) fun t bits ht => by simp [data?] at ht

theorem Reachable.performAll {a : TypeArena} (h : a.Reachable) {actions : List TypeAction}
    (hactions : a.Admits actions) : (a.performAll actions).Reachable := by
  induction actions generalizing a with
  | nil => exact h
  | cons action actions ih => exact ih (h.perform hactions.1) hactions.2

/-- Letters, digits, the underscore and the full stop do not follow a type. -/
theorem not_mem_followers {c : Char} (h : c.isAlphanum ∨ c = '_' ∨ c = '.') : c ∉ followers := by
  intro hc
  simp only [followers, List.mem_cons, List.not_mem_nil, or_false] at hc
  rcases hc with rfl | rfl | rfl | rfl | rfl | rfl <;> exact absurd h (by decide)

/-- **The text of a type identifies the type**, in every arena that comes about, if no two
structs have the same name and no name has a character in it that may stand after a type:
names of letters, digits, underscores and full stops have none. -/
theorem Reachable.text_eq_iff {a : TypeArena} (h : a.Reachable)
    (hdistinct : ∀ s t name, a.name? s = some name → a.name? t = some name → s = t)
    (hplain : ∀ t name, a.name? t = some name → ∀ c ∈ name.toList, c ∉ followers)
    {s t : Ty} (hs : a.Has s) (ht : a.Has t) : a.text s = a.text t ↔ s = t := by
  have hlegible : a.Legible :=
    ⟨h.sound.1, h.sound.2, h.namesWidths, hdistinct, hplain⟩
  constructor
  · exact hlegible.text_injective hs ht
  · rintro rfl
    rfl

/-- A pointer to a function that takes a struct and more, and the function itself. -/
theorem Reachable.text_eq_iff_pointer :
    let actions : List TypeAction := [.struct "point.2d", .float 32, .pointer ⟨0⟩ 3,
      .function ⟨2⟩ [⟨1⟩, ⟨0⟩] true, .pointer ⟨3⟩ 0, .struct "p_1"]
    let a := ({} : TypeArena).performAll actions
    a.text ⟨4⟩ = "%point.2d addrspace(3)* (float, %point.2d, ...)*" ∧ a.text ⟨3⟩ ≠ a.text ⟨4⟩ := by
  intro actions a
  have hadmits : ({} : TypeArena).Admits actions := by
    simp only [actions, Admits, Has]
    decide +kernel
  have ha : a.Reachable := Reachable.empty.performAll hadmits
  have hnamed : ∀ t name, a.name? t = some name → t ∈ a.handles := by
    intro t name ht
    have hlt : t.index < a.size := by
      refine Nat.lt_of_not_le fun hle => ?_
      rw [name?, struct?, data?_eq_none_iff.mpr hle] at ht
      exact absurd ht.symm (Option.some_ne_none name)
    exact List.mem_map.mpr ⟨t.index, List.mem_range.mpr hlt, rfl⟩
  have hdistinct : ∀ s ∈ a.handles, ∀ t ∈ a.handles, a.name? s ≠ none →
      a.name? s = a.name? t → s = t := by
    decide +kernel
  have hplain : ∀ t ∈ a.handles,
      ((a.name? t).getD "").toList.all fun c => c.isAlphanum ∨ c = '_' ∨ c = '.' := by
    decide +kernel
  have hthere : a.Has ⟨3⟩ ∧ a.Has ⟨4⟩ := by
    simp only [Has]
    decide +kernel
  refine ⟨by decide +kernel, fun htext => ?_⟩
  have heq := (ha.text_eq_iff
    (fun s t name hs ht => hdistinct s (hnamed s name hs) t (hnamed t name ht) (by simp [hs])
      (hs.trans ht.symm))
    (fun t name ht c hc => not_mem_followers (of_decide_eq_true
      (List.all_eq_true.mp (hplain t (hnamed t name ht)) c (by rwa [ht]))))
    hthere.1 hthere.2).mp htext
  exact absurd heq (by decide)

end TypeArena

end ShaderLowering
