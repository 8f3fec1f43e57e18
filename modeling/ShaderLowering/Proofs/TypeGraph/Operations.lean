import ShaderLowering.Proofs.Target.Interning
import ShaderLowering.Proofs.TypeGraph.History
import ShaderLowering.Proofs.TypeGraph.Produced

/-!
# Nodes work on types as anyone does

A production interns the types that it forms and gives bodies to the structs that it lays
out, and a struct is added to a graph along with its type. Nothing else is done to the types:
whatever is done with nodes comes to a sequence of actions that one could have taken on the
arena oneself (`ShaderLowering.TypeArena.Operates`). So what the single actions keep of an
arena is kept by every production and every history, however actions of the two kinds are
mixed.
-/

namespace ShaderLowering

/-! ### Sequences of actions -/

namespace TypeArena

variable {a b c : TypeArena}

/-- One arena comes from another by actions that are taken in turn. -/
def Operates (a b : TypeArena) : Prop :=
  ∃ actions, b = a.performAll actions

theorem performAll_append (a : TypeArena) (actions later : List TypeAction) :
    a.performAll (actions ++ later) = (a.performAll actions).performAll later :=
  List.foldl_append

namespace Operates

theorem refl (a : TypeArena) : a.Operates a :=
  ⟨[], rfl⟩

theorem trans (h : a.Operates b) (h' : b.Operates c) : a.Operates c := by
  obtain ⟨actions, rfl⟩ := h
  obtain ⟨later, rfl⟩ := h'
  exact ⟨actions ++ later, (a.performAll_append actions later).symm⟩

theorem perform (a : TypeArena) (action : TypeAction) : a.Operates (a.perform action) :=
  ⟨[action], rfl⟩

theorem grows (h : a.Operates b) : a.Grows b := by
  obtain ⟨actions, rfl⟩ := h
  exact a.grows_performAll actions

/-- **What every action keeps** is kept. -/
theorem keeps {P : TypeArena → Prop} (hstep : ∀ a action, P a → P (a.perform action))
    (h : a.Operates b) (ha : P a) : P b := by
  obtain ⟨actions, rfl⟩ := h
  induction actions generalizing a with
  | nil => exact ha
  | cons action actions ih => exact ih (hstep a action ha)

end Operates

/-- To form a type is to ask for it. -/
theorem operates_formed {former : Former} {types : List Ty} {data : TypeData}
    (h : former.data? types = some data) (a : TypeArena) : a.Operates (a.intern data).2 := by
  have hwanted : ∃ action : TypeAction, action.wanted? = some data := by
    unfold Former.data? at h
    split at h
    · obtain rfl := Option.some.inj h
      exact ⟨.pointer _ _, rfl⟩
    · obtain rfl := Option.some.inj h
      exact ⟨.function _ _ _, rfl⟩
    · obtain rfl := Option.some.inj h
      exact ⟨.array _ _, rfl⟩
    · exact nomatch h
  obtain ⟨action, haction⟩ := hwanted
  rw [← (of_wanted? haction a).2.2]
  exact .perform a action

theorem operates_setBody {t : Ty} {members : List Ty} {packed : Bool}
    (h : a.setBody t members packed = .ok b) : a.Operates b := by
  have := Operates.perform a (.setBody t members packed)
  rwa [TypeArena.perform_setBody, h] at this

end TypeArena

/-! ### Productions and histories -/

/-- A step of a production comes to actions on the types, if it does anything to them. -/
theorem Workspace.Works.operates {w w' : Workspace} (h : w.Works w') :
    w.arena.Operates w'.arena := by
  cases h with
  | enter | leave | looped => exact .refl _
  | form hs hd => exact TypeArena.operates_formed hd _
  | layOut hs hb => exact TypeArena.operates_setBody hb

/-- **A production takes actions on the types**, whether or not it comes to an answer. -/
theorem Produced.operates {r : Request} {w w' : Workspace} {result : Except Diagnostic Ty}
    (h : Produced r w result w') : w.arena.Operates w'.arena :=
  h.keeps (R := fun w w' => w.arena.Operates w'.arena) (fun w => .refl w.arena)
    (fun h h' => h.trans h') Workspace.Works.operates

namespace Workspace

variable {w w' : Workspace}

theorem Performs.operates {action : Action} (h : w.Performs action w') :
    w.arena.Operates w'.arena := by
  cases h with
  | nothing | added | bind | addMember => exact .refl _
  | arena a => exact .perform _ a
  | addStruct name => exact .perform _ (.struct name)
  | produce n complete => exact (w.produced n complete).operates

theorem operates_run (w : Workspace) (actions : List Action) :
    w.arena.Operates (w.run actions).arena :=
  w.run_keeps (R := fun w w' => w.arena.Operates w'.arena) (fun w => .refl w.arena)
    (fun h h' => h.trans h') (fun w action => (w.performs action).operates) actions

end Workspace

end ShaderLowering
