import ShaderLowering.Proofs.TypeGraph.Detached
import ShaderLowering.Proofs.TypeGraph.Operations

/-!
# The life of a workspace

The life of a workspace does not end when a unit has been put together. Its pointers are
detached then, but its nodes are there still: they can be asked for, pointers without a
pointee can be given one, and the types can be worked on as before. So what is to hold of
a workspace for good has to survive that too (`ShaderLowering.Workspace.lived_preserves`).
This can be said of guards (`ShaderLowering.Workspace.Idle.lived`), and of a property of
layouts that no change of a layout takes away (`ShaderLowering.Workspace.EachLayout.lived`).
-/

namespace ShaderLowering

/-- Something that happens to a workspace. -/
inductive Event
  /-- Something is done to it. -/
  | acted (action : Action)
  /-- Every pointer loses its pointee. -/
  | detached
  deriving DecidableEq, Repr

namespace Workspace

/-- The workspace after an event. -/
def undergo (w : Workspace) : Event → Workspace
  | .acted action => w.perform action
  | .detached => w.detachAll

/-- The workspace after any number of events. -/
def lived (w : Workspace) (events : List Event) : Workspace :=
  events.foldl undergo w

theorem lived_append (w : Workspace) (events later : List Event) :
    w.lived (events ++ later) = (w.lived events).lived later :=
  List.foldl_append

variable {w w' : Workspace}

/-- What every event keeps, any number of them keep. -/
theorem lived_keeps {R : Workspace → Workspace → Prop} (hrefl : ∀ w, R w w)
    (htrans : ∀ {u v w}, R u v → R v w → R u w)
    (hacted : ∀ {w action w'}, Performs w action w' → R w w')
    (hdetached : ∀ w, R w w.detachAll) (w : Workspace) (events : List Event) :
    R w (w.lived events) := by
  induction events generalizing w with
  | nil => exact hrefl w
  | cons event events ih =>
    refine htrans ?_ (ih (w.undergo event))
    cases event with
    | acted action => exact hacted (w.performs action)
    | detached => exact hdetached w

/-- What every event preserves, any number of them preserve. -/
theorem lived_preserves {P : Workspace → Prop}
    (hacted : ∀ {w action w'}, Performs w action w' → P w → P w')
    (hdetached : ∀ {w}, P w → P w.detachAll) (hw : P w) (events : List Event) :
    P (w.lived events) :=
  lived_keeps (R := fun w w' => P w → P w') (fun _ => id) (fun h h' => h' ∘ h) hacted
    (fun _ => hdetached) w events hw

/-- Events come to actions on the types. -/
theorem operates_lived (w : Workspace) (events : List Event) :
    w.arena.Operates (w.lived events).arena :=
  lived_keeps (R := fun w w' => w.arena.Operates w'.arena) (fun w => .refl w.arena)
    (fun h h' => h.trans h') Performs.operates (fun w => .refl w.arena) w events

/-! ### No production is under way -/

theorem held_detachAll (w : Workspace) : w.detachAll.held = w.held := by
  funext n
  rw [held, held, node?_detachAll, Option.map_map]
  refine congrArg (Option.getD · 0) (Option.map_congr fun node _ => ?_)
  obtain ⟨start, guard, _ | ⟨⟨_, _⟩ | _ | _, made⟩ | _⟩ := node
  all_goals rfl

theorem Idle.lived (h : w.Idle) (events : List Event) : (w.lived events).Idle :=
  lived_preserves Performs.idle (fun {w} h => by rwa [Idle, held_detachAll]) h events

end Workspace

/-! ### The layouts of structs -/

/-- **A property that layouts keep**: a new struct has it, and none of the changes to the layout of
a struct takes it away. -/
structure Layout.IsKept (P : Layout → Prop) : Prop where
  new : ∀ members : List (List Decoration × NodeId),
    P (.ofMembers (members.map fun m => { decorations := m.1, type := m.2 }))
  push : ∀ l decorations type, P l → P (l.push { decorations, type })
  looped : ∀ l, P l → P l.looped
  laidOut : ∀ l, P l → P l.laidOut

namespace Workspace

variable {w w' : Workspace} {P : Layout → Prop}

/-- The layout of every struct has a property. -/
def EachLayout (P : Layout → Prop) (w : Workspace) : Prop :=
  ∀ n layout, w.layout? n = some layout → P layout

theorem eachLayout_empty (P : Layout → Prop) (arena : TypeArena) :
    ({ arena } : Workspace).EachLayout P := by
  intro n layout h
  simp [layout?, node?] at h

theorem EachLayout.congr (h : w.EachLayout P) (hw : w'.layout? = w.layout?) :
    w'.EachLayout P := by
  rwa [EachLayout, hw]

/-- The layout of one struct is changed to another with the property. -/
theorem EachLayout.mapLayout (h : w.EachLayout P) {f : Layout → Layout}
    (hf : ∀ l, P l → P (f l)) (m : NodeId) :
    (w.modify m fun node => node.mapLayout f).EachLayout P := by
  intro n layout hl
  rw [layout?_mapLayout] at hl
  split at hl
  · obtain ⟨before, hbefore, rfl⟩ := Option.map_eq_some_iff.mp hl
    exact hf before (h n before hbefore)
  · exact h n layout hl

/-- A layout changes in a production when the struct is found among its own members, and when it
is laid out. -/
theorem Works.eachLayout (h : w.Works w') (hP : Layout.IsKept P) (hw : w.EachLayout P) :
    w'.EachLayout P := by
  cases h with
  | enter n => exact hw.congr (w.layout?_enter n)
  | leave n => exact hw.congr (w.layout?_leave n)
  | looped => exact hw.mapLayout hP.looped _
  | form => exact hw.congr (w.layout?_form _ _)
  | @layOut _ _ _ _ arena hs hb =>
    have hbody : ({ w with arena } : Workspace).EachLayout P := hw.congr rfl
    exact hbody.mapLayout hP.laidOut _

/-- **What actions preserve of layouts.** -/
theorem Performs.eachLayout {action : Action} (h : w.Performs action w')
    (hP : Layout.IsKept P) (hw : w.EachLayout P) : w'.EachLayout P := by
  intro n l hl
  obtain ⟨t, hs'⟩ := layout?_eq_some_iff.mp hl
  have hbefore (hs : w.shape? n = some (.struct t l)) : P l :=
    hw n l (layout?_eq_some_iff.mpr ⟨t, hs⟩)
  rcases h with _ | _ | ⟨node, -, -, hstruct⟩ | ⟨name, members, start⟩ | ⟨hs, -⟩ | ⟨hs, -, -⟩ |
    ⟨m, complete⟩
  · exact hbefore hs'
  · exact hbefore hs'
  · rw [shape?_add] at hs'
    split at hs'
    · rw [Option.some.inj hs'] at hstruct
      exact nomatch hstruct
    · exact hbefore hs'
  · rw [shape?_withStruct] at hs'
    split at hs'
    · cases hs'
      exact hP.new members
    · exact hbefore hs'
  · rw [shape?_reshape hs] at hs'
    split at hs'
    · exact absurd hs' (by simp)
    · exact hbefore hs'
  · rw [shape?_reshape hs] at hs'
    split at hs'
    · cases hs'
      exact hP.push _ _ _ (hw _ _ (layout?_eq_some_iff.mpr ⟨_, hs⟩))
    · exact hbefore hs'
  · exact (w.produced m complete).preserves (fun h => h.eachLayout hP) hw n l hl

/-- **What is preserved of layouts for good**, whatever happens. -/
theorem EachLayout.lived (hw : w.EachLayout P) (hP : Layout.IsKept P) (events : List Event) :
    (w.lived events).EachLayout P :=
  lived_preserves (fun h => h.eachLayout hP) (fun h => h.congr (layout?_detachAll _)) hw events

end Workspace

end ShaderLowering
