import ShaderLowering.Proofs.Target.Refusals
import ShaderLowering.Proofs.TypeGraph.Lifetime

/-!
# What is written once

The type of a struct gets its body once, by hand or when a node is laid out, and a pointer
gets its pointee once, though all pointers may be detached at some time. What would write a
second time is refused, as is a member for a struct that is complete; and a refusal changes
nothing (`ShaderLowering.Workspace.Refuses.perform_eq`).

That this is so over a whole life is not a matter of the single actions alone, since nodes and
types are worked on in turn. It rests on two things that all of them keep: the types have at most
grown (`ShaderLowering.Workspace.operates_lived`), and so has the graph as long as nothing is
detached (`ShaderLowering.Workspace.graphGrows_lived`).
-/

namespace ShaderLowering

namespace Node

variable {node : Node} {d : Diagnostic}

/-- A pointee is refused by pointers that have one. -/
theorem bind?_eq_error_iff {pointee : NodeId} :
    node.bind? pointee = some (.error d) ↔
      node.pointee?.isSome ∧ d = .pointing node.start .alreadyBound := by
  obtain ⟨start, guard, _ | ⟨⟨_ | _, _⟩ | _ | _, made⟩ | _⟩ := node
  all_goals simp [bind?, pointee?, former?, eq_comm]

/-- A member is refused by structs that are complete. -/
theorem addMember?_eq_error_iff {member : Member} :
    node.addMember? member = some (.error d) ↔
      (∃ layout, node.layout? = some layout ∧ layout.complete = true) ∧
        d = .pointing node.start .layoutComplete := by
  obtain ⟨start, guard, _ | _ | ⟨type, layout⟩⟩ := node
  · simp [addMember?, layout?]
  · simp [addMember?, layout?]
  · have hlayout : (layout? ⟨start, guard, .struct type layout⟩) = some layout := rfl
    cases hc : layout.complete with
    | false => simp [addMember?, hlayout, hc]
    | true => simp [addMember?, hlayout, hc, eq_comm (a := d)]

end Node

namespace Workspace

/-! ### Refusals -/

/-- **What is refused**, and how it is reported. -/
inductive Refuses (w : Workspace) : Action → Diagnostic → Prop
  /-- The pointer has a pointee. -/
  | bound {pointer pointee : NodeId} {node : Node} (hn : w.node? pointer = some node)
      (hbound : node.pointee?.isSome) :
    Refuses w (.bind pointer pointee) (.pointing node.start .alreadyBound)
  /-- The struct is complete. -/
  | complete {struct type : NodeId} {decorations : List Decoration} {node : Node}
      {layout : Layout} (hn : w.node? struct = some node) (hlayout : node.layout? = some layout)
      (hc : layout.complete = true) :
    Refuses w (.addMember struct decorations type) (.pointing node.start .layoutComplete)

variable {w w' : Workspace} {action : Action} {d : Diagnostic} {events : List Event} {t : Ty}
  {pointer : NodeId} {i j : Nat}

/-- What comes of a change is a report if there is no changed workspace. -/
theorem outcome_eq_error_iff {changed : Option (Except Diagnostic Workspace)} :
    (w.outcome changed).1 = .error d ↔ changed = some (.error d) := by
  rcases changed with _ | _ | _ <;> simp [outcome]

/-- What a node reports is reported of the workspace. -/
theorem map_map_eq_error_iff {α β : Type} {changed : Option (Except Diagnostic α)} {f : α → β} :
    changed.map (fun result => result.map f) = some (.error d) ↔ changed = some (.error d) := by
  rcases changed with _ | _ | _ <;> simp [Except.map]

theorem bind?_eq_error_iff {pointee : NodeId} :
    w.bind? pointer pointee = some (.error d) ↔ w.Refuses (.bind pointer pointee) d := by
  rw [bind?, Option.bind_eq_some_iff]
  simp only [map_map_eq_error_iff, Node.bind?_eq_error_iff]
  constructor
  · rintro ⟨node, hn, hbound, rfl⟩
    exact .bound hn hbound
  · intro h
    cases h with
    | bound hn hbound => exact ⟨_, hn, hbound, rfl⟩

theorem addMember?_eq_error_iff {struct type : NodeId} {decorations : List Decoration} :
    w.addMember? struct { decorations, type } = some (.error d) ↔
      w.Refuses (.addMember struct decorations type) d := by
  rw [addMember?, Option.bind_eq_some_iff]
  simp only [map_map_eq_error_iff, Node.addMember?_eq_error_iff]
  constructor
  · rintro ⟨node, hn, ⟨layout, hlayout, hc⟩, rfl⟩
    exact .complete hn hlayout hc
  · intro h
    cases h with
    | complete hn hlayout hc => exact ⟨_, hn, ⟨_, hlayout, hc⟩, rfl⟩

/-- **A pointee is refused exactly as it is laid down.** -/
theorem runIn_bind_eq_error_iff {pointee : NodeId} :
    ((Changing.bind pointer pointee).runIn w).1 = .error d ↔
      w.Refuses (.bind pointer pointee) d := by
  rw [Changing.runIn_bind, outcome_eq_error_iff, bind?_eq_error_iff]

/-- **A member is refused exactly as it is laid down.** -/
theorem runIn_addMember_eq_error_iff {struct type : NodeId} {decorations : List Decoration} :
    ((Changing.addMember struct { decorations, type }).runIn w).1 = .error d ↔
      w.Refuses (.addMember struct decorations type) d := by
  rw [Changing.runIn_addMember, outcome_eq_error_iff, addMember?_eq_error_iff]

/-- **A refusal leaves the workspace as it was.** -/
theorem Refuses.act_eq (h : w.Refuses action d) : w.act action = w := by
  cases h with
  | bound hn hbound =>
    rw [act_bind, bind?_eq_error_iff.mpr (.bound hn hbound)]
    rfl
  | complete hn hlayout hc =>
    rw [act_addMember, addMember?_eq_error_iff.mpr (.complete hn hlayout hc)]
    rfl

theorem Refuses.perform_eq (h : w.Refuses action d) : w.perform action = w := by
  rw [perform, h.act_eq]
  exact ite_self w

/-- What is asked of the types and refused changes nothing either. -/
theorem perform_arena_eq {action : TypeAction} {fault : TypeFault}
    (h : w.arena.Refuses action fault) : w.perform (.arena action) = w := by
  rw [perform, act, h.perform_eq]
  exact ite_self w

/-! ### Bodies and pointees -/

/-- **A pointee that is not refused is the pointee of the pointer from then on.** -/
theorem pointee?_runIn_bind {pointee : NodeId} (hpointer : w.IsPointer pointer)
    (h : ∀ d, ¬w.Refuses (.bind pointer pointee) d) :
    ((Changing.bind pointer pointee).runIn w).2.pointee? pointer = some pointee := by
  obtain ⟨bound, storage, made, hs⟩ := hpointer
  obtain ⟨node, hn, hshape⟩ := Option.map_eq_some_iff.mp hs
  rw [Changing.runIn_bind]
  cases hb : w.bind? pointer pointee with
  | none =>
    -- there is an answer for every pointer
    cases bound <;> simp [bind?, hn, Node.bind?, hshape] at hb
  | some result =>
    cases result with
    | error d => exact absurd (bind?_eq_error_iff.mp hb) (h d)
    | ok w' =>
      obtain ⟨storage, made, hs, rfl⟩ := of_bind? hb
      exact pointee?_eq_some_iff.mpr
        ⟨storage, made, (shape?_reshape hs _ _).trans (if_pos rfl)⟩

/-- The event at a place gives a type its body. -/
def GivesBody (w : Workspace) (events : List Event) (t : Ty) (i : Nat) : Prop :=
  (w.lived (events.take i)).arena.body? t = none ∧
    (w.lived (events.take (i + 1))).arena.body? t ≠ none

/-- The event at a place gives a pointer its pointee. -/
def Binds (w : Workspace) (events : List Event) (pointer : NodeId) (i : Nat) : Prop :=
  (w.lived (events.take i)).pointee? pointer = none ∧
    (w.lived (events.take (i + 1))).pointee? pointer ≠ none

/-- What has happened until later is what has happened until earlier, and then more. -/
theorem lived_take (w : Workspace) (events : List Event) (hij : i ≤ j) :
    w.lived (events.take j) = (w.lived (events.take i)).lived ((events.take j).drop i) := by
  have htake : (events.take j).take i = events.take i := by
    rw [List.take_take, Nat.min_eq_left hij]
  rw [← htake, ← lived_append, List.take_append_drop]

/-- As long as nothing is detached, the graph grows. -/
theorem graphGrows_lived (w : Workspace) (h : .detached ∉ events) :
    w.GraphGrows (w.lived events) := by
  induction events generalizing w with
  | nil => exact .refl w
  | cons event events ih =>
    cases event with
    | acted action =>
      exact (w.performs action).graphGrows.trans
        (ih (w.perform action) fun hcon => h (List.mem_cons_of_mem _ hcon))
    | detached => exact absurd List.mem_cons_self h

theorem GivesBody.not_lt (hi : w.GivesBody events t i) (hj : w.GivesBody events t j) :
    ¬i < j := by
  intro hlt
  obtain ⟨body, hbody⟩ := Option.ne_none_iff_exists'.mp hi.2
  have hoperates := operates_lived (w.lived (events.take (i + 1))) ((events.take j).drop (i + 1))
  rw [← lived_take w events hlt] at hoperates
  exact nomatch hj.1.symm.trans (hoperates.grows.body? hbody)

/-- **A type is given a body once.** -/
theorem GivesBody.unique (hi : w.GivesBody events t i) (hj : w.GivesBody events t j) : i = j :=
  Nat.le_antisymm (Nat.le_of_not_lt (hj.not_lt hi)) (Nat.le_of_not_lt (hi.not_lt hj))

/-- **A pointer is given a pointee once**, unless it has been detached in between. -/
theorem Binds.detached_mem (hi : w.Binds events pointer i) (hj : w.Binds events pointer j)
    (hlt : i < j) : .detached ∈ (events.take j).drop (i + 1) := by
  refine Decidable.byContradiction fun hnot => ?_
  obtain ⟨pointee, hpointee⟩ := Option.ne_none_iff_exists'.mp hi.2
  have hlater := (graphGrows_lived _ hnot).pointee? hpointee
  rw [← lived_take w events hlt, hj.1] at hlater
  exact nomatch hlater

/-- **Refusals change nothing, and what is written is written once**, at every point in the life of
a workspace, where each operation leaves the types and nodes as it has written them, whether or not
it is refused.

* What is asked of the types is refused exactly if a number has a width that there is not, a vector
  would have less than two elements, or the type that is given a body is no struct or has one; and
  then the types are as they were.
* A pointee is refused exactly by pointers that have one, and a member by structs that are
  complete; and then nothing at all has changed.
* A body that is not refused is there afterwards. In the course of a life a struct is given one at
  most, and keeps it.
* So it is with the pointee of a pointer, as long as pointers are not detached. -/
theorem lived_writes_once (w : Workspace) (events : List Event) :
    let v := w.lived events
    (∀ action fault,
        ((action.carryOut.runIn v.arena).1 = .error fault ↔ v.arena.Refuses action fault) ∧
        ((action.carryOut.runIn v.arena).1 = .error fault →
          (action.carryOut.runIn v.arena).2 = v.arena ∧ v.perform (.arena action) = v)) ∧
      (∀ pointer pointee d, (((Changing.bind pointer pointee).runIn v).1 = .error d ↔
          v.Refuses (.bind pointer pointee) d) ∧
        (((Changing.bind pointer pointee).runIn v).1 = .error d →
          ((Changing.bind pointer pointee).runIn v).2 = v)) ∧
      (∀ struct decorations type d,
        (((Changing.addMember struct { decorations, type }).runIn v).1 = .error d ↔
          v.Refuses (.addMember struct decorations type) d) ∧
        (((Changing.addMember struct { decorations, type }).runIn v).1 = .error d →
          ((Changing.addMember struct { decorations, type }).runIn v).2 = v)) ∧
      (∀ t, (∀ members packed, (∀ fault, ¬v.arena.Refuses (.setBody t members packed) fault) →
          (v.arena.perform (.setBody t members packed)).body? t = some members) ∧
        (∀ i j, w.GivesBody events t i → w.GivesBody events t j → i = j) ∧
        ∀ data i, (w.lived (events.take i)).arena.struct? t = some data → data.body ≠ none →
          v.arena.struct? t = some data) ∧
      ∀ pointer, (∀ pointee, v.IsPointer pointer →
          (∀ d, ¬v.Refuses (.bind pointer pointee) d) →
          ((Changing.bind pointer pointee).runIn v).2.pointee? pointer = some pointee) ∧
        (∀ i j, w.Binds events pointer i → w.Binds events pointer j → i < j →
          .detached ∈ (events.take j).drop (i + 1)) ∧
        ∀ pointee i, .detached ∉ events.drop i →
          (w.lived (events.take i)).pointee? pointer = some pointee →
          v.pointee? pointer = some pointee := by
  intro v
  have hv (i : Nat) : v = (w.lived (events.take i)).lived (events.drop i) := by
    rw [← lived_append, List.take_append_drop]
  refine ⟨fun action fault => ⟨TypeArena.carryOut_eq_error_iff, fun h => ?_⟩,
    fun pointer pointee d => ⟨runIn_bind_eq_error_iff,
      fun h => (runIn_bind_eq_error_iff.mp h).act_eq⟩,
    fun struct decorations type d => ⟨runIn_addMember_eq_error_iff,
      fun h => (runIn_addMember_eq_error_iff.mp h).act_eq⟩,
    fun t => ⟨fun _ _ => TypeArena.body?_perform_setBody, fun _ _ => GivesBody.unique,
      fun data i hdata hbody => ?_⟩,
    fun pointer => ⟨fun _ => pointee?_runIn_bind, fun _ _ => Binds.detached_mem,
      fun pointee i hnot h => ?_⟩⟩
  · have hrefuses := TypeArena.carryOut_eq_error_iff.mp h
    exact ⟨hrefuses.perform_eq, perform_arena_eq hrefuses⟩
  · rw [hv i]
    exact (operates_lived _ _).grows.struct?_eq hdata hbody
  · rw [hv i]
    exact (graphGrows_lived _ hnot).pointee? h

/-- The type of a struct is given its body by hand, so that the struct is not completed any more;
and a pointer is bound, detached and bound again. Then another body for the struct is refused, and
another pointee for the pointer, and for a struct that is complete a member with a role. -/
theorem lived_writes_once_by_hand :
    let events : List Event := [.acted (.addStruct "S" [] 0),
      .acted (.arena (.setBody ⟨0⟩ [] true)), .acted (.produce ⟨0⟩ true),
      .acted (.addFormed (.pointer none .function) 1), .acted (.bind ⟨1⟩ ⟨0⟩),
      .acted (.bind ⟨1⟩ ⟨1⟩), .detached, .acted (.bind ⟨1⟩ ⟨1⟩), .acted (.addStruct "T" [] 9),
      .acted (.produce ⟨2⟩ true)]
    let w := ({} : Workspace).lived events
    (∀ i, ({} : Workspace).GivesBody events ⟨0⟩ i → i = 1) ∧ ¬w.IsComplete ⟨0⟩ ∧
      ({} : Workspace).Binds events ⟨1⟩ 4 ∧ ({} : Workspace).Binds events ⟨1⟩ 7 ∧
      .detached ∈ (events.take 7).drop 5 ∧
      (TypeAction.setBody ⟨0⟩ [⟨0⟩] false).carryOut.runIn w.arena =
        (.error (.bodyAlreadySet "S"), w.arena) ∧
      (Changing.bind ⟨1⟩ ⟨0⟩).runIn w = (.error (.pointing 1 .alreadyBound), w) ∧
      (Changing.addMember ⟨2⟩ { decorations := [.ofBuiltIn .position], type := ⟨0⟩ }).runIn w =
        (.error (.pointing 9 .layoutComplete), w) := by
  intro events w
  have hgives : ({} : Workspace).GivesBody events ⟨0⟩ 1 := by
    unfold GivesBody
    decide +kernel
  have hbinds : ({} : Workspace).Binds events ⟨1⟩ 4 ∧ ({} : Workspace).Binds events ⟨1⟩ 7 := by
    unfold Binds
    decide +kernel
  have hlayout : w.layout? ⟨0⟩ = some {} := by decide +kernel
  have hbody : w.arena.struct? ⟨0⟩ = some ⟨"S", some [], true⟩ := by decide +kernel
  have hbound : w.node? ⟨1⟩ = some ⟨1, {}, .formed (.pointer (some ⟨1⟩) .function) none⟩ := by
    decide +kernel
  have hcomplete : w.node? ⟨2⟩ = some ⟨9, {}, .struct ⟨1⟩ { complete := true }⟩ := by
    decide +kernel
  obtain ⟨hfaults, hpointee, hmember, hbodies, hpointees⟩ := lived_writes_once {} events
  refine ⟨fun i hi => (hbodies ⟨0⟩).2.1 i 1 hi hgives, ?_, hbinds.1, hbinds.2,
    (hpointees ⟨1⟩).2.1 4 7 hbinds.1 hbinds.2 (by decide), ?_, ?_, ?_⟩
  · rintro ⟨layout, hlayout', hc⟩
    obtain rfl := Option.some.inj (hlayout.symm.trans hlayout')
    exact nomatch hc
  · obtain ⟨hrefused, hstays⟩ := hfaults (.setBody ⟨0⟩ [⟨0⟩] false) (.bodyAlreadySet "S")
    have h := hrefused.mpr (.bodied hbody (Option.some_ne_none _))
    exact Prod.ext h (hstays h).1
  · obtain ⟨hrefused, hstays⟩ := hpointee ⟨1⟩ ⟨0⟩ (.pointing 1 .alreadyBound)
    have h := hrefused.mpr (.bound hbound rfl)
    exact Prod.ext h (hstays h)
  · obtain ⟨hrefused, hstays⟩ :=
      hmember ⟨2⟩ [.ofBuiltIn .position] ⟨0⟩ (.pointing 9 .layoutComplete)
    have h := hrefused.mpr (.complete hcomplete rfl rfl)
    exact Prod.ext h (hstays h)

end Workspace

end ShaderLowering
