import ShaderLowering.TypeGraph.Production

/-!
# What a guard counts

A guard lets so many productions in and no more, and the number that it keeps is the number of
those that are inside. The obvious way to keep it is to count first and to ask afterwards: a
production that wants to be let in is counted, and if that makes too many of them it is reported
and taken off the count again (`ShaderLowering.Guard.enter?`). Then every way out lowers the
count, that of a production which was never let in as well, and it has to be shown that they
balance: that the count is right whatever happens in whatever order, and that it is never to be
lowered below zero (`ShaderLowering.Entrance.passAll_counts`).

What is done to a guard here is exactly what productions do to it
(`ShaderLowering.Guard.enter?_eq`, `ShaderLowering.Production.guarded_eq`): it comes to the same
whether one counts first or looks first.
-/

namespace ShaderLowering

namespace Guard

/-- The guard with one more production counted, whether or not there is room for it. -/
def raised (g : Guard) : Guard :=
  ⟨g.held + 1⟩

/-- **A production asks to be let in**, and gives a place in the stream to report. It is counted at
once, and taken off the count again if there are too many; nothing comes of it if there is nothing
to take off. -/
def enter? (g : Guard) (start : Nat) : Option (Except Diagnostic Unit × Guard) :=
  if maxHeld < g.raised.held then
    g.raised.release?.map fun g => (.error (.pointing start .tooManyRecursions), g)
  else some (.ok (), g.raised)

/-- To count first comes to the same as to look whether there is room. -/
theorem enter?_eq (g : Guard) (start : Nat) :
    g.enter? start = some (match g.acquire? with
      | some g' => (.ok (), g')
      | none => (.error (.pointing start .tooManyRecursions), g)) := by
  have hraised : maxHeld < g.raised.held ↔ ¬g.held < maxHeld := by
    rw [raised, Nat.lt_succ_iff, Nat.not_lt]
  have hreleased : g.raised.release? = some g := rfl
  by_cases h : g.held < maxHeld
  · rw [enter?, acquire?, if_pos h, if_neg fun hcon => hraised.mp hcon h]
    rfl
  · rw [enter?, acquire?, if_neg h, if_pos (hraised.mpr h), hreleased]
    rfl

end Guard

/-- **How a node is guarded**: its production enters at the place where the node was declared, and
leaves when its work is over. -/
theorem Production.guarded_eq {α : Type} {n : NodeId} {node : Node} {w : Workspace}
    (hn : w.node? n = some node) (work : Bool → Production α) :
    guarded n work w = (node.guard.enter? node.start).bind fun (entered, guard) =>
      match entered with
      | .error d => some (.error d, w)
      | .ok () =>
        (work guard.isNested (w.modify n fun node => { node with guard })).map
          fun (result, w) => (result, w.modify n Node.released) := by
  rw [Guard.enter?_eq, Option.bind_some]
  cases hacquire : node.guard.acquire? with
  | none => simp only [guarded, hn, hacquire]
  | some guard =>
    simp only [guarded, hn, hacquire]
    rw [Option.map_eq_bind]
    rfl

/-! ### Coming and going -/

/-- What happens at a guard. -/
inductive Passage
  /-- A production asks to be let in, and gives a place in the stream. -/
  | enter (start : Nat)
  /-- Whoever was let in last takes leave. -/
  | leave
  deriving DecidableEq, Repr

/-- A guard, and those it has let in that are still inside: the places they gave, the last to enter
first. -/
structure Entrance where
  /-- The guard, whose count is what all of them see. -/
  guard : Guard := {}
  /-- Those inside. -/
  inside : List Nat := []
  deriving DecidableEq, Repr

namespace Entrance

/-- What comes of a passage. If nobody is inside, nobody takes leave; nothing comes of taking leave
of a guard whose count is zero. -/
def pass? (e : Entrance) : Passage → Option (Except Diagnostic Unit × Entrance)
  | .enter start => (e.guard.enter? start).map fun (entered, guard) =>
    (entered, { guard, inside := if entered.isOk then start :: e.inside else e.inside })
  | .leave =>
    match e.inside with
    | [] => some (.ok (), e)
    | _ :: inside => e.guard.release?.map fun guard => (.ok (), { guard, inside })

/-- The entrance after passages in turn. -/
def passAll? (e : Entrance) (passages : List Passage) : Option Entrance :=
  passages.foldlM (fun e passage => (e.pass? passage).map Prod.snd) e

/-- **The guard counts those inside**, of whom there are not too many. -/
structure Counts (e : Entrance) : Prop where
  held : e.guard.held = e.inside.length
  room : e.inside.length ≤ maxHeld

theorem counts_empty : ({} : Entrance).Counts where
  held := rfl
  room := Nat.zero_le maxHeld

variable {e : Entrance}

/-- While there is room, a production is let in. -/
theorem Counts.pass?_enter (h : e.Counts) (hroom : e.inside.length < maxHeld) (start : Nat) :
    e.pass? (.enter start) = some (.ok (), ⟨⟨e.inside.length + 1⟩, start :: e.inside⟩) := by
  have hacquire : e.guard.acquire? = some ⟨e.inside.length + 1⟩ := by
    rw [Guard.acquire?, h.held, if_pos hroom]
  rw [pass?, Guard.enter?_eq, hacquire]
  rfl

/-- When there is no room, a production is refused at the place it gives, and all stays as it
was. -/
theorem Counts.pass?_enter_full (h : e.Counts) (hfull : maxHeld ≤ e.inside.length) (start : Nat) :
    e.pass? (.enter start) = some (.error (.pointing start .tooManyRecursions), e) := by
  have hacquire : e.guard.acquire? = none := by
    rw [Guard.acquire?, h.held, if_neg (Nat.not_lt.mpr hfull)]
  rw [pass?, Guard.enter?_eq, hacquire]
  rfl

/-- Whoever is inside can take leave. -/
theorem Counts.pass?_leave (h : e.Counts) {start : Nat} {inside : List Nat}
    (hinside : e.inside = start :: inside) :
    e.pass? .leave = some (.ok (), ⟨⟨inside.length⟩, inside⟩) := by
  have hrelease : e.guard.release? = some ⟨inside.length⟩ := by
    rw [Guard.release?, h.held, hinside, List.length_cons]
  simp only [pass?, hinside, hrelease, Option.map_some]

/-- **Something comes of every passage**, and the guard counts those inside afterwards. -/
theorem Counts.exists_pass? (h : e.Counts) (passage : Passage) :
    ∃ result e', e.pass? passage = some (result, e') ∧ e'.Counts := by
  cases passage with
  | enter start =>
    by_cases hroom : e.inside.length < maxHeld
    · exact ⟨_, _, h.pass?_enter hroom start, rfl, hroom⟩
    · exact ⟨_, _, h.pass?_enter_full (Nat.le_of_not_lt hroom) start, h⟩
  | leave =>
    cases hinside : e.inside with
    | nil => exact ⟨.ok (), e, by simp only [pass?, hinside], h⟩
    | cons start inside =>
      have hroom := h.room
      rw [hinside, List.length_cons] at hroom
      exact ⟨_, _, h.pass?_leave hinside, rfl, Nat.le_of_succ_le hroom⟩

theorem Counts.exists_passAll? (h : e.Counts) (passages : List Passage) :
    ∃ e', e.passAll? passages = some e' ∧ e'.Counts := by
  induction passages generalizing e with
  | nil => exact ⟨e, rfl, h⟩
  | cons passage passages ih =>
    obtain ⟨result, e₁, hpass, h₁⟩ := h.exists_pass? passage
    obtain ⟨e', hpasses, h'⟩ := ih h₁
    refine ⟨e', ?_, h'⟩
    rw [passAll?, List.foldlM_cons, hpass]
    exact hpasses

/-- **The guard counts exactly those inside**, after any number of productions have asked to be let
in or have taken leave, the last to enter first.

* The count has never to be lowered below zero.
* It is the number of those inside, which is five at most; the last of them runs inside another if
  there are two or more.
* A production is let in if and only if there are fewer than five. If it is not, it is refused at
  the place it gives, and the count and those inside are as before.
* Whoever takes leave lowers the count by one.
* All this holds of what productions do to a guard, who look first whether there is room. -/
theorem passAll_counts (passages : List Passage) :
    ∃ e : Entrance, ({} : Entrance).passAll? passages = some e ∧
      e.guard.held = e.inside.length ∧ e.inside.length ≤ 5 ∧
      (e.guard.isNested = true ↔ 2 ≤ e.inside.length) ∧
      (∀ start, if e.inside.length < 5 then
          e.pass? (.enter start) = some (.ok (), ⟨⟨e.inside.length + 1⟩, start :: e.inside⟩)
        else e.pass? (.enter start) = some (.error (.pointing start .tooManyRecursions), e)) ∧
      (∀ start inside, e.inside = start :: inside →
        e.pass? .leave = some (.ok (), ⟨⟨inside.length⟩, inside⟩)) ∧
      ∀ start, e.guard.enter? start = some (match e.guard.acquire? with
        | some guard => (.ok (), guard)
        | none => (.error (.pointing start .tooManyRecursions), e.guard)) := by
  obtain ⟨e, hpasses, h⟩ := counts_empty.exists_passAll? passages
  refine ⟨e, hpasses, h.held, h.room, ?_, fun start => ?_, fun start inside => h.pass?_leave,
    e.guard.enter?_eq⟩
  · rw [Guard.isNested, decide_eq_true_iff, h.held]
    exact Iff.rfl
  · split
    · rename_i hroom
      exact h.pass?_enter hroom start
    · rename_i hfull
      exact h.pass?_enter_full (Nat.le_of_not_lt hfull) start

end Entrance

end ShaderLowering
