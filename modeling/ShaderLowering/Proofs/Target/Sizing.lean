import ShaderLowering.Proofs.Target.SizeSearch

/-!
# How types come to be sized

Whether a type can be stored is found out by a search, in an arena that goes on to change: types
are added, and structs get bodies through which older types may come to lie in newer ones and
in one another. But what has been found to be storable stays so
(`ShaderLowering.TypeArena.Grows.isSized`), since all that is in it is known and no circle can be
closed through it any more.

The other way round, a type that cannot be stored can become one that can, and there is one way
only: a struct that its values contain gets its body. For if the data of all that is in a type
stays the same, then so does the answer (`ShaderLowering.TypeArena.Founded.isSized_or_reaches`),
and no action but this one changes the data of a type that is there
(`ShaderLowering.TypeArena.setBody_of_data?_ne`).
-/

namespace ShaderLowering

namespace TypeArena

variable {a b : TypeArena} {s t : Ty} {action : TypeAction} {actions later : List TypeAction}

/-- **A type that one arena finds sized** is sized in another, or there is something in it that is
not the same in both. -/
theorem Founded.isSized_or_reaches (ha : a.Founded) {depth : Nat} (ht : a.Has t)
    (h : b.sizedWithin depth t = true) :
    a.isSized t = true ∨
      ∃ s, Relation.ReflTransGen a.Contains t s ∧ a.Has s ∧ b.data? s ≠ a.data? s := by
  -- by the depth of the look, as types may lie in one another in circles
  induction depth generalizing t with
  | zero => exact absurd h (by simp [sizedWithin])
  | succ depth ih =>
    obtain ⟨d, hd⟩ := ht.exists_data?
    by_cases hsame : b.data? t = a.data? t
    · rw [sizedWithin_of_data? (hsame.trans hd), Bool.and_eq_true, List.all_eq_true] at h
      obtain ⟨hstorable, hparts⟩ := h
      by_cases hall : ∀ part ∈ d.contained, a.isSized part = true
      · exact Or.inl ((isSized_iff_of_data? hd).mpr ⟨hstorable, hall⟩)
      · push Not at hall
        obtain ⟨part, hpart, hunsized⟩ := hall
        have hcontains : a.Contains t part := ⟨d, hd, hpart⟩
        rcases ih (ha.has_of_contains hcontains) (hparts part hpart) with hsized | ⟨s, hway, hs⟩
        · exact absurd hsized hunsized
        · exact Or.inr ⟨s, hway.head hcontains, hs⟩
    · exact Or.inr ⟨t, .refl, ht, hsame⟩

/-- **Only giving a struct its body changes the data of a type** that is there. -/
theorem setBody_of_data?_ne (hs : a.Has s) (h : (a.perform action).data? s ≠ a.data? s) :
    ∃ members packed, action = .setBody s members packed ∧
      a.setBody s members packed = .ok (a.perform action) := by
  obtain ⟨d, hd⟩ := hs.exists_data?
  rcases a.perform_cases action with heq | ⟨e, -, heq⟩ | ⟨name, heq⟩ |
    ⟨type, members, packed, haction, hb⟩
  · exact absurd (by rw [heq]) h
  · exact absurd (by rw [heq, data?_intern_of_data? hd, hd]) h
  · exact absurd (by rw [heq, struct, data?_push_of_data? hd, hd]) h
  · obtain ⟨name, packed₀, -, hdata⟩ := data?_setBody hb
    by_cases hst : s = type
    · subst hst
      exact ⟨members, packed, haction, hb⟩
    · exact absurd (by rw [hdata, if_neg hst]) h

/-- **A type comes to be sized with a body** that is given to the type itself, or to a struct that
its values contain. -/
theorem Founded.exists_setBody (ha : a.Founded) (ht : a.Has t) (hbefore : a.isSized t = false)
    (hafter : (a.perform action).isSized t = true) :
    ∃ s members packed, action = .setBody s members packed ∧
      a.setBody s members packed = .ok (a.perform action) ∧
      Relation.ReflTransGen a.Contains t s := by
  rcases ha.isSized_or_reaches ht hafter with hsized | ⟨s, hway, hs, hne⟩
  · exact absurd hsized (Bool.eq_false_iff.mp hbefore)
  · obtain ⟨members, packed, haction, hb⟩ := setBody_of_data?_ne hs hne
    exact ⟨s, members, packed, haction, hb, hway⟩

/-- Of actions in the course of which a type comes to be sized, one does it. -/
theorem Founded.exists_setBody_of_performAll (ha : a.Founded) (hlater : a.Admits later)
    (ht : a.Has t) (hbefore : a.isSized t = false)
    (hafter : (a.performAll later).isSized t = true) :
    ∃ earlier s members packed rest, later = earlier ++ .setBody s members packed :: rest ∧
      (a.performAll earlier).isSized t = false ∧
      (∃ c, (a.performAll earlier).setBody s members packed = .ok c ∧ c.isSized t = true) ∧
      Relation.ReflTransGen (a.performAll earlier).Contains t s := by
  induction later generalizing a with
  | nil => exact absurd hafter (Bool.eq_false_iff.mp hbefore)
  | cons action later ih =>
    by_cases hnow : (a.perform action).isSized t = true
    · obtain ⟨s, members, packed, rfl, hb, hway⟩ := ha.exists_setBody ht hbefore hnow
      exact ⟨[], s, members, packed, later, rfl, hbefore, ⟨_, hb, hnow⟩, hway⟩
    · have ht' : (a.perform action).Has t := lt_of_lt_of_le ht (a.grows_perform action).size_le
      obtain ⟨earlier, s, members, packed, rest, rfl, hrest⟩ := ih (ha.perform hlater.1) hlater.2
        ht' (Bool.eq_false_iff.mpr hnow) hafter
      exact ⟨action :: earlier, s, members, packed, rest, rfl, hrest⟩

/-- **Types are sized for good, and come to be so with a body**, in every arena that was made by
actions that name types of it.

* A type that can be stored can be stored after any action, whether or not the action is refused,
  and neither it nor anything in it comes to lie within itself.
* If a type cannot be stored, and can be after an action, then the action gave a struct its body,
  and the struct is the type itself or is contained in its values.
* Over any number of actions, a type stays sized; and if it comes to be sized, it does so when one
  of them gives a body to such a struct. -/
theorem performAll_isSized_stays {actions : List TypeAction} {a : TypeArena} {t : Ty}
    (hactions : ({} : TypeArena).Admits actions) (ha : ({} : TypeArena).performAll actions = a)
    (ht : a.Has t) :
    (∀ action, a.isSized t = true → (a.perform action).isSized t = true ∧
      ∀ s, Relation.ReflTransGen (a.perform action).Contains t s →
        ¬Relation.TransGen (a.perform action).Contains s s) ∧
    (∀ action, a.isSized t = false → (a.perform action).isSized t = true →
      ∃ s members packed, action = .setBody s members packed ∧
        a.setBody s members packed = .ok (a.perform action) ∧
        Relation.ReflTransGen a.Contains t s) ∧
    (∀ later, a.isSized t = true → (a.performAll later).isSized t = true) ∧
    (∀ later, a.Admits later → a.isSized t = false → (a.performAll later).isSized t = true →
      ∃ earlier s members packed rest, later = earlier ++ .setBody s members packed :: rest ∧
        (a.performAll earlier).isSized t = false ∧
        (∃ c, (a.performAll earlier).setBody s members packed = .ok c ∧ c.isSized t = true) ∧
        Relation.ReflTransGen (a.performAll earlier).Contains t s) := by
  have hfounded : a.Founded := ha ▸ founded_empty.performAll hactions
  refine ⟨fun action h => ?_, fun action => hfounded.exists_setBody ht,
    fun later => (a.grows_performAll later).isSized,
    fun later hlater => hfounded.exists_setBody_of_performAll hlater ht⟩
  have hafter := (a.grows_perform action).isSized h
  exact ⟨hafter, fun s hway => ((isSized_iff_sized.mp hafter).reaches hway).not_transGen⟩

/-- A struct in an array in a struct: the outer one can be stored when the inner one gets its body,
and no other body that is tried, or given to a struct around it, takes that away. -/
theorem performAll_isSized_stays_nested :
    let made : List TypeAction := [.struct "inner", .struct "outer", .int 32, .array ⟨0⟩ 4,
      .setBody ⟨1⟩ [⟨3⟩, ⟨2⟩] false]
    let a : TypeArena := ({} : TypeArena).performAll made
    let b := a.perform (.setBody ⟨0⟩ [⟨2⟩] false)
    let c := b.performAll [.setBody ⟨0⟩ [⟨1⟩] false, .struct "round", .setBody ⟨4⟩ [⟨4⟩, ⟨1⟩] false]
    a.isSized ⟨1⟩ = false ∧ b.isSized ⟨1⟩ = true ∧ Relation.ReflTransGen a.Contains ⟨1⟩ ⟨0⟩ ∧
      c.isSized ⟨1⟩ = true ∧ c.isSized ⟨4⟩ = false := by
  intro made a b c
  have hadmits : ({} : TypeArena).Admits (made ++ [.setBody ⟨0⟩ [⟨2⟩] false]) := by
    simp only [made, List.cons_append, List.nil_append, Admits, Has]
    decide +kernel
  have hadmits' : ({} : TypeArena).Admits made := by
    simp only [made, Admits, Has]
    decide +kernel
  have hbefore : a.isSized ⟨1⟩ = false := by decide +kernel
  have hafter : b.isSized ⟨1⟩ = true := by decide +kernel
  obtain ⟨-, hbecomes, -⟩ :=
    performAll_isSized_stays hadmits' (a := a) (t := ⟨1⟩) rfl (by rw [Has]; decide +kernel)
  obtain ⟨-, -, hstays, -⟩ :=
    performAll_isSized_stays hadmits (a := b) (t := ⟨1⟩) rfl (by rw [Has]; decide +kernel)
  obtain ⟨s, members, packed, haction, -, hway⟩ := hbecomes _ hbefore hafter
  cases haction
  exact ⟨hbefore, hafter, hway, hstays _ hafter, by decide +kernel⟩

end TypeArena

end ShaderLowering
