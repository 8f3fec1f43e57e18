import ShaderLowering.Proofs.Target.Renaming

/-!
# Asking for types again

A handle is as good as the type it stands for: two handles of structural types are told apart
exactly if the types differ, and stay so whatever else is asked of the arena. This file puts
that together from what single actions do, for all sequences of actions that name only types
of the arena (`ShaderLowering.TypeArena.Admits`).

An arena is searched for a type before the type is added. One may also keep an index beside
it, that leads from data to handles and is consulted instead
(`ShaderLowering.IndexedArena`). The two come to the same
(`ShaderLowering.IndexedArena.performAll_eq`), since the index holds the data of structural
types and nothing else (`ShaderLowering.IndexedArena.Exact`): a struct is added without being
entered in the index, so that nothing there is out of date when it gets its body.
-/

namespace ShaderLowering

/-! ### What is asked for -/

/-- The data of the structural type that an action asks for, unless it is refused. -/
def TypeAction.wanted? : TypeAction → Option TypeData
  | .void => some .void
  | .int bits => if bits ∈ [1, 8, 16, 32, 64] then some (.int bits) else none
  | .bool => some (.int 1)
  | .float bits => if bits ∈ [16, 32, 64] then some (.float bits) else none
  | .vector element count => if count < 2 then none else some (.vector element count)
  | .array element count => some (.array element count)
  | .pointer pointee addressSpace => some (.pointer pointee addressSpace)
  | .function result params variadic => some (.function result params variadic)
  | .struct _ | .setBody _ _ _ => none

namespace TypeArena

/-- The type that is given out for an action, if one is. -/
def answer? (a : TypeArena) : TypeAction → Option Ty
  | .void => some a.void.1
  | .int bits => (a.int bits).toOption.map Prod.fst
  | .bool => some a.bool.1
  | .float bits => (a.float bits).toOption.map Prod.fst
  | .vector element count => (a.vector element count).toOption.map Prod.fst
  | .array element count => some (a.array element count).1
  | .pointer pointee addressSpace => some (a.pointer pointee addressSpace).1
  | .function result params variadic => some (a.function result params variadic).1
  | .struct name => some (a.struct name).1
  | .setBody _ _ _ => none

variable {a b : TypeArena} {action : TypeAction} {actions later : List TypeAction} {t : Ty}
  {d : TypeData}

/-- What is asked for is a structural type, and it is looked up or added. -/
theorem of_wanted? (h : action.wanted? = some d) (a : TypeArena) :
    d.IsStructural ∧ a.answer? action = some (a.intern d).1 ∧
      a.perform action = (a.intern d).2 := by
  cases action with
  | void | bool | array | pointer | function =>
    obtain rfl := Option.some.inj h
    exact ⟨trivial, rfl, rfl⟩
  | int bits =>
    obtain ⟨hbits, hd⟩ := Option.ite_none_right_eq_some.mp h
    obtain rfl := Option.some.inj hd
    rw [answer?, perform_int, int, if_pos hbits]
    exact ⟨trivial, rfl, rfl⟩
  | float bits =>
    obtain ⟨hbits, hd⟩ := Option.ite_none_right_eq_some.mp h
    obtain rfl := Option.some.inj hd
    rw [answer?, perform_float, float, if_pos hbits]
    exact ⟨trivial, rfl, rfl⟩
  | vector element count =>
    obtain ⟨hcount, hd⟩ := Option.ite_none_left_eq_some.mp h
    obtain rfl := Option.some.inj hd
    rw [answer?, perform_vector, vector, if_neg hcount]
    exact ⟨trivial, rfl, rfl⟩
  | struct | setBody => exact absurd h (by simp [TypeAction.wanted?])

/-- If no structural type is asked for, then a struct is added, or no type is given out and
what structural types there are stays as it is. -/
theorem of_wanted?_eq_none (h : action.wanted? = none) (a : TypeArena) :
    (∃ name, action = .struct name) ∨ a.answer? action = none ∧
      ∀ t d, d.IsStructural → ((a.perform action).data? t = some d ↔ a.data? t = some d) := by
  cases action with
  | void | bool | array | pointer | function => exact absurd h (by simp [TypeAction.wanted?])
  | int bits =>
    have hbits : bits ∉ [1, 8, 16, 32, 64] := fun hbits => by simp [TypeAction.wanted?, hbits] at h
    rw [answer?, perform_int, int, if_neg hbits]
    exact Or.inr ⟨rfl, fun _ _ _ => Iff.rfl⟩
  | float bits =>
    have hbits : bits ∉ [16, 32, 64] := fun hbits => by simp [TypeAction.wanted?, hbits] at h
    rw [answer?, perform_float, float, if_neg hbits]
    exact Or.inr ⟨rfl, fun _ _ _ => Iff.rfl⟩
  | vector element count =>
    have hcount : count < 2 := by
      by_contra hcount
      simp [TypeAction.wanted?, hcount] at h
    rw [answer?, perform_vector, vector, if_pos hcount]
    exact Or.inr ⟨rfl, fun _ _ _ => Iff.rfl⟩
  | struct name => exact Or.inl ⟨name, rfl⟩
  | setBody type members packed =>
    refine Or.inr ⟨rfl, fun t d hd => ?_⟩
    rw [perform_setBody]
    cases hb : a.setBody type members packed with
    | ok b =>
      -- the struct is none before and after
      obtain ⟨name, packed₀, hs, hdata⟩ := data?_setBody hb
      change b.data? t = some d ↔ _
      rw [hdata]
      split
      · rename_i hts
        rw [hts, hs]
        constructor <;> rintro ⟨⟩ <;> exact hd.elim
      · exact Iff.rfl
    | error fault => exact Iff.rfl

/-! ### Many actions -/

/-- The arena after actions have been performed in turn. -/
def performAll (a : TypeArena) (actions : List TypeAction) : TypeArena :=
  actions.foldl perform a

/-- The actions name only types that are there by the time. -/
def Admits (a : TypeArena) : List TypeAction → Prop
  | [] => True
  | action :: later => (∀ t ∈ action.handles, a.Has t) ∧ (a.perform action).Admits later

theorem grows_performAll (a : TypeArena) (actions : List TypeAction) :
    a.Grows (a.performAll actions) := by
  induction actions generalizing a with
  | nil => exact .refl a
  | cons action actions ih => exact (a.grows_perform action).trans (ih (a.perform action))

theorem Uniqued.performAll (h : a.Uniqued) (actions : List TypeAction) :
    (a.performAll actions).Uniqued := by
  induction actions generalizing a with
  | nil => exact h
  | cons action actions ih => exact ih (h.perform action)

theorem Founded.performAll (h : a.Founded) (hactions : a.Admits actions) :
    (a.performAll actions).Founded := by
  induction actions generalizing a with
  | nil => exact h
  | cons action actions ih => exact ih (h.perform hactions.1) hactions.2

/-- **A type is found again** if it was given out for something else than a new struct, and
nothing is made. -/
theorem Uniqued.answer?_again (hb : b.Uniqued) (hstruct : ∀ name, action ≠ .struct name)
    (ht : a.answer? action = some t) (hgrows : (a.perform action).Grows b) :
    b.answer? action = some t ∧ b.perform action = b := by
  cases hd : action.wanted? with
  | none =>
    rcases of_wanted?_eq_none hd a with ⟨name, hname⟩ | ⟨hnone, -⟩
    · exact absurd hname (hstruct name)
    · exact nomatch hnone.symm.trans ht
  | some d =>
    obtain ⟨hstructural, hanswer, hperform⟩ := of_wanted? hd a
    obtain ⟨-, hanswer', hperform'⟩ := of_wanted? hd b
    obtain rfl := Option.some.inj (hanswer.symm.trans ht)
    have hold : (a.perform action).data? (a.intern d).1 = some d := by
      rw [hperform]
      exact a.data?_intern d
    rw [hanswer', hperform', hb.intern_eq hstructural (hgrows.data? hold hstructural)]
    exact ⟨rfl, rfl⟩

/-- What is given out is a type of the arena. -/
theorem has_of_answer? (h : a.answer? action = some t) : (a.perform action).Has t := by
  cases hd : action.wanted? with
  | none =>
    rcases of_wanted?_eq_none hd a with ⟨name, rfl⟩ | ⟨hnone, -⟩
    · obtain rfl := Option.some.inj h
      exact has_of_data? (a.data?_push_self (.struct { name }))
    · exact nomatch hnone.symm.trans h
  | some d =>
    obtain ⟨-, hanswer, hperform⟩ := of_wanted? hd a
    obtain rfl := Option.some.inj (hanswer.symm.trans h)
    rw [hperform]
    exact has_of_data? (a.data?_intern d)

end TypeArena

/-! ### An index beside the arena -/

/-- An arena and an index of its types. -/
structure IndexedArena where
  /-- The types. -/
  arena : TypeArena := {}
  /-- Where there is a type of the given data. -/
  index : List (TypeData × Ty) := []

namespace IndexedArena

/-- The type with the given data: the one that the index has, or else a new one that is
entered in it. -/
def intern (x : IndexedArena) (d : TypeData) : Ty × IndexedArena :=
  match x.index.lookup d with
  | some t => (t, x)
  | none => ((x.arena.push d).1, ⟨(x.arena.push d).2, (d, (x.arena.push d).1) :: x.index⟩)

/-- What is given out for an action: structural types are found through the index, all else is
asked of the arena. -/
def answer? (x : IndexedArena) (action : TypeAction) : Option Ty :=
  match action.wanted? with
  | some d => some (x.intern d).1
  | none => x.arena.answer? action

/-- The arena and its index after an action. -/
def perform (x : IndexedArena) (action : TypeAction) : IndexedArena :=
  match action.wanted? with
  | some d => (x.intern d).2
  | none => { x with arena := x.arena.perform action }

/-- The arena and its index after actions have been performed in turn. -/
def performAll (x : IndexedArena) (actions : List TypeAction) : IndexedArena :=
  actions.foldl perform x

/-- **The index leads to the structural types**, to all of them and nowhere else. -/
def Exact (x : IndexedArena) : Prop :=
  ∀ d t, x.index.lookup d = some t ↔ d.IsStructural ∧ x.arena.data? t = some d

variable {x : IndexedArena}

theorem exact_empty : ({} : IndexedArena).Exact := by
  intro d t
  constructor
  · rintro ⟨⟩
  · rintro ⟨-, ht⟩
    simp [TypeArena.data?] at ht

/-- An exact index is one of unique types. -/
theorem Exact.uniqued (h : x.Exact) : x.arena.Uniqued := by
  intro s t d hd hs ht
  have hs' := (h d s).mpr ⟨hd, hs⟩
  have ht' := (h d t).mpr ⟨hd, ht⟩
  exact Option.some.inj (hs'.symm.trans ht')

/-- The index leads where a search of the arena leads. -/
theorem Exact.intern_eq (h : x.Exact) {d : TypeData} (hd : d.IsStructural) :
    (x.intern d).1 = (x.arena.intern d).1 ∧ (x.intern d).2.arena = (x.arena.intern d).2 := by
  rw [intern]
  split
  · rename_i t ht
    rw [h.uniqued.intern_eq hd ((h d t).mp ht).2]
    exact ⟨rfl, rfl⟩
  · rename_i hnone
    rcases x.arena.intern_cases d with ⟨hold, -⟩ | ⟨-, heq⟩
    · exact nomatch hnone.symm.trans ((h d _).mpr ⟨hd, hold⟩)
    · rw [heq]
      exact ⟨rfl, rfl⟩

theorem Exact.intern (h : x.Exact) {d : TypeData} (hd : d.IsStructural) :
    (x.intern d).2.Exact := by
  rw [IndexedArena.intern]
  split
  · exact h
  · rename_i hnone
    intro e t
    have hnew (t : Ty) : x.arena.data? t ≠ some d := fun ht =>
      nomatch hnone.symm.trans ((h d t).mpr ⟨hd, ht⟩)
    change ((d, (x.arena.push d).1) :: x.index).lookup e = some t ↔
      e.IsStructural ∧ (x.arena.push d).2.data? t = some e
    rw [TypeArena.data?_push, List.lookup_cons]
    by_cases hed : e = d
    · subst hed
      simp only [beq_self_eq_true, Option.some.injEq]
      split
      · rename_i hindex
        exact ⟨fun _ => ⟨hd, rfl⟩, fun _ => by cases t; exact congrArg Ty.mk hindex.symm⟩
      · rename_i hindex
        refine ⟨fun heq => absurd (congrArg Ty.index heq.symm) hindex, fun ht => ?_⟩
        exact absurd ht.2 (hnew t)
    · simp only [beq_eq_false_iff_ne.mpr hed, h e t]
      refine and_congr_right fun he => ?_
      split
      · rename_i hindex
        have hnone : x.arena.data? t = none := TypeArena.data?_eq_none_iff.mpr hindex.ge
        rw [hnone, Option.some.injEq]
        exact ⟨nofun, fun hde => absurd hde.symm hed⟩
      · exact Iff.rfl

/-- **An action comes to the same through the index**, which stays exact. -/
theorem Exact.perform (h : x.Exact) (action : TypeAction) :
    (x.perform action).Exact ∧ (x.perform action).arena = x.arena.perform action ∧
      x.answer? action = x.arena.answer? action := by
  cases hd : action.wanted? with
  | some d =>
    obtain ⟨hstructural, hanswer, hperform⟩ := TypeArena.of_wanted? hd x.arena
    obtain ⟨htype, harena⟩ := h.intern_eq hstructural
    rw [IndexedArena.perform, IndexedArena.answer?, hd, hanswer, hperform]
    exact ⟨h.intern hstructural, harena, congrArg some htype⟩
  | none =>
    rw [IndexedArena.perform, IndexedArena.answer?, hd]
    refine ⟨fun d t => (h d t).trans (and_congr_right fun hstructural => ?_), rfl, rfl⟩
    rcases TypeArena.of_wanted?_eq_none hd x.arena with ⟨name, rfl⟩ | ⟨-, hdata⟩
    · -- a struct is added, which is not structural data
      change x.arena.data? t = some d ↔ (x.arena.push (.struct { name })).2.data? t = some d
      rw [TypeArena.data?_push]
      split
      · rename_i hindex
        rw [TypeArena.data?_eq_none_iff.mpr hindex.ge]
        constructor <;> rintro ⟨⟩
        exact hstructural.elim
      · exact Iff.rfl
    · exact (hdata t d hstructural).symm

/-- The index stays as it is if the arena does. -/
theorem Exact.perform_eq_self (h : x.Exact) {action : TypeAction}
    (harena : x.arena.perform action = x.arena) : x.perform action = x := by
  cases hd : action.wanted? with
  | none =>
    rw [IndexedArena.perform, hd]
    exact congrArg (IndexedArena.mk · x.index) harena
  | some d =>
    obtain ⟨hstructural, -, hperform⟩ := TypeArena.of_wanted? hd x.arena
    have hthere := x.arena.data?_intern d
    rw [← hperform, harena] at hthere
    rw [IndexedArena.perform, hd]
    change (x.intern d).2 = x
    rw [IndexedArena.intern, (h d _).mpr ⟨hstructural, hthere⟩]

/-- **Any number of actions come to the same through the index.** -/
theorem performAll_eq (h : x.Exact) (actions : List TypeAction) :
    (x.performAll actions).Exact ∧
      (x.performAll actions).arena = x.arena.performAll actions := by
  induction actions generalizing x with
  | nil => exact ⟨h, rfl⟩
  | cons action actions ih =>
    obtain ⟨hexact, harena, -⟩ := h.perform action
    obtain ⟨hexact', harena'⟩ := ih hexact
    refine ⟨hexact', harena'.trans ?_⟩
    rw [harena]
    rfl

end IndexedArena

/-! ### All of it together -/

/-- **Structural types are unique, and types are made of earlier ones**, whatever has been
asked of an arena in actions that name types of it.

* Two handles of the same structural data are one handle.
* A type that was given out for anything but a new struct is given out for it again whatever
  has been asked in between, and the arena stays as it is.
* A new struct has a handle that no type had.
* Structural types are made of types with smaller handles, and all handles, those in the data
  of types and those given out, are below the number of types.
* Data never changes but that of a struct without a body, which keeps its name and may get one.
* An index that is kept beside the arena leads from data to the structural types and to nothing
  else, and to go by it gives out the same handles and makes the same types. -/
theorem TypeArena.performAll_uniqued_founded {actions : List TypeAction} {a : TypeArena}
    (hactions : ({} : TypeArena).Admits actions)
    (ha : ({} : TypeArena).performAll actions = a) :
    (∀ s t d, d.IsStructural → a.data? s = some d → a.data? t = some d → s = t) ∧
    (∀ action t, (∀ name, action ≠ .struct name) → a.answer? action = some t →
      ∀ later b, (a.perform action).performAll later = b →
        b.answer? action = some t ∧ b.perform action = b) ∧
    (∀ name t, a.answer? (.struct name) = some t →
      ¬a.Has t ∧ (a.perform (.struct name)).data? t = some (.struct { name })) ∧
    ((∀ t d, a.data? t = some d → ∀ part ∈ d.parts,
        a.Has part ∧ (d.IsStructural → part.index < t.index)) ∧
      ∀ action t, a.answer? action = some t → (a.perform action).Has t) ∧
    (∀ later t d, a.data? t = some d →
      ∃ d', (a.performAll later).data? t = some d' ∧ d.Grows d') ∧
    ∃ x, ({} : IndexedArena).performAll actions = x ∧ x.arena = a ∧
      (∀ d t, x.index.lookup d = some t ↔ d.IsStructural ∧ a.data? t = some d) ∧
      ∀ action, x.answer? action = a.answer? action ∧
        (x.perform action).arena = a.perform action ∧
        (a.perform action = a → x.perform action = x) := by
  have huniqued : a.Uniqued := ha ▸ uniqued_empty.performAll actions
  have hfounded : a.Founded := ha ▸ founded_empty.performAll hactions
  refine ⟨huniqued, fun action t hstruct ht later b hb => ?_, fun name t ht => ?_,
    ⟨fun t d ht part hpart => ?_, fun action t ht => has_of_answer? ht⟩,
    fun later => a.grows_performAll later, _, rfl, ?_⟩
  · have hlater := (a.perform action).grows_performAll later
    have hb' := (huniqued.perform action).performAll later
    rw [hb] at hlater hb'
    exact hb'.answer?_again hstruct ht hlater
  · obtain rfl := Option.some.inj ht
    exact ⟨Nat.lt_irrefl a.size, a.data?_push_self (.struct { name })⟩
  · exact ⟨hfounded.there t d ht part hpart, fun hd => hfounded.below t d ht hd part hpart⟩
  · obtain ⟨hexact, harena⟩ := IndexedArena.performAll_eq IndexedArena.exact_empty actions
    rw [ha] at harena
    refine ⟨harena, fun d t => ?_, fun action => ?_⟩
    · rw [hexact d t, harena]
    · obtain ⟨-, hperform, hanswer⟩ := hexact.perform action
      rw [hanswer, hperform, harena]
      exact ⟨rfl, rfl, fun hstays => hexact.perform_eq_self (by rw [harena, hstays])⟩

/-- A struct that holds a pointer to itself, and is asked for by name again: the pointer is
found again, the struct is not. -/
theorem TypeArena.performAll_uniqued_founded_circle :
    let a : TypeArena := ({} : TypeArena).performAll
      [.struct "s", .pointer ⟨0⟩ 0, .setBody ⟨0⟩ [⟨1⟩] false]
    let b : TypeArena := (a.perform (.pointer ⟨0⟩ 0)).performAll [.struct "s", .int 32]
    b.answer? (.pointer ⟨0⟩ 0) = some ⟨1⟩ ∧ b.perform (.pointer ⟨0⟩ 0) = b ∧
      b.data? ⟨0⟩ = some (.struct ⟨"s", some [⟨1⟩], false⟩) ∧ ¬a.Has ⟨2⟩ ∧
      b.data? ⟨2⟩ = some (.struct { name := "s" }) := by
  intro a b
  have hadmits : ({} : TypeArena).Admits
      [.struct "s", .pointer ⟨0⟩ 0, .setBody ⟨0⟩ [⟨1⟩] false] := by
    simp only [Admits, Has]
    decide +kernel
  obtain ⟨-, hagain, hnew, -⟩ := performAll_uniqued_founded hadmits (a := a) rfl
  obtain ⟨hanswer, hperform⟩ :=
    hagain (.pointer ⟨0⟩ 0) ⟨1⟩ (by simp) (by decide +kernel) [.struct "s", .int 32] b rfl
  exact ⟨hanswer, hperform, by decide +kernel, (hnew "s" ⟨2⟩ (by decide +kernel)).1,
    by decide +kernel⟩

end ShaderLowering
