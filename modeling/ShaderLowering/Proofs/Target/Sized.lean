import Mathlib.Data.Finset.Card
import Mathlib.Data.Finset.Range
import ShaderLowering.Proofs.Target.Growth

/-!
# How deep a type has to be looked into

Whether a type can be stored is found out by looking as many types deep as there are types
in the arena. Looking deeper finds nothing more
(`ShaderLowering.TypeArena.isSized_of_sizedWithin`): each further step of depth either
finds another type of the arena sized or finds nothing ever after, and there are only so
many types. So whether a type can be stored does not depend on what else an arena holds.
-/

namespace ShaderLowering

namespace TypeArena

variable {a : TypeArena} {t : Ty}

/-- The types of an arena that are found sized by looking the given number of types deep. -/
def sizedTypes (a : TypeArena) (depth : Nat) : Finset Nat :=
  (Finset.range a.size).filter fun index => a.sizedWithin depth ⟨index⟩

/-- Only a type of the arena is found sized. -/
theorem lt_size_of_sizedWithin {depth : Nat} (h : a.sizedWithin depth t = true) :
    t.index < a.size := by
  cases depth with
  | zero => exact absurd h (by simp [sizedWithin])
  | succ depth =>
    by_contra hlt
    rw [sizedWithin, data?_eq_none_iff.mpr (Nat.le_of_not_lt hlt)] at h
    exact absurd h (by simp)

theorem mem_sizedTypes {depth : Nat} :
    t.index ∈ a.sizedTypes depth ↔ a.sizedWithin depth t = true := by
  rw [sizedTypes, Finset.mem_filter, Finset.mem_range]
  exact ⟨fun h => h.2, fun h => ⟨lt_size_of_sizedWithin h, h⟩⟩

theorem sizedTypes_subset (a : TypeArena) (depth : Nat) :
    a.sizedTypes depth ⊆ a.sizedTypes (depth + 1) := by
  intro index hindex
  have h : a.sizedWithin depth ⟨index⟩ = true := mem_sizedTypes.mp hindex
  exact mem_sizedTypes.mpr (sizedWithin_succ h)

/-- If one more step of depth finds nothing, then neither does the next. -/
theorem sizedWithin_stable {depth : Nat} (h : a.sizedWithin depth = a.sizedWithin (depth + 1)) :
    a.sizedWithin (depth + 1) = a.sizedWithin (depth + 2) := by
  funext t
  rw [sizedWithin, h, sizedWithin.eq_def a (depth + 2)]

/-- Each step of depth finds another type, unless nothing more is found. -/
theorem sizedWithin_eq_or_lt_card (a : TypeArena) (depth : Nat) :
    a.sizedWithin depth = a.sizedWithin (depth + 1) ∨
      depth < (a.sizedTypes (depth + 1)).card := by
  induction depth with
  | zero =>
    by_cases h : a.sizedTypes 1 = ∅
    · refine Or.inl (funext fun t => ?_)
      have hnone : ¬a.sizedWithin 1 t = true := by
        rw [← mem_sizedTypes, h]
        exact Finset.notMem_empty _
      rw [Bool.eq_false_iff.mpr hnone, sizedWithin]
    · exact Or.inr (Finset.card_pos.mpr (Finset.nonempty_iff_ne_empty.mpr h))
  | succ depth ih =>
    rcases ih with hstable | hcard
    · exact Or.inl (sizedWithin_stable hstable)
    · by_cases heq : a.sizedTypes (depth + 1) = a.sizedTypes (depth + 2)
      · refine Or.inl (funext fun t => ?_)
        rw [Bool.eq_iff_iff, ← mem_sizedTypes, ← mem_sizedTypes, heq]
      · have hlt := Finset.card_lt_card ((a.sizedTypes_subset (depth + 1)).ssubset_of_ne heq)
        exact Or.inr (by omega)

/-- **Looking deeper than there are types finds nothing more.** -/
theorem sizedWithin_eq_of_le {depth : Nat} (h : a.size ≤ depth) :
    a.sizedWithin depth = a.sizedWithin a.size := by
  have hstable (depth : Nat) (h : a.size ≤ depth) :
      a.sizedWithin depth = a.sizedWithin (depth + 1) := by
    rcases a.sizedWithin_eq_or_lt_card depth with heq | hcard
    · exact heq
    · have hle := Finset.card_le_card (Finset.filter_subset
        (fun index => a.sizedWithin (depth + 1) ⟨index⟩) (Finset.range a.size))
      rw [Finset.card_range] at hle
      have hcard' : depth < ((Finset.range a.size).filter
        fun index => a.sizedWithin (depth + 1) ⟨index⟩).card := hcard
      omega
  induction depth, h using Nat.le_induction with
  | base => rfl
  | succ depth hle ih => rw [← hstable depth hle, ih]

/-- A type that is found sized at any depth can be stored. -/
theorem isSized_of_sizedWithin {depth : Nat} (h : a.sizedWithin depth t = true) :
    a.isSized t = true := by
  rcases Nat.le_total depth a.size with hle | hle
  · exact sizedWithin_mono hle h
  · rw [isSized, ← sizedWithin_eq_of_le hle]
    exact h

theorem isSized_iff : a.isSized t = true ↔ ∃ depth, a.sizedWithin depth t = true :=
  ⟨fun h => ⟨a.size, h⟩, fun ⟨_, h⟩ => isSized_of_sizedWithin h⟩

end TypeArena

/-! ### What values contain -/

namespace TypeData

/-- The types of the values that are contained in values of such data. -/
def contained : TypeData → List Ty
  | .vector element _ | .array element _ => [element]
  | .struct data => data.body.getD []
  | _ => []

/-- There are values of such data that can be stored, if what they contain can be. -/
def isStorable : TypeData → Bool
  | .void | .function _ _ _ => false
  | .struct data => data.body.isSome
  | _ => true

/-- Nothing more will be found out about such data. -/
def IsFinal (d : TypeData) : Prop :=
  ∀ d', d.Grows d' → d' = d

theorem IsStructural.isFinal {d : TypeData} (h : d.IsStructural) : d.IsFinal :=
  fun _ hgrows => hgrows.eq_of_isStructural h

end TypeData

namespace TypeArena

variable {a b : TypeArena} {t : Ty} {d : TypeData}

theorem sizedWithin_of_data? (hd : a.data? t = some d) (depth : Nat) :
    a.sizedWithin (depth + 1) t = (d.isStorable && d.contained.all (a.sizedWithin depth)) := by
  rw [sizedWithin, hd]
  rcases d with _ | bits | bits | ⟨element, count⟩ | ⟨element, count⟩ | ⟨pointee, addressSpace⟩ |
    ⟨result, params, variadic⟩ | ⟨name, _ | members, packed⟩
  all_goals simp [TypeData.isStorable, TypeData.contained]

/-- **A type can be stored if what its values contain can be.** -/
theorem isSized_iff_of_data? (hd : a.data? t = some d) :
    a.isSized t = true ↔ d.isStorable = true ∧ ∀ part ∈ d.contained, a.isSized part = true := by
  have hdeeper : a.isSized t = a.sizedWithin (a.size + 1) t := by
    rw [isSized, sizedWithin_eq_of_le (Nat.le_succ a.size)]
  rw [hdeeper, sizedWithin_of_data? hd, Bool.and_eq_true, List.all_eq_true]
  rfl

/-- Values of a struct that has a body can be stored if those of its members can. -/
theorem isSized_iff_of_body? {body : List Ty} (h : a.body? t = some body) :
    a.isSized t = true ↔ ∀ member ∈ body, a.isSized member = true := by
  obtain ⟨data, hdata, hbody⟩ := body?_eq_some_iff.mp h
  rw [isSized_iff_of_data? hdata, TypeData.isStorable, TypeData.contained, hbody]
  exact and_iff_right rfl

/-! ### Types about which all is known -/

/-- **The type is settled**: values of it contain no struct without a body. -/
inductive Settled (a : TypeArena) : Ty → Prop
  /-- Its data is final, and what its values contain is settled. -/
  | intro {t : Ty} {d : TypeData} (hd : a.data? t = some d) (hfinal : d.IsFinal)
      (hparts : ∀ part ∈ d.contained, Settled a part) : Settled a t

/-- The data of a settled type stays as it is. -/
theorem Settled.data?_eq (h : a.Settled t) (hg : a.Grows b) : b.data? t = a.data? t := by
  obtain ⟨hd, hfinal, -⟩ := h
  obtain ⟨d', hd', hgrows⟩ := hg _ _ hd
  rw [hd, hd', hfinal d' hgrows]

/-- What is settled is settled for good. -/
theorem Settled.grows (h : a.Settled t) (hg : a.Grows b) : b.Settled t := by
  induction h with
  | @intro t d hd hfinal hparts ih =>
    have hstays := Settled.data?_eq (.intro hd hfinal hparts) hg
    exact .intro (hstays.trans hd) hfinal ih

/-- **Whether a settled type can be stored is settled.** -/
theorem Settled.isSized_iff (h : a.Settled t) (hg : a.Grows b) :
    b.isSized t = true ↔ a.isSized t = true := by
  induction h with
  | @intro t d hd hfinal hparts ih =>
    have hstays := Settled.data?_eq (.intro hd hfinal hparts) hg
    rw [isSized_iff_of_data? (hstays.trans hd), isSized_iff_of_data? hd]
    exact and_congr_right fun _ => forall₂_congr ih

end TypeArena

end ShaderLowering
