import ShaderLowering.Proofs.Target.Growth

/-!
# What an arena refuses

Numbers come in a few widths, vectors have at least two elements, and a body is for a struct
that has none. An arena refuses what goes against this, and nothing else
(`ShaderLowering.TypeArena.carryOut_eq_error_iff`). It finds out before it writes anything, so that
a refusal leaves it as it was (`ShaderLowering.TypeArena.Refuses.perform_eq`). That the body of
a struct is refused once there is one makes it a thing that is written once
(`ShaderLowering.TypeArena.Grows.struct?_eq`).
-/

namespace ShaderLowering

namespace TypeArena

/-- **What is refused**, and how it is reported. -/
inductive Refuses (a : TypeArena) : TypeAction → TypeFault → Prop
  /-- There are no integers of the width. -/
  | int {bits : Nat} (h : bits ∉ [1, 8, 16, 32, 64]) :
    Refuses a (.int bits) (.badBitWidth bits .integer)
  /-- There are no floating-point numbers of the width. -/
  | float {bits : Nat} (h : bits ∉ [16, 32, 64]) :
    Refuses a (.float bits) (.badBitWidth bits .float)
  /-- A vector would have less than two elements. -/
  | vector {element : Ty} {count : Nat} (h : count < 2) :
    Refuses a (.vector element count) (.badVectorLength count)
  /-- What is given a body is no struct. -/
  | notAStruct {type : Ty} {members : List Ty} {packed : Bool} (h : a.struct? type = none) :
    Refuses a (.setBody type members packed) (.notAStruct type)
  /-- The struct has a body. -/
  | bodied {type : Ty} {members : List Ty} {packed : Bool} {data : StructData}
      (h : a.struct? type = some data) (hbody : data.body ≠ none) :
    Refuses a (.setBody type members packed) (.bodyAlreadySet data.name)

variable {a b : TypeArena} {t : Ty} {action : TypeAction} {fault : TypeFault}

/-- A body is accepted exactly for a struct that has none. -/
theorem setBody_eq_error_iff {members : List Ty} {packed : Bool} :
    a.setBody t members packed = .error fault ↔ a.Refuses (.setBody t members packed) fault := by
  rw [TypeArena.setBody]
  split
  · rename_i name packed₀ hd
    have hdata := struct?_eq_some_iff.mpr hd
    refine ⟨fun h => absurd h (by simp), fun h => ?_⟩
    cases h with
    | notAStruct hnone => exact absurd (hnone.symm.trans hdata) (by simp)
    | bodied h hbody =>
      obtain rfl := Option.some.inj (hdata.symm.trans h)
      exact absurd rfl hbody
  · rename_i data hbody hd
    have hdata := struct?_eq_some_iff.mpr hd
    have hsome : data.body ≠ none := by
      obtain ⟨name, body, packed₀⟩ := data
      rintro rfl
      exact hbody name packed₀ rfl
    constructor
    · intro h
      obtain rfl := Except.error.inj h
      exact .bodied hdata hsome
    · intro h
      cases h with
      | notAStruct hnone => exact absurd (hnone.symm.trans hdata) (by simp)
      | bodied h => rw [Option.some.inj (h.symm.trans hdata)]
  · rename_i hstruct
    have hnone : a.struct? t = none := by
      rw [struct?]
      split
      · rename_i data hd
        exact absurd hd (hstruct data)
      · rfl
    constructor
    · intro h
      obtain rfl := Except.error.inj h
      exact .notAStruct hnone
    · intro h
      cases h with
      | notAStruct => rfl
      | bodied h => exact absurd (hnone.symm.trans h) (by simp)

/-- What is made only under a condition is refused exactly if the condition fails. -/
theorem ite_eq_error_iff {ε α : Type} {p : Prop} [Decidable p] {made : α} {fault fault' : ε} :
    (if p then Except.ok made else .error fault) = .error fault' ↔ ¬p ∧ fault = fault' := by
  by_cases hp : p <;> simp [hp]

/-- What comes of asking is a fault if there is no new arena. -/
theorem map_outcome_eq_error_iff {α β : Type} {f : α → β}
    {made : Except TypeFault (α × TypeArena)} :
    (a.outcome made).1.map f = .error fault ↔ made = .error fault := by
  rcases made with _ | ⟨_, _⟩ <;> simp [outcome, Except.map]

/-- **An action is refused exactly as it is laid down.** -/
theorem carryOut_eq_error_iff :
    (action.carryOut.runIn a).1 = .error fault ↔ a.Refuses action fault := by
  cases action with
  | void | bool | array | pointer | function | struct => exact ⟨nofun, nofun⟩
  | int bits =>
    rw [TypeAction.carryOut, Making.runIn_map, Making.runIn_int, map_outcome_eq_error_iff,
      TypeArena.int, ite_eq_error_iff]
    constructor
    · rintro ⟨h, rfl⟩
      exact .int h
    · intro h
      cases h with
      | int h => exact ⟨h, rfl⟩
  | float bits =>
    rw [TypeAction.carryOut, Making.runIn_map, Making.runIn_float, map_outcome_eq_error_iff,
      TypeArena.float, ite_eq_error_iff]
    constructor
    · rintro ⟨h, rfl⟩
      exact .float h
    · intro h
      cases h with
      | float h => exact ⟨h, rfl⟩
  | vector element count =>
    rw [TypeAction.carryOut, Making.runIn_map, Making.runIn_vector, map_outcome_eq_error_iff,
      TypeArena.vector, ← ite_not, ite_eq_error_iff, Decidable.not_not]
    constructor
    · rintro ⟨h, rfl⟩
      exact .vector h
    · intro h
      cases h with
      | vector h => exact ⟨h, rfl⟩
  | setBody type members packed =>
    rw [TypeAction.carryOut, Making.runIn_map, Making.runIn_setBody, map_outcome_eq_error_iff]
    refine Iff.trans ?_ setBody_eq_error_iff
    cases a.setBody type members packed <;> simp [Except.map]

/-- **A refusal leaves the arena as it was.** -/
theorem Refuses.perform_eq (h : a.Refuses action fault) : a.perform action = a := by
  have hrefused {made : Except TypeFault (Ty × TypeArena)} (h : made = .error fault) :
      (a.outcome made).2 = a := by
    rw [h]
    rfl
  cases h with
  | int h =>
    rw [perform_int]
    exact hrefused (if_neg h)
  | float h =>
    rw [perform_float]
    exact hrefused (if_neg h)
  | vector h =>
    rw [perform_vector]
    exact hrefused (if_pos h)
  | notAStruct h =>
    rw [perform_setBody, setBody_eq_error_iff.mpr (.notAStruct h)]
    rfl
  | bodied h hbody =>
    rw [perform_setBody, setBody_eq_error_iff.mpr (.bodied h hbody)]
    rfl

/-- **A body that is not refused is the body of the struct from then on.** -/
theorem body?_perform_setBody {members : List Ty} {packed : Bool}
    (h : ∀ fault, ¬a.Refuses (.setBody t members packed) fault) :
    (a.perform (.setBody t members packed)).body? t = some members := by
  rw [perform_setBody]
  cases hb : a.setBody t members packed with
  | error fault => exact absurd (setBody_eq_error_iff.mp hb) (h fault)
  | ok b =>
    obtain ⟨name, _, -, hdata⟩ := data?_setBody hb
    exact body?_eq_some_iff.mpr ⟨⟨name, some members, packed⟩, (hdata t).trans (if_pos rfl), rfl⟩

/-- **A struct that has a body stays what it is.** -/
theorem Grows.struct?_eq {data : StructData} (h : a.Grows b) (ht : a.struct? t = some data)
    (hbody : data.body ≠ none) : b.struct? t = some data := by
  obtain ⟨data', hdata', -, heq⟩ := h.struct (struct?_eq_some_iff.mp ht)
  rw [struct?_eq_some_iff, hdata', heq hbody]

end TypeArena

end ShaderLowering
