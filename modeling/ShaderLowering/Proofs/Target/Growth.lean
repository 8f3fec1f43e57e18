import ShaderLowering.Proofs.Target.Making

/-!
# How an arena grows

Types are added to an arena and never taken away, and the only data that ever changes
is that of a named struct, which goes from having no body to having one.
`ShaderLowering.TypeArena.Grows` says so of two states of an arena, and every operation
is shown to be an instance of it. Two things rest on that:

* **Structural types stay unique** (`ShaderLowering.TypeArena.Uniqued`), so that the data
  of a structural type determines its handle, whatever has been made in the meantime.
* **What can be stored can be stored for good**
  (`ShaderLowering.TypeArena.Grows.isSized`): a type is found sized by looking through
  data that cannot change any more.
-/

namespace ShaderLowering

/-- Data that is not a named struct's: two types of this data are one type. -/
def TypeData.IsStructural : TypeData → Prop
  | .struct _ => False
  | _ => True

/-- What the data of a type may become: a struct without a body may get one. -/
inductive TypeData.Grows : TypeData → TypeData → Prop
  /-- Most data stays as it is. -/
  | refl (d : TypeData) : Grows d d
  /-- A struct that has no body gets one. -/
  | body (name : String) (packed : Bool) (members : List Ty) (packed' : Bool) :
    Grows (.struct ⟨name, none, packed⟩) (.struct ⟨name, some members, packed'⟩)

namespace TypeData.Grows

variable {d d' d'' : TypeData}

theorem trans (h : d.Grows d') (h' : d'.Grows d'') : d.Grows d'' := by
  cases h with
  | refl => exact h'
  | body name packed members packed' =>
    cases h' with
    | refl => exact .body name packed members packed'

theorem eq_of_isStructural (h : d.Grows d') (hd : d.IsStructural) : d' = d := by
  cases h with
  | refl => rfl
  | body => exact hd.elim

/-- A struct keeps its name, and its body if it has one. -/
theorem struct {s : StructData} (h : (TypeData.struct s).Grows d) :
    ∃ s', d = .struct s' ∧ s'.name = s.name ∧ (s.body ≠ none → s' = s) := by
  cases h with
  | refl => exact ⟨s, rfl, rfl, fun _ => rfl⟩
  | body name packed members packed' => exact ⟨_, rfl, rfl, fun h => absurd rfl h⟩

end TypeData.Grows

namespace TypeArena

variable {a b c : TypeArena} {s t : Ty} {d : TypeData}

/-- Every type of the first arena is one of the second, and its data has at most grown. -/
def Grows (a b : TypeArena) : Prop :=
  ∀ t d, a.data? t = some d → ∃ d', b.data? t = some d' ∧ d.Grows d'

/-- No two types have the same structural data. -/
def Uniqued (a : TypeArena) : Prop :=
  ∀ s t d, d.IsStructural → a.data? s = some d → a.data? t = some d → s = t

theorem data?_eq_none_iff : a.data? t = none ↔ a.size ≤ t.index := by
  simp [data?, size]

theorem struct?_eq_some_iff {data : StructData} :
    a.struct? t = some data ↔ a.data? t = some (.struct data) := by
  rw [struct?]
  split
  · rename_i hd
    rw [hd, Option.some.injEq, Option.some.injEq, TypeData.struct.injEq]
  · rename_i hd
    exact ⟨fun h => absurd h (by simp), fun h => absurd h (hd data)⟩

/-- A body is the body of a struct. -/
theorem body?_eq_some_iff {body : List Ty} :
    a.body? t = some body ↔ ∃ data, a.data? t = some (.struct data) ∧ data.body = some body := by
  rw [body?, Option.bind_eq_some_iff]
  exact exists_congr fun data => and_congr_left fun _ => struct?_eq_some_iff

theorem lt_size_of_data? (h : a.data? t = some d) : t.index < a.size := by
  refine Nat.lt_of_not_le fun hle => ?_
  rw [data?_eq_none_iff.mpr hle] at h
  exact absurd h (by simp)

theorem uniqued_empty : ({} : TypeArena).Uniqued := by
  intro s t d _ hs
  simp [data?] at hs

namespace Grows

theorem refl (a : TypeArena) : a.Grows a :=
  fun _ d h => ⟨d, h, .refl d⟩

theorem trans (h : a.Grows b) (h' : b.Grows c) : a.Grows c := by
  intro t d hd
  obtain ⟨d', hd', hgrows⟩ := h t d hd
  obtain ⟨d'', hd'', hgrows'⟩ := h' t d' hd'
  exact ⟨d'', hd'', hgrows.trans hgrows'⟩

/-- Structural data does not change. -/
theorem data? (h : a.Grows b) (ht : a.data? t = some d) (hd : d.IsStructural) :
    b.data? t = some d := by
  obtain ⟨d', hd', hgrows⟩ := h t d ht
  rw [hd', hgrows.eq_of_isStructural hd]

/-- A struct keeps its name, and its body if it has one. -/
theorem struct (h : a.Grows b) {data : StructData} (ht : a.data? t = some (.struct data)) :
    ∃ data', b.data? t = some (.struct data') ∧ data'.name = data.name ∧
      (data.body ≠ none → data' = data) := by
  obtain ⟨d', hd', hgrows⟩ := h t _ ht
  obtain ⟨data', rfl, hname, hbody⟩ := hgrows.struct
  exact ⟨data', hd', hname, hbody⟩

/-- The body of a struct stays. -/
theorem body? (h : a.Grows b) {body : List Ty} (ht : a.body? t = some body) :
    b.body? t = some body := by
  obtain ⟨data, hdata, hbody⟩ := body?_eq_some_iff.mp ht
  obtain ⟨data', hdata', -, heq⟩ := h.struct hdata
  rw [heq (by simp [hbody])] at hdata'
  exact body?_eq_some_iff.mpr ⟨data, hdata', hbody⟩

theorem size_le (h : a.Grows b) : a.size ≤ b.size := by
  rcases Nat.eq_zero_or_pos a.size with hzero | hpos
  · omega
  · have hlast : a.data? ⟨a.size - 1⟩ ≠ none := by
      rw [Ne, data?_eq_none_iff]
      change ¬a.size ≤ a.size - 1
      omega
    obtain ⟨d, hd⟩ := Option.ne_none_iff_exists'.mp hlast
    obtain ⟨d', hd', -⟩ := h _ d hd
    have := lt_size_of_data? hd'
    change a.size - 1 < b.size at this
    omega

end Grows

/-! ### Adding types -/

theorem data?_push (a : TypeArena) (d : TypeData) (t : Ty) :
    (a.push d).2.data? t = if t.index = a.size then some d else a.data? t :=
  Array.getElem?_push

theorem data?_push_self (a : TypeArena) (d : TypeData) :
    (a.push d).2.data? (a.push d).1 = some d := by
  rw [data?_push]
  exact if_pos rfl

theorem data?_push_of_data? {d' : TypeData} (h : a.data? t = some d) :
    (a.push d').2.data? t = some d := by
  have := lt_size_of_data? h
  rw [data?_push, if_neg (by omega), h]

theorem grows_push (a : TypeArena) (d : TypeData) : a.Grows (a.push d).2 :=
  fun _ d' h => ⟨d', data?_push_of_data? h, .refl d'⟩

/-- Adding a type keeps structural types unique if it is a struct, or if there is no
type of its data. -/
theorem Uniqued.push (h : a.Uniqued) (hd : d.IsStructural → ∀ t, a.data? t ≠ some d) :
    (a.push d).2.Uniqued := by
  intro s t e he hs ht
  rw [data?_push] at hs ht
  by_cases hsize : s.index = a.size <;> by_cases hsize' : t.index = a.size
  · cases s
    cases t
    simp_all
  · rw [if_pos hsize, Option.some.injEq] at hs
    rw [if_neg hsize', ← hs] at ht
    exact absurd ht (hd (hs ▸ he) t)
  · rw [if_pos hsize', Option.some.injEq] at ht
    rw [if_neg hsize, ← ht] at hs
    exact absurd hs (hd (ht ▸ he) s)
  · rw [if_neg hsize] at hs
    rw [if_neg hsize'] at ht
    exact h s t e he hs ht

/-- Either there is a type of the wanted data already, or it is added. -/
theorem intern_cases (a : TypeArena) (d : TypeData) :
    (a.data? (a.intern d).1 = some d ∧ (a.intern d).2 = a) ∨
      ((∀ t, a.data? t ≠ some d) ∧ a.intern d = a.push d) := by
  unfold intern
  split
  · rename_i index h
    refine Or.inl ⟨?_, rfl⟩
    obtain ⟨hlt, heq, -⟩ := Array.findIdx?_eq_some_iff_getElem.mp h
    change a.types[index]? = some d
    rw [Array.getElem?_eq_getElem hlt, beq_iff_eq.mp heq]
  · rename_i h
    refine Or.inr ⟨fun t ht => ?_, rfl⟩
    obtain ⟨hlt, heq⟩ := Array.getElem?_eq_some_iff.mp ht
    have := Array.findIdx?_eq_none_iff.mp h a.types[t.index] (Array.getElem_mem hlt)
    simp [heq] at this

theorem data?_intern (a : TypeArena) (d : TypeData) :
    (a.intern d).2.data? (a.intern d).1 = some d := by
  rcases a.intern_cases d with ⟨h, heq⟩ | ⟨-, heq⟩
  · rw [heq, h]
  · rw [heq, data?_push_self]

/-- Making a structural type changes no data there is, not even that of a struct. -/
theorem data?_intern_of_data? {d' : TypeData} (h : a.data? t = some d) :
    (a.intern d').2.data? t = some d := by
  rcases a.intern_cases d' with ⟨-, heq⟩ | ⟨-, heq⟩
  · rw [heq, h]
  · rw [heq, data?_push_of_data? h]

theorem grows_intern (a : TypeArena) (d : TypeData) : a.Grows (a.intern d).2 := by
  rcases a.intern_cases d with ⟨-, heq⟩ | ⟨-, heq⟩
  · rw [heq]
    exact .refl a
  · rw [heq]
    exact a.grows_push d

theorem Uniqued.intern (h : a.Uniqued) (d : TypeData) : (a.intern d).2.Uniqued := by
  rcases a.intern_cases d with ⟨-, heq⟩ | ⟨hnew, heq⟩
  · rwa [heq]
  · rw [heq]
    exact h.push fun _ => hnew

/-- Asking for a type that is there gives its handle and makes nothing. -/
theorem Uniqued.intern_eq (h : a.Uniqued) (hd : d.IsStructural) (ht : a.data? t = some d) :
    a.intern d = (t, a) := by
  rcases a.intern_cases d with ⟨hold, heq⟩ | ⟨hnew, -⟩
  · exact Prod.ext (h _ _ d hd hold ht) heq
  · exact absurd ht (hnew t)

/-! ### Giving a struct its body -/

/-- The data of every type after a struct has got its body. -/
theorem data?_setBody {members : List Ty} {packed : Bool}
    (h : a.setBody s members packed = .ok b) :
    ∃ name packed₀, a.data? s = some (.struct ⟨name, none, packed₀⟩) ∧
      ∀ t, b.data? t = if t = s then some (.struct ⟨name, some members, packed⟩)
        else a.data? t := by
  unfold setBody at h
  split at h
  · rename_i name packed₀ hs
    refine ⟨name, packed₀, hs, fun t => ?_⟩
    cases h
    have hlt : s.index < a.types.size := lt_size_of_data? hs
    by_cases hts : t = s
    · rw [if_pos hts, hts]
      simp [data?, hlt]
    · have hne : s.index ≠ t.index := fun hindex => hts (by cases s; cases t; simp_all)
      rw [if_neg hts]
      simp [data?, Array.getElem?_setIfInBounds_ne hne]
  · exact absurd h (by simp)
  · exact absurd h (by simp)

/-- An opaque struct can be given a body. -/
theorem exists_setBody {name : String} {packed₀ : Bool}
    (h : a.data? s = some (.struct ⟨name, none, packed₀⟩)) (members : List Ty)
    (packed : Bool) : ∃ b, a.setBody s members packed = .ok b := by
  simp only [setBody, h]
  exact ⟨_, rfl⟩

theorem grows_setBody {members : List Ty} {packed : Bool}
    (h : a.setBody s members packed = .ok b) : a.Grows b := by
  obtain ⟨name, packed₀, hs, hdata⟩ := data?_setBody h
  intro t d ht
  rw [hdata]
  split
  · rename_i hts
    rw [hts, hs, Option.some.injEq] at ht
    rw [← ht]
    exact ⟨_, rfl, .body ..⟩
  · exact ⟨d, ht, .refl d⟩

theorem Uniqued.setBody {members : List Ty} {packed : Bool} (hu : a.Uniqued)
    (h : a.setBody s members packed = .ok b) : b.Uniqued := by
  obtain ⟨name, packed₀, -, hdata⟩ := data?_setBody h
  intro t u d hd ht hu'
  rw [hdata] at ht hu'
  split at ht
  · rw [Option.some.injEq] at ht
    rw [← ht] at hd
    exact hd.elim
  · split at hu'
    · rw [Option.some.injEq] at hu'
      rw [← hu'] at hd
      exact hd.elim
    · exact hu t u d hd ht hu'

/-! ### Types that may be refused -/

section Made

variable {bits count : Nat} {made : Ty × TypeArena}

/-- Integers that are made have one of the widths there are. -/
theorem of_int (h : a.int bits = .ok made) : made = a.intern (.int bits) ∧ bits ≤ 64 := by
  rw [int] at h
  split at h
  · rename_i hbits
    refine ⟨(Except.ok.inj h).symm, ?_⟩
    simp only [List.mem_cons, List.not_mem_nil, or_false] at hbits
    omega
  · exact absurd h (by simp)

/-- Floating-point numbers that are made have one of the widths there are. -/
theorem of_float (h : a.float bits = .ok made) : made = a.intern (.float bits) ∧ bits ≤ 64 := by
  rw [float] at h
  split at h
  · rename_i hbits
    refine ⟨(Except.ok.inj h).symm, ?_⟩
    simp only [List.mem_cons, List.not_mem_nil, or_false] at hbits
    omega
  · exact absurd h (by simp)

theorem of_vector (h : a.vector t count = .ok made) : made = a.intern (.vector t count) := by
  rw [vector] at h
  split at h
  · exact absurd h (by simp)
  · exact (Except.ok.inj h).symm

end Made

end TypeArena

/-! ### What can be asked of an arena -/

namespace TypeArena

variable {a b : TypeArena} {t : Ty}

/-- **What an action can do to an arena**: nothing, or have a structural type made if
there is none, or add an opaque struct, or give a struct its body. -/
theorem perform_cases (a : TypeArena) (action : TypeAction) :
    a.perform action = a ∨
      (∃ d : TypeData, d.IsStructural ∧ a.perform action = (a.intern d).2) ∨
      (∃ name, a.perform action = (a.struct name).2) ∨
      ∃ type members packed, action = .setBody type members packed ∧
        a.setBody type members packed = .ok (a.perform action) := by
  cases action with
  | void =>
    exact Or.inr (Or.inl ⟨.void, trivial, rfl⟩)
  | int bits =>
    by_cases h : bits ∈ [1, 8, 16, 32, 64]
    · exact Or.inr (Or.inl ⟨.int bits, trivial, by rw [perform_int, int, if_pos h]; rfl⟩)
    · exact Or.inl (by rw [perform_int, int, if_neg h]; rfl)
  | bool =>
    exact Or.inr (Or.inl ⟨.int 1, trivial, rfl⟩)
  | float bits =>
    by_cases h : bits ∈ [16, 32, 64]
    · exact Or.inr (Or.inl ⟨.float bits, trivial, by rw [perform_float, float, if_pos h]; rfl⟩)
    · exact Or.inl (by rw [perform_float, float, if_neg h]; rfl)
  | vector element count =>
    by_cases h : count < 2
    · exact Or.inl (by rw [perform_vector, vector, if_pos h]; rfl)
    · exact Or.inr (Or.inl ⟨.vector element count, trivial, by
        rw [perform_vector, vector, if_neg h]
        rfl⟩)
  | array element count =>
    exact Or.inr (Or.inl ⟨.array element count, trivial, rfl⟩)
  | pointer pointee addressSpace =>
    exact Or.inr (Or.inl ⟨.pointer pointee addressSpace, trivial, rfl⟩)
  | function result params variadic =>
    exact Or.inr (Or.inl ⟨.function result params variadic, trivial, rfl⟩)
  | struct name => exact Or.inr (Or.inr (Or.inl ⟨name, rfl⟩))
  | setBody type members packed =>
    rw [perform_setBody]
    cases hb : a.setBody type members packed with
    | ok b => exact Or.inr (Or.inr (Or.inr ⟨type, members, packed, rfl, hb⟩))
    | error fault => exact Or.inl rfl

theorem grows_perform (a : TypeArena) (action : TypeAction) : a.Grows (a.perform action) := by
  rcases a.perform_cases action with h | ⟨d, -, h⟩ | ⟨name, h⟩ | ⟨_, _, _, -, h⟩
  · rw [h]
    exact .refl a
  · rw [h]
    exact a.grows_intern d
  · rw [h]
    exact a.grows_push _
  · exact grows_setBody h

theorem Uniqued.perform (hu : a.Uniqued) (action : TypeAction) : (a.perform action).Uniqued := by
  rcases a.perform_cases action with h | ⟨d, -, h⟩ | ⟨name, h⟩ | ⟨_, _, _, -, h⟩
  · rwa [h]
  · rw [h]
    exact hu.intern d
  · rw [h]
    exact hu.push False.elim
  · exact hu.setBody h

/-! ### Sized types stay sized -/

/-- A pointer can be stored, whatever it points to. -/
theorem isSized_of_pointer {pointee : Ty} {addressSpace : Nat}
    (h : a.data? t = some (.pointer pointee addressSpace)) : a.isSized t = true := by
  obtain ⟨depth, hsize⟩ := Nat.exists_eq_succ_of_ne_zero (Nat.ne_zero_of_lt (lt_size_of_data? h))
  rw [isSized, hsize, sizedWithin, h]

/-- Looking one type deeper finds no fewer types sized. -/
theorem sizedWithin_succ {depth : Nat} (h : a.sizedWithin depth t = true) :
    a.sizedWithin (depth + 1) t = true := by
  induction depth generalizing t with
  | zero => simp [sizedWithin] at h
  | succ depth ih =>
    rw [sizedWithin] at h ⊢
    split at h
    · rfl
    · rfl
    · rfl
    · exact ih h
    · exact ih h
    · exact List.all_eq_true.mpr fun m hm => ih (List.all_eq_true.mp h m hm)
    · exact absurd h (by simp)

theorem sizedWithin_mono {depth depth' : Nat} (hle : depth ≤ depth')
    (h : a.sizedWithin depth t = true) : a.sizedWithin depth' t = true := by
  induction hle with
  | refl => exact h
  | step _ ih => exact sizedWithin_succ ih

theorem Grows.sizedWithin (h : a.Grows b) {depth : Nat}
    (ht : a.sizedWithin depth t = true) : b.sizedWithin depth t = true := by
  -- by the depth of the look, as types may lie in one another in circles
  induction depth generalizing t with
  | zero => simp [TypeArena.sizedWithin] at ht
  | succ depth ih =>
    rw [TypeArena.sizedWithin] at ht
    split at ht
    · rename_i hd
      rw [TypeArena.sizedWithin, h.data? hd trivial]
    · rename_i hd
      rw [TypeArena.sizedWithin, h.data? hd trivial]
    · rename_i hd
      rw [TypeArena.sizedWithin, h.data? hd trivial]
    · rename_i hd
      rw [TypeArena.sizedWithin, h.data? hd trivial]
      exact ih ht
    · rename_i hd
      rw [TypeArena.sizedWithin, h.data? hd trivial]
      exact ih ht
    -- a struct found sized has a body, which it keeps
    · rename_i members packed hd
      obtain ⟨data', hdata', -, hbody⟩ := h.struct hd
      rw [hbody (by simp)] at hdata'
      rw [TypeArena.sizedWithin, hdata']
      exact List.all_eq_true.mpr fun m hm => ih (List.all_eq_true.mp ht m hm)
    · exact absurd ht (by simp)

/-- **A type that can be stored can be stored for good.** -/
theorem Grows.isSized (h : a.Grows b) (ht : a.isSized t = true) : b.isSized t = true :=
  sizedWithin_mono h.size_le (h.sizedWithin ht)

end TypeArena

end ShaderLowering
