import Mathlib.Data.Finset.Card
import Mathlib.Data.Finset.Image
import Mathlib.Logic.Relation
import ShaderLowering.Proofs.Target.Interning
import ShaderLowering.Proofs.Target.Sized

/-!
# Which types can be stored

Values of a type can be stored if the type is a number or a pointer, or if the values in them
can be stored and are known (`ShaderLowering.TypeArena.Sized`). That is what
`ShaderLowering.TypeArena.isSized` decides, and it has a reason whenever it says no: something
is found in the values that has no size, or a struct that lies within itself
(`ShaderLowering.TypeArena.Unsizable`).

The obvious search keeps no account of depth. It remembers the structs that it is looking into,
so as to notice when it comes back to one of them, and forgets each of them when it is done with
it, whatever it found (`ShaderLowering.TypeArena.searchWithin`). Structs may refer to one
another in any way, so that it is not obvious that the search comes to an end; and a struct that
is found twice in the same values does not lie within itself, so that it has to be forgotten in
time. Both come out of one induction (`ShaderLowering.TypeArena.Founded.search_induction`): each
step either goes into one more struct, of which there are only so many, or to a type that was
made before.
-/

namespace ShaderLowering

theorem TypeData.mem_parts_of_contained {d : TypeData} {t : Ty} (h : t ∈ d.contained) :
    t ∈ d.parts := by
  cases d with
  | vector | array | struct => exact h
  | void | int | float | pointer | function => exact (List.not_mem_nil h).elim

namespace TypeArena

variable {a : TypeArena} {s t part : Ty} {d : TypeData} {visiting : Finset Ty} {sized : Bool}
  {members : List Ty}

/-! ### What can be stored -/

/-- **Values of the type can be stored.** -/
inductive Sized (a : TypeArena) : Ty → Prop
  | int {t : Ty} {bits : Nat} (h : a.data? t = some (.int bits)) : Sized a t
  | float {t : Ty} {bits : Nat} (h : a.data? t = some (.float bits)) : Sized a t
  | pointer {t pointee : Ty} {addressSpace : Nat}
      (h : a.data? t = some (.pointer pointee addressSpace)) : Sized a t
  | vector {t element : Ty} {count : Nat} (h : a.data? t = some (.vector element count))
      (helement : Sized a element) : Sized a t
  | array {t element : Ty} {count : Nat} (h : a.data? t = some (.array element count))
      (helement : Sized a element) : Sized a t
  | struct {t : Ty} {body : List Ty} (h : a.body? t = some body)
      (hbody : ∀ member ∈ body, Sized a member) : Sized a t

/-- Values of the one type contain values of the other. -/
def Contains (a : TypeArena) (t part : Ty) : Prop :=
  ∃ d, a.data? t = some d ∧ part ∈ d.contained

/-- **No value that contains one of the type can be stored.** -/
inductive Unsizable (a : TypeArena) : Ty → Prop
  | void {t : Ty} (h : a.data? t = some .void) : Unsizable a t
  | function {t result : Ty} {params : List Ty} {variadic : Bool}
      (h : a.data? t = some (.function result params variadic)) : Unsizable a t
  /-- A struct about which it is not known what is in it. -/
  | unknown {t : Ty} (h : a.isOpaque t = true) : Unsizable a t
  /-- A type that lies within itself. -/
  | circular {t : Ty} (h : Relation.TransGen a.Contains t t) : Unsizable a t

/-- What values contain is of types that are there. -/
theorem Founded.has_of_contains (ha : a.Founded) (h : a.Contains t part) : a.Has part := by
  obtain ⟨d, hd, hpart⟩ := h
  exact ha.there t d hd part (TypeData.mem_parts_of_contained hpart)

/-- **Whether a type can be stored** comes down to the kind of the type and to what its values
contain. -/
theorem sized_iff (hd : a.data? t = some d) :
    a.Sized t ↔ d.isStorable = true ∧ ∀ part ∈ d.contained, a.Sized part := by
  have heq {e : TypeData} (h : a.data? t = some e) : d = e := Option.some.inj (hd.symm.trans h)
  constructor
  · intro h
    cases h with
    | int h | float h | pointer h =>
      obtain rfl := heq h
      exact ⟨rfl, List.forall_mem_nil _⟩
    | vector h helement | array h helement =>
      obtain rfl := heq h
      exact ⟨rfl, List.forall_mem_singleton.mpr helement⟩
    | struct h hbody =>
      obtain ⟨data, hdata, hsome⟩ := body?_eq_some_iff.mp h
      obtain rfl := heq hdata
      rw [TypeData.isStorable, TypeData.contained, hsome]
      exact ⟨rfl, hbody⟩
  · rintro ⟨hstorable, hparts⟩
    cases d with
    | void | function => exact absurd hstorable Bool.false_ne_true
    | int => exact .int hd
    | float => exact .float hd
    | pointer => exact .pointer hd
    | vector element => exact .vector hd (hparts element List.mem_cons_self)
    | array element => exact .array hd (hparts element List.mem_cons_self)
    | struct data =>
      obtain ⟨body, hbody⟩ := Option.isSome_iff_exists.mp hstorable
      rw [TypeData.contained, hbody] at hparts
      exact .struct (body?_eq_some_iff.mpr ⟨data, hd, hbody⟩) hparts

/-- **What is found sized can be stored, and nothing else is.** -/
theorem isSized_iff_sized : a.isSized t = true ↔ a.Sized t := by
  constructor
  · rw [isSized_iff]
    rintro ⟨depth, h⟩
    induction depth generalizing t with
    | zero => exact absurd h (by simp [sizedWithin])
    | succ depth ih =>
      obtain ⟨d, hd⟩ := Has.exists_data? (lt_size_of_sizedWithin h)
      rw [sizedWithin_of_data? hd, Bool.and_eq_true, List.all_eq_true] at h
      exact (sized_iff hd).mpr ⟨h.1, fun part hpart => ih (h.2 part hpart)⟩
  · intro h
    induction h with
    | int h | float h | pointer h =>
      exact (isSized_iff_of_data? h).mpr ⟨rfl, List.forall_mem_nil _⟩
    | vector h _ ih | array h _ ih =>
      exact (isSized_iff_of_data? h).mpr ⟨rfl, List.forall_mem_singleton.mpr ih⟩
    | struct h _ ih => exact (isSized_iff_of_body? h).mpr ih

/-! ### Why something cannot be stored -/

theorem Sized.contains (h : a.Sized t) (hpart : a.Contains t part) : a.Sized part := by
  obtain ⟨d, hd, hpart⟩ := hpart
  exact ((sized_iff hd).mp h).2 part hpart

theorem Sized.reaches (h : a.Sized t) (hs : Relation.ReflTransGen a.Contains t s) :
    a.Sized s := by
  induction hs with
  | refl => exact h
  | tail _ hlast ih => exact ih.contains hlast

/-- What can be stored does not lie within itself. -/
theorem Sized.not_transGen (h : a.Sized t) : ¬Relation.TransGen a.Contains t t := by
  have hinner {t : Ty} (hparts : ∀ part, a.Contains t part →
      ¬Relation.TransGen a.Contains part part) : ¬Relation.TransGen a.Contains t t := by
    intro hcon
    obtain ⟨part, hpart, hback⟩ := Relation.TransGen.head'_iff.mp hcon
    exact hparts part hpart (Relation.TransGen.tail' hback hpart)
  have hdata {t part : Ty} {d : TypeData} (hd : a.data? t = some d) (hpart : a.Contains t part) :
      part ∈ d.contained := by
    obtain ⟨d', hd', hmem⟩ := hpart
    obtain rfl := Option.some.inj (hd.symm.trans hd')
    exact hmem
  induction h with
  | int h | float h | pointer h =>
    exact hinner fun part hpart => (List.not_mem_nil (hdata h hpart)).elim
  | vector h _ ih | array h _ ih =>
    exact hinner fun part hpart => List.mem_singleton.mp (hdata h hpart) ▸ ih
  | struct h _ ih =>
    obtain ⟨data, hd, hbody⟩ := body?_eq_some_iff.mp h
    refine hinner fun part hpart => ih part ?_
    have hmem := hdata hd hpart
    rwa [TypeData.contained, hbody] at hmem

theorem Sized.not_unsizable (h : a.Sized t) : ¬a.Unsizable t := by
  intro hcon
  cases hcon with
  | void hd | function hd => exact absurd ((sized_iff hd).mp h).1 Bool.false_ne_true
  | unknown hopaque =>
    rw [isOpaque, struct?] at hopaque
    split at hopaque
    · rename_i data hdata
      split at hdata
      · rename_i hd
        obtain rfl := Option.some.inj hdata
        have hsome := ((sized_iff hd).mp h).1
        rw [TypeData.isStorable, Option.isSome_iff_ne_none] at hsome
        exact hsome (Option.isNone_iff_eq_none.mp hopaque)
      · cases hdata
    · cases hopaque
  | circular hcircle => exact h.not_transGen hcircle

/-! ### Going into types -/

theorem card_le_size (h : ∀ s ∈ visiting, a.Has s) : visiting.card ≤ a.size := by
  have hsubset : visiting ⊆ (Finset.range a.size).image Ty.mk := by
    intro s hs
    exact Finset.mem_image.mpr ⟨s.index, Finset.mem_range.mpr (h s hs), rfl⟩
  calc visiting.card ≤ ((Finset.range a.size).image Ty.mk).card := Finset.card_le_card hsubset
    _ ≤ (Finset.range a.size).card := Finset.card_image_le
    _ = a.size := Finset.card_range a.size

/-- **What holds of a type when it holds of what is gone into next.** From a structural type one
goes to the types it is made of, which were made before. From a struct one goes to what is in it,
and remembers the struct; one that is remembered already is not gone into again. -/
theorem Founded.search_induction (ha : a.Founded) {motive : Finset Ty → Ty → Prop}
    (step : ∀ visiting t d, a.data? t = some d →
      (d.IsStructural → ∀ part ∈ d.contained, motive visiting part) →
      (t ∉ visiting → ∀ part ∈ d.contained, motive (insert t visiting) part) →
      motive visiting t)
    (hvisiting : ∀ s ∈ visiting, a.Has s) (ht : a.Has t) : motive visiting t := by
  -- the structs that are not remembered become fewer, or else the handle gets smaller
  induction hfree : a.size - visiting.card using Nat.strong_induction_on
    generalizing visiting t with
  | _ free ihfree =>
    induction hindex : t.index using Nat.strong_induction_on generalizing t with
    | _ index ihindex =>
      obtain ⟨d, hd⟩ := ht.exists_data?
      have hpart {part : Ty} (hpart : part ∈ d.contained) : a.Has part :=
        ha.has_of_contains ⟨d, hd, hpart⟩
      refine step visiting t d hd (fun hstructural part hmem => ?_) fun hnew part hmem => ?_
      · have hlt := ha.below t d hd hstructural part (TypeData.mem_parts_of_contained hmem)
        exact ihindex part.index (hindex ▸ hlt) (hpart hmem) rfl
      · have hvisiting' : ∀ s ∈ insert t visiting, a.Has s :=
          (Finset.forall_mem_insert _ _ _).mpr ⟨ht, hvisiting⟩
        have hcard := card_le_size hvisiting'
        rw [Finset.card_insert_of_notMem hnew] at hcard
        refine ihfree _ ?_ hvisiting' (hpart hmem) rfl
        rw [Finset.card_insert_of_notMem hnew]
        omega

/-- **What cannot be stored has something in it that cannot.** -/
theorem Founded.exists_unsizable (ha : a.Founded) (ht : a.Has t) (h : ¬a.Sized t) :
    ∃ s, Relation.ReflTransGen a.Contains t s ∧ a.Unsizable s := by
  by_contra hnone
  -- the structs gone into are those on the way from the type, so that none comes up again
  have hempty : ∀ s ∈ (∅ : Finset Ty), a.Has s := by simp
  refine h (ha.search_induction (motive := fun visiting s =>
    Relation.ReflTransGen a.Contains t s →
      (∀ u ∈ visiting, Relation.TransGen a.Contains u s) → a.Sized s)
    (fun visiting s d hd hstructural hstruct hway hvisiting => ?_) hempty ht .refl (by simp))
  have hsizable : ¬a.Unsizable s := fun hcon => hnone ⟨s, hway, hcon⟩
  have hparts (hnot : d.isStorable = true) (hinner : ∀ part ∈ d.contained, a.Sized part) :
      a.Sized s := (sized_iff hd).mpr ⟨hnot, hinner⟩
  have hnext {part : Ty} (hmem : part ∈ d.contained) : a.Contains s part := ⟨d, hd, hmem⟩
  have hinner (hd' : d.IsStructural) : ∀ part ∈ d.contained, a.Sized part := fun part hmem =>
    hstructural hd' part hmem (hway.tail (hnext hmem))
      fun u hu => (hvisiting u hu).tail (hnext hmem)
  cases d with
  | void => exact absurd (.void hd) hsizable
  | function => exact absurd (.function hd) hsizable
  | int | float | vector | array | pointer => exact hparts rfl (hinner trivial)
  | struct data =>
    have hnew : s ∉ visiting := fun hcon => hsizable (.circular (hvisiting s hcon))
    refine hparts ?_ fun part hmem => hstruct hnew part hmem (hway.tail (hnext hmem)) ?_
    · rw [TypeData.isStorable, Option.isSome_iff_ne_none]
      intro hbody
      refine hsizable (.unknown ?_)
      simp [isOpaque, struct?, hd, hbody]
    · exact (Finset.forall_mem_insert _ _ _).mpr
        ⟨.single (hnext hmem), fun u hu => (hvisiting u hu).tail (hnext hmem)⟩

/-! ### The search -/

/-- Looks for types one after another until one is found not to be sized. -/
def searchAll (search : Ty → Finset Ty → Option (Bool × Finset Ty)) :
    List Ty → Finset Ty → Option (Bool × Finset Ty)
  | [], visiting => some (true, visiting)
  | t :: ts, visiting => do
    let (sized, visiting) ← search t visiting
    if sized then searchAll search ts visiting else return (false, visiting)

/-- **The search for something that has no size**, with a record of the structs that are being
looked into. It goes at most `depth` types deep, and comes to nothing if that is not enough or if
it is led to a type that the arena does not have. -/
def searchWithin (a : TypeArena) : Nat → Ty → Finset Ty → Option (Bool × Finset Ty)
  | 0, _, _ => none
  | depth + 1, t, visiting =>
    match a.data? t with
    | none => none
    | some .void | some (.function _ _ _) => some (false, visiting)
    | some (.int _) | some (.float _) | some (.pointer _ _) => some (true, visiting)
    | some (.vector element _) | some (.array element _) => a.searchWithin depth element visiting
    | some (.struct data) =>
      match data.body with
      | none => some (false, visiting)
      | some members =>
        if t ∈ visiting then some (false, visiting)
        else do
          let (sized, visiting) ← searchAll (a.searchWithin depth) members (insert t visiting)
          return (sized, visiting.erase t)

/-- **The search comes to an end** with the given answer, and leaves its record as it was. -/
def Finds (a : TypeArena) (visiting : Finset Ty) (t : Ty) (sized : Bool) : Prop :=
  ∃ depth, ∀ more, a.searchWithin (depth + more) t visiting = some (sized, visiting)

/-- The type can be stored, and no struct is found in it that is being looked into. -/
def Clears (a : TypeArena) (visiting : Finset Ty) (t : Ty) : Prop :=
  a.Sized t ∧ ∀ s ∈ visiting, ¬Relation.ReflTransGen a.Contains t s

/-- The search comes to an end, and with the right answer. -/
def Decides (a : TypeArena) (visiting : Finset Ty) (t : Ty) : Prop :=
  ∃ sized, a.Finds visiting t sized ∧ (sized = true ↔ a.Clears visiting t)

/-- What is seen at once is found at any depth. -/
theorem finds_of_succ
    (h : ∀ depth, a.searchWithin (depth + 1) t visiting = some (sized, visiting)) :
    a.Finds visiting t sized :=
  ⟨1, fun more => Nat.add_comm 1 more ▸ h more⟩

/-- What is found one level deeper takes one level more. -/
theorem Finds.deeper (h : a.Finds visiting part sized) (hstep : ∀ depth,
    a.searchWithin (depth + 1) t visiting = a.searchWithin depth part visiting) :
    a.Finds visiting t sized := by
  obtain ⟨depth, h⟩ := h
  refine ⟨depth + 1, fun more => ?_⟩
  rw [Nat.succ_add, hstep, h]

/-- **The members of a struct are searched to the end**, or up to one that has no size. -/
theorem exists_searchAll (h : ∀ member ∈ members, a.Decides visiting member) :
    ∃ sized, (sized = true ↔ ∀ member ∈ members, a.Clears visiting member) ∧
      ∃ depth, ∀ more, searchAll (a.searchWithin (depth + more)) members visiting =
        some (sized, visiting) := by
  induction members with
  | nil => exact ⟨true, by simp, 0, fun _ => rfl⟩
  | cons member members ih =>
    rw [List.forall_mem_cons] at h
    obtain ⟨⟨sized, ⟨depth, hfinds⟩, hsized⟩, hmembers⟩ := h
    obtain ⟨sized', hsized', depth', hfinds'⟩ := ih hmembers
    refine ⟨sized && sized', ?_, depth + depth', fun more => ?_⟩
    · rw [Bool.and_eq_true, hsized, hsized', List.forall_mem_cons]
    · have hfirst := hfinds (depth' + more)
      have hrest := hfinds' (depth + more)
      rw [← Nat.add_assoc] at hfirst
      rw [Nat.add_left_comm, ← Nat.add_assoc] at hrest
      rw [searchAll, hfirst]
      cases sized with
      | true => exact hrest
      | false => rfl

/-- Values of a type that is not being looked into can be stored without coming back to a struct
that is, if what they contain can be. -/
theorem clears_iff (hd : a.data? t = some d) (hnew : t ∉ visiting) :
    a.Clears visiting t ↔ d.isStorable = true ∧ ∀ part ∈ d.contained, a.Clears visiting part := by
  constructor
  · rintro ⟨hsized, havoids⟩
    refine ⟨((sized_iff hd).mp hsized).1, fun part hpart => ?_⟩
    have hnext : a.Contains t part := ⟨d, hd, hpart⟩
    exact ⟨hsized.contains hnext, fun s hs hway => havoids s hs (hway.head hnext)⟩
  · rintro ⟨hstorable, hparts⟩
    refine ⟨(sized_iff hd).mpr ⟨hstorable, fun part hpart => (hparts part hpart).1⟩,
      fun s hs hway => ?_⟩
    rcases Relation.ReflTransGen.cases_head hway with rfl | ⟨part, ⟨d', hd', hpart⟩, hway⟩
    · exact hnew hs
    · obtain rfl := Option.some.inj (hd.symm.trans hd')
      exact (hparts part hpart).2 s hs hway

/-- The members of a struct may as well be looked for coming back to the struct itself: if all of
them can be stored, none of them does. -/
theorem clears_iff_of_body? {body : List Ty} (hbody : a.body? t = some body)
    (hnew : t ∉ visiting) :
    a.Clears visiting t ↔ ∀ member ∈ body, a.Clears (insert t visiting) member := by
  obtain ⟨data, hd, hdata⟩ := body?_eq_some_iff.mp hbody
  rw [clears_iff hd hnew, TypeData.isStorable, TypeData.contained, hdata]
  refine (and_iff_right rfl).trans ⟨fun h member hmember => ?_, fun h member hmember => ?_⟩
  · refine ⟨(h member hmember).1, (Finset.forall_mem_insert _ _ _).mpr
      ⟨fun hback => ?_, (h member hmember).2⟩⟩
    have hsized : a.Sized t := .struct hbody fun member hmember => (h member hmember).1
    refine hsized.not_transGen (Relation.TransGen.head' ⟨_, hd, ?_⟩ hback)
    rwa [TypeData.contained, hdata]
  · exact ⟨(h member hmember).1, fun s hs =>
      (h member hmember).2 s (Finset.mem_insert_of_mem hs)⟩

/-- **The search comes to an end, and with the right answer**, whatever structs are being looked
into. -/
theorem Founded.decides (ha : a.Founded) (hvisiting : ∀ s ∈ visiting, a.Has s) (ht : a.Has t)
    (hstructs : ∀ s ∈ visiting, (a.struct? s).isSome) : a.Decides visiting t := by
  refine ha.search_induction (motive := fun visiting t =>
    (∀ s ∈ visiting, (a.struct? s).isSome) → a.Decides visiting t)
    (fun visiting t d hd hstructural hstruct hvisiting => ?_) hvisiting ht hstructs
  have hnew (hd' : d.IsStructural) : t ∉ visiting := by
    intro hmem
    have hsome := hvisiting t hmem
    rw [struct?, hd] at hsome
    cases d with
    | struct data => exact hd'
    | _ => exact absurd hsome Bool.false_ne_true
  cases d with
  | void | function =>
    refine ⟨false, finds_of_succ fun depth => by rw [searchWithin, hd], ?_⟩
    rw [clears_iff hd (hnew trivial)]
    simp [TypeData.isStorable]
  | int | float | pointer =>
    refine ⟨true, finds_of_succ fun depth => by rw [searchWithin, hd], ?_⟩
    rw [clears_iff hd (hnew trivial)]
    simp [TypeData.isStorable, TypeData.contained]
  | vector element | array element =>
    obtain ⟨sized, hfinds, hsized⟩ := hstructural trivial element List.mem_cons_self hvisiting
    refine ⟨sized, hfinds.deeper fun depth => by rw [searchWithin, hd], hsized.trans ?_⟩
    rw [clears_iff hd (hnew trivial)]
    simp [TypeData.isStorable, TypeData.contained]
  | struct data =>
    obtain ⟨name, _ | members, packed⟩ := data
    · refine ⟨false, finds_of_succ fun depth => by rw [searchWithin, hd], ?_⟩
      refine iff_of_false Bool.false_ne_true fun hcon => ?_
      exact absurd ((sized_iff hd).mp hcon.1).1 Bool.false_ne_true
    · by_cases hmem : t ∈ visiting
      · refine ⟨false, finds_of_succ fun depth => ?_, ?_⟩
        · rw [searchWithin, hd]
          exact if_pos hmem
        · exact iff_of_false Bool.false_ne_true fun hcon => hcon.2 t hmem .refl
      · have hinsert : ∀ s ∈ insert t visiting, (a.struct? s).isSome :=
          (Finset.forall_mem_insert _ _ _).mpr ⟨by rw [struct?, hd]; rfl, hvisiting⟩
        have hmembers : ∀ member ∈ members, a.Decides (insert t visiting) member :=
          fun member hmember => hstruct hmem member hmember hinsert
        obtain ⟨sized, hsized, depth, hsearch⟩ := exists_searchAll hmembers
        have hbody : a.body? t = some members := body?_eq_some_iff.mpr ⟨_, hd, rfl⟩
        refine ⟨sized, ⟨depth + 1, fun more => ?_⟩,
          hsized.trans (clears_iff_of_body? hbody hmem).symm⟩
        rw [Nat.succ_add, searchWithin, hd]
        dsimp only
        rw [if_neg hmem, hsearch more]
        exact congrArg (fun visiting => some (sized, visiting)) (Finset.erase_insert hmem)

/-- **The search finds what can be stored**, and nothing is left in its record. -/
theorem Founded.finds_isSized (ha : a.Founded) (ht : a.Has t) : a.Finds ∅ t (a.isSized t) := by
  have hempty : ∀ s ∈ (∅ : Finset Ty), a.Has s := by simp
  obtain ⟨sized, hfinds, hsized⟩ := ha.decides hempty ht (by simp)
  have hclears : a.Clears ∅ t ↔ a.isSized t = true := by
    rw [isSized_iff_sized]
    exact and_iff_left (by simp)
  rwa [Bool.eq_iff_iff.mpr (hsized.trans hclears)] at hfinds

/-! ### All of it together -/

/-- **Whether a type can be stored is found out**, whatever was done to an arena in actions that
name types of it: structs may have been given any bodies, so that they lie within themselves or
within one another.

* The search that remembers the structs it is looking into comes to an end, with the same answer
  at every greater depth, and leaves nothing in its record.
* The answer is that the type can be stored if it can.
* The answer is that it cannot exactly if something is in it by value that has no size, or of
  which nothing is known, or which lies within itself. -/
theorem performAll_isSized_iff {actions : List TypeAction} {a : TypeArena} {t : Ty}
    (hactions : ({} : TypeArena).Admits actions) (ha : ({} : TypeArena).performAll actions = a)
    (ht : a.Has t) :
    (∃ depth, ∀ more, a.searchWithin (depth + more) t ∅ = some (a.isSized t, ∅)) ∧
    (a.isSized t = true ↔ a.Sized t) ∧
    (a.isSized t = false ↔ ∃ s, Relation.ReflTransGen a.Contains t s ∧ a.Unsizable s) := by
  have hfounded : a.Founded := ha ▸ founded_empty.performAll hactions
  refine ⟨hfounded.finds_isSized ht, isSized_iff_sized, ?_⟩
  rw [Bool.eq_false_iff, Ne, isSized_iff_sized]
  refine ⟨hfounded.exists_unsizable ht, ?_⟩
  rintro ⟨s, hway, hs⟩ hsized
  exact (hsized.reaches hway).not_unsizable hs

/-- Two structs that lie within each other, and one that holds the same struct twice: the first
cannot be stored, the last can. -/
theorem performAll_isSized_iff_shared :
    let a : TypeArena := ({} : TypeArena).performAll
      [.struct "a", .struct "b", .struct "c", .struct "d", .int 32, .array ⟨1⟩ 2, .array ⟨3⟩ 2,
        .setBody ⟨0⟩ [⟨4⟩, ⟨5⟩] false, .setBody ⟨1⟩ [⟨0⟩] false, .setBody ⟨2⟩ [⟨3⟩, ⟨6⟩] false,
        .setBody ⟨3⟩ [⟨4⟩] false]
    (∃ depth, ∀ more, a.searchWithin (depth + more) ⟨0⟩ ∅ = some (false, ∅)) ∧
      (∃ s, Relation.ReflTransGen a.Contains ⟨0⟩ s ∧ a.Unsizable s) ∧
      (∃ depth, ∀ more, a.searchWithin (depth + more) ⟨2⟩ ∅ = some (true, ∅)) ∧ a.Sized ⟨2⟩ := by
  intro a
  have hadmits : ({} : TypeArena).Admits
      [.struct "a", .struct "b", .struct "c", .struct "d", .int 32, .array ⟨1⟩ 2, .array ⟨3⟩ 2,
        .setBody ⟨0⟩ [⟨4⟩, ⟨5⟩] false, .setBody ⟨1⟩ [⟨0⟩] false, .setBody ⟨2⟩ [⟨3⟩, ⟨6⟩] false,
        .setBody ⟨3⟩ [⟨4⟩] false] := by
    simp only [Admits, Has]
    decide +kernel
  have hcircle : a.isSized ⟨0⟩ = false := by decide +kernel
  have hshared : a.isSized ⟨2⟩ = true := by decide +kernel
  obtain ⟨hsearch, -, hfalse⟩ :=
    performAll_isSized_iff hadmits (a := a) (t := ⟨0⟩) rfl (by rw [Has]; decide +kernel)
  obtain ⟨hsearch', htrue, -⟩ :=
    performAll_isSized_iff hadmits (a := a) (t := ⟨2⟩) rfl (by rw [Has]; decide +kernel)
  rw [hcircle] at hsearch hfalse
  rw [hshared] at hsearch' htrue
  exact ⟨hsearch, hfalse.mp rfl, hsearch', htrue.mp rfl⟩

end TypeArena

end ShaderLowering
