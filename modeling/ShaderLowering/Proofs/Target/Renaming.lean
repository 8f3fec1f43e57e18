import ShaderLowering.Proofs.Target.Sized
import ShaderLowering.Target.CodeUnit

/-!
# Arenas that are alike up to handles

Asked for the same types in the same order, an empty arena and one that holds types
already give out different handles: the second may have some of the wanted types, and
gives a new type another place in any case. But there is a renaming of handles that leads
from the types of the first to types of the second that are made alike
(`ShaderLowering.TypeArena.Renamed`). It grows as types are made. A type that the first
arena has to make may be there in the second, and then it is the uniqueness of structural
types that keeps two types of the first from being renamed to one.

Nothing that is asked *about* a type tells the two arenas apart: whether it can be stored,
or what its text is. All that this takes is that the types of the first are found in the
second (`ShaderLowering.TypeArena.Carried`). The text needs that types are made of earlier
ones (`ShaderLowering.TypeArena.Founded`), since it is looked for no deeper than the handle
is large.
-/

namespace ShaderLowering

/-! ### Renaming data -/

namespace TypeData

variable {ρ ρ' : Ty → Ty} {d d' : TypeData}

/-- The data with its types renamed. -/
def rename (ρ : Ty → Ty) : TypeData → TypeData
  | .void => .void
  | .int bits => .int bits
  | .float bits => .float bits
  | .vector element count => .vector (ρ element) count
  | .array element count => .array (ρ element) count
  | .pointer pointee addressSpace => .pointer (ρ pointee) addressSpace
  | .function result params variadic => .function (ρ result) (params.map ρ) variadic
  | .struct data => .struct { data with body := data.body.map (List.map ρ) }

theorem isStructural_rename : (d.rename ρ).IsStructural ↔ d.IsStructural := by
  cases d <;> exact Iff.rfl

@[simp] theorem parts_rename (ρ : Ty → Ty) (d : TypeData) :
    (d.rename ρ).parts = d.parts.map ρ := by
  cases d with
  | struct data => cases hb : data.body <;> simp [rename, parts, hb]
  | _ => rfl

@[simp] theorem rename_id (d : TypeData) : d.rename (fun t => t) = d := by
  cases d <;> simp [rename]

/-- Renaming looks at the parts of data only. -/
theorem rename_congr (h : ∀ t ∈ d.parts, ρ t = ρ' t) : d.rename ρ = d.rename ρ' := by
  cases d with
  | void | int | float => rfl
  | vector element count | array element count | pointer element count =>
    rw [rename, rename, h element List.mem_cons_self]
  | function result params variadic =>
    rw [rename, rename, h result List.mem_cons_self,
      List.map_congr_left fun t ht => h t (List.mem_cons_of_mem _ ht)]
  | struct data =>
    rw [rename, rename]
    cases hb : data.body with
    | none => rfl
    | some members =>
      have hmembers : ∀ t ∈ members, ρ t = ρ' t := fun t ht => h t (by simp [parts, hb, ht])
      rw [Option.map_some, Option.map_some, List.map_congr_left hmembers]

theorem eq_of_map_eq {ts ts' : List Ty}
    (hinj : ∀ t ∈ ts, ∀ t' ∈ ts', ρ t = ρ t' → t = t') (h : ts.map ρ = ts'.map ρ) :
    ts = ts' := by
  induction ts generalizing ts' with
  | nil => exact (List.map_eq_nil_iff.mp h.symm).symm
  | cons t ts ih =>
    cases ts' with
    | nil => exact nomatch h
    | cons t' ts' =>
      obtain ⟨hhead, htail⟩ := List.cons.inj h
      rw [hinj t List.mem_cons_self t' List.mem_cons_self hhead,
        ih (fun s hs s' hs' => hinj s (List.mem_cons_of_mem _ hs) s' (List.mem_cons_of_mem _ hs'))
          htail]

/-- A renaming that tells the parts of two data apart tells the data apart. -/
theorem eq_of_rename_eq (hd : d.IsStructural)
    (hinj : ∀ t ∈ d.parts, ∀ t' ∈ d'.parts, ρ t = ρ t' → t = t')
    (h : d.rename ρ = d'.rename ρ) : d = d' := by
  have hparts := eq_of_map_eq hinj (by rw [← parts_rename, ← parts_rename, h])
  cases d with
  | struct data => exact hd.elim
  | _ => cases d' <;> simp_all [rename, parts]

end TypeData

/-- The types that an action names. -/
def TypeAction.handles : TypeAction → List Ty
  | .void | .int _ | .bool | .float _ | .struct _ => []
  | .vector element _ | .array element _ => [element]
  | .pointer pointee _ => [pointee]
  | .function result params _ => result :: params
  | .setBody type members _ => type :: members

namespace TypeArena

variable {old a a' b b' : TypeArena} {ρ ρ' : Ty → Ty} {t u : Ty} {d : TypeData}

/-- The handle is that of a type of the arena. -/
def Has (a : TypeArena) (t : Ty) : Prop :=
  t.index < a.size

theorem has_of_data? (h : a.data? t = some d) : a.Has t :=
  lt_size_of_data? h

theorem Has.exists_data? (h : a.Has t) : ∃ d, a.data? t = some d := by
  cases hd : a.data? t with
  | none => exact absurd (data?_eq_none_iff.mp hd) (Nat.not_le_of_lt h)
  | some d => exact ⟨d, rfl⟩

/-! ### Types made of earlier ones -/

/-- **Types are made of types of the arena**, and structural ones of earlier types. -/
structure Founded (a : TypeArena) : Prop where
  there : ∀ t d, a.data? t = some d → ∀ part ∈ d.parts, a.Has part
  below : ∀ t d, a.data? t = some d → d.IsStructural → ∀ part ∈ d.parts, part.index < t.index

theorem founded_empty : ({} : TypeArena).Founded where
  there t d h := by simp [data?] at h
  below t d h := by simp [data?] at h

theorem size_push (a : TypeArena) (d : TypeData) : (a.push d).2.size = a.size + 1 :=
  Array.size_push _

theorem size_setBody {members : List Ty} {packed : Bool}
    (h : a.setBody t members packed = .ok b) : b.size = a.size := by
  unfold setBody at h
  split at h
  · cases h
    exact Array.size_setIfInBounds
  · exact absurd h (by simp)
  · exact absurd h (by simp)

theorem Founded.push (h : a.Founded) (hparts : ∀ part ∈ d.parts, a.Has part) :
    (a.push d).2.Founded := by
  refine ⟨fun t e ht part hpart => ?_, fun t e ht he part hpart => ?_⟩
  · rw [Has, size_push]
    rw [data?_push] at ht
    split at ht
    · cases ht
      exact Nat.lt_succ_of_lt (hparts part hpart)
    · exact Nat.lt_succ_of_lt (h.there t e ht part hpart)
  · rw [data?_push] at ht
    split at ht
    · rename_i hindex
      cases ht
      rw [hindex]
      exact hparts part hpart
    · exact h.below t e ht he part hpart

theorem Founded.intern (h : a.Founded) (hparts : ∀ part ∈ d.parts, a.Has part) :
    (a.intern d).2.Founded := by
  rcases a.intern_cases d with ⟨-, heq⟩ | ⟨-, heq⟩
  · rwa [heq]
  · rw [heq]
    exact h.push hparts

theorem Founded.setBody {members : List Ty} {packed : Bool} (h : a.Founded)
    (hmembers : ∀ member ∈ members, a.Has member) (hb : a.setBody t members packed = .ok b) :
    b.Founded := by
  obtain ⟨name, packed₀, -, hdata⟩ := data?_setBody hb
  refine ⟨fun s e hs part hpart => ?_, fun s e hs he part hpart => ?_⟩
  · rw [Has, size_setBody hb]
    rw [hdata] at hs
    split at hs
    · cases hs
      exact hmembers part hpart
    · exact h.there s e hs part hpart
  · rw [hdata] at hs
    split at hs
    · cases hs
      exact he.elim
    · exact h.below s e hs he part hpart

/-- **Whatever is asked of an arena about its types, types are made of earlier ones.** -/
theorem Founded.perform (h : a.Founded) {action : TypeAction}
    (hhandles : ∀ t ∈ action.handles, a.Has t) : (a.perform action).Founded := by
  cases action with
  | void => exact h.intern (List.forall_mem_nil _)
  | bool => exact h.intern (List.forall_mem_nil _)
  | int bits =>
    rw [perform_int, TypeArena.int]
    split
    · exact h.intern (List.forall_mem_nil _)
    · exact h
  | float bits =>
    rw [perform_float, TypeArena.float]
    split
    · exact h.intern (List.forall_mem_nil _)
    · exact h
  | vector element count =>
    rw [perform_vector, TypeArena.vector]
    split
    · exact h
    · exact h.intern hhandles
  | array element count => exact h.intern hhandles
  | pointer pointee addressSpace => exact h.intern hhandles
  | function result params variadic => exact h.intern hhandles
  | struct name => exact h.push (List.forall_mem_nil _)
  | setBody type members packed =>
    rw [perform_setBody]
    cases hb : a.setBody type members packed with
    | ok b => exact h.setBody (List.forall_mem_cons.mp hhandles).2 hb
    | error fault => exact h

/-! ### Named structs in order -/

theorem handles_push (a : TypeArena) (d : TypeData) :
    (a.push d).2.handles = a.handles ++ [⟨a.size⟩] := by
  rw [handles, size_push, List.range_succ, List.map_append]
  rfl

theorem isSome_struct?_push (a : TypeArena) (d : TypeData) :
    ∀ t ∈ a.handles, ((a.push d).2.struct? t).isSome = (a.struct? t).isSome := by
  intro t ht
  obtain ⟨index, hindex, rfl⟩ := List.mem_map.mp ht
  rw [struct?, data?_push, if_neg (Nat.ne_of_lt (List.mem_range.mp hindex)), struct?]

theorem structs_push_of_isStructural (a : TypeArena) (hd : d.IsStructural) :
    (a.push d).2.structs = a.structs := by
  have hself : ((a.push d).2.struct? ⟨a.size⟩).isSome = false := by
    rw [struct?, data?_push, if_pos rfl]
    cases d with
    | struct data => exact hd.elim
    | _ => rfl
  rw [structs, handles_push, List.filter_append, List.filter_congr (a.isSome_struct?_push d),
    structs]
  simp only [List.filter_cons, hself, List.filter_nil, List.append_nil, Bool.false_eq_true,
    if_false]

theorem structs_push_struct (a : TypeArena) (data : StructData) :
    (a.push (.struct data)).2.structs = a.structs ++ [⟨a.size⟩] := by
  have hself : ((a.push (.struct data)).2.struct? ⟨a.size⟩).isSome = true := by
    rw [struct?, data?_push, if_pos rfl]
    rfl
  rw [structs, handles_push, List.filter_append,
    List.filter_congr (a.isSome_struct?_push (.struct data)), structs]
  simp only [List.filter_cons, hself, List.filter_nil, if_true]

theorem structs_setBody {members : List Ty} {packed : Bool}
    (h : a.setBody t members packed = .ok b) : b.structs = a.structs := by
  obtain ⟨name, packed₀, ht, hdata⟩ := data?_setBody h
  rw [structs, structs, handles, handles, size_setBody h]
  refine List.filter_congr fun s _ => ?_
  rw [struct?, struct?, hdata]
  by_cases hst : s = t
  · rw [if_pos hst, hst, ht]
    rfl
  · rw [if_neg hst]

/-! ### What is asked about a type -/

/-- **The types of one arena are types of another under new handles.** -/
structure Carried (ρ : Ty → Ty) (a b : TypeArena) : Prop where
  founded : a.Founded
  founded' : b.Founded
  data : ∀ t d, a.data? t = some d → b.data? (ρ t) = some (d.rename ρ)

/-- The members of a struct are types of the arena. -/
theorem Founded.has_of_body? (h : a.Founded) {body : List Ty} (hb : a.body? t = some body) :
    ∀ member ∈ body, a.Has member := by
  obtain ⟨data, hdata, hbody⟩ := body?_eq_some_iff.mp hb
  intro member hmember
  refine h.there t _ hdata member ?_
  rw [TypeData.parts, hbody]
  exact hmember

/-- The text of a type is found no deeper than its handle is large. -/
theorem Founded.textWithin_eq (h : a.Founded) {depth depth' : Nat} (hlt : t.index < depth)
    (hlt' : t.index < depth') : a.textWithin depth t = a.textWithin depth' t := by
  induction depth generalizing t depth' with
  | zero => exact absurd hlt (Nat.not_lt_zero _)
  | succ depth ih =>
    obtain ⟨depth', rfl⟩ := Nat.exists_eq_succ_of_ne_zero (Nat.ne_zero_of_lt hlt')
    have hpart (part : Ty) (hpart : part.index < t.index) :
        a.textWithin depth part = a.textWithin depth' part :=
      ih (by omega) (by omega)
    rw [TypeArena.textWithin, TypeArena.textWithin]
    cases hd : a.data? t with
    | none => rfl
    | some d =>
      cases d with
      | vector element count | array element count | pointer element count =>
        have hbelow := h.below t _ hd trivial element List.mem_cons_self
        dsimp only
        rw [hpart element hbelow]
      | function result params variadic =>
        have hbelow := h.below t _ hd trivial
        have htexts : params.map (a.textWithin depth) = params.map (a.textWithin depth') :=
          List.map_congr_left fun param hparam =>
            hpart param (hbelow param (List.mem_cons_of_mem _ hparam))
        dsimp only
        rw [hpart result (hbelow result List.mem_cons_self), htexts]
      | _ => rfl

namespace Carried

theorem sizedWithin (h : Carried ρ a b) (ht : a.Has t) (depth : Nat) :
    b.sizedWithin depth (ρ t) = a.sizedWithin depth t := by
  induction depth generalizing t with
  | zero => rfl
  | succ depth ih =>
    obtain ⟨d, hd⟩ := ht.exists_data?
    have hd' := h.data t d hd
    have hparts := h.founded.there t d hd
    rw [TypeArena.sizedWithin, TypeArena.sizedWithin, hd, hd']
    cases d with
    | vector element count | array element count => exact ih (hparts element List.mem_cons_self)
    | struct data =>
      obtain ⟨name, body, packed⟩ := data
      cases body with
      | none => rfl
      | some members =>
        dsimp only [TypeData.rename, Option.map_some]
        rw [Bool.eq_iff_iff, List.all_map, List.all_eq_true, List.all_eq_true]
        refine forall₂_congr fun member hmember => ?_
        rw [Function.comp_apply, ih (hparts member hmember)]
    | _ => rfl

/-- **What can be stored under one handle can be stored under the other.** -/
theorem isSized (h : Carried ρ a b) (ht : a.Has t) : b.isSized (ρ t) = a.isSized t := by
  rw [Bool.eq_iff_iff, isSized_iff, isSized_iff]
  exact exists_congr fun depth => by rw [h.sizedWithin ht depth]

theorem textWithin (h : Carried ρ a b) (ht : a.Has t) (depth : Nat) :
    b.textWithin depth (ρ t) = a.textWithin depth t := by
  induction depth generalizing t with
  | zero => rfl
  | succ depth ih =>
    obtain ⟨d, hd⟩ := ht.exists_data?
    have hd' := h.data t d hd
    have hparts := h.founded.there t d hd
    rw [TypeArena.textWithin, TypeArena.textWithin, hd, hd']
    cases d with
    | vector element count | array element count | pointer element count =>
      dsimp only [TypeData.rename]
      rw [ih (hparts element List.mem_cons_self)]
    | function result params variadic =>
      dsimp only [TypeData.rename]
      have htexts : (params.map ρ).map (b.textWithin depth) = params.map (a.textWithin depth) := by
        rw [List.map_map]
        exact List.map_congr_left fun param hparam =>
          ih (hparts param (List.mem_cons_of_mem _ hparam))
      rw [ih (hparts result List.mem_cons_self), htexts]
    | _ => rfl

/-- **A type has one text under both handles.** -/
theorem text (h : Carried ρ a b) (ht : a.Has t) : b.text (ρ t) = a.text t := by
  have hdeep := h.textWithin ht (max (t.index + 1) ((ρ t).index + 1))
  rw [TypeArena.text, TypeArena.text]
  rw [h.founded'.textWithin_eq (Nat.lt_succ_self (ρ t).index) (Nat.lt_of_lt_of_le
    (Nat.lt_succ_self _) (Nat.le_max_right (t.index + 1) _)), hdeep]
  exact h.founded.textWithin_eq (Nat.lt_of_lt_of_le (Nat.lt_succ_self _) (Nat.le_max_left _ _))
    (Nat.lt_succ_self _)

theorem struct? (h : Carried ρ a b) (ht : a.Has t) :
    b.struct? (ρ t) =
      (a.struct? t).map fun data => { data with body := data.body.map (List.map ρ) } := by
  obtain ⟨d, hd⟩ := ht.exists_data?
  rw [TypeArena.struct?, TypeArena.struct?, hd, h.data t d hd]
  cases d <;> rfl

theorem body? (h : Carried ρ a b) (ht : a.Has t) :
    b.body? (ρ t) = (a.body? t).map (List.map ρ) := by
  rw [TypeArena.body?, TypeArena.body?, h.struct? ht]
  cases a.struct? t <;> rfl

/-- **A struct has one definition under both handles.** -/
theorem definitionText (h : Carried ρ a b) (ht : a.Has t) :
    b.definitionText (ρ t) = a.definitionText t := by
  rw [TypeArena.definitionText, TypeArena.definitionText, h.struct? ht]
  cases hdata : a.struct? t with
  | none => exact h.text ht
  | some data =>
    obtain ⟨name, body, packed⟩ := data
    rcases body with _ | _ | ⟨member, members⟩
    · rfl
    · rfl
    · have hbody : a.body? t = some (member :: members) := by
        rw [TypeArena.body?, hdata]
        rfl
      have hhas := h.founded.has_of_body? hbody
      have htexts : ((member :: members).map ρ).map b.text = (member :: members).map a.text := by
        rw [List.map_map]
        exact List.map_congr_left fun s hs => h.text (hhas s hs)
      simp only [Option.map_some, List.map_cons] at htexts ⊢
      rw [htexts]

end Carried

/-! ### Renamed arenas -/

/-- **The types of one arena are types of another under new handles**, and the structs of
the other are the old ones and then those. -/
structure Renamed (old : TypeArena) (ρ : Ty → Ty) (a b : TypeArena) : Prop where
  founded : a.Founded
  uniqued : a.Uniqued
  founded' : b.Founded
  uniqued' : b.Uniqued
  injective : ∀ t u, a.Has t → a.Has u → ρ t = ρ u → t = u
  data : ∀ t d, a.data? t = some d → b.data? (ρ t) = some (d.rename ρ)
  structs : b.structs = old.structs ++ a.structs.map ρ

/-- A renaming goes on renaming the types of an arena to what it did while the arena
grows. -/
structure Extends (a : TypeArena) (ρ : Ty → Ty) (a' : TypeArena) (ρ' : Ty → Ty) : Prop where
  grows : a.Grows a'
  eq : ∀ t, a.Has t → ρ' t = ρ t

theorem Extends.refl (a : TypeArena) (ρ : Ty → Ty) : Extends a ρ a ρ :=
  ⟨.refl a, fun _ _ => rfl⟩

theorem Extends.has (h : Extends a ρ a' ρ') (ht : a.Has t) : a'.Has t :=
  Nat.lt_of_lt_of_le ht h.grows.size_le

theorem Extends.trans {a'' : TypeArena} {ρ'' : Ty → Ty} (h : Extends a ρ a' ρ')
    (h' : Extends a' ρ' a'' ρ'') : Extends a ρ a'' ρ'' :=
  ⟨h.grows.trans h'.grows, fun t ht => (h'.eq t (h.has ht)).trans (h.eq t ht)⟩

/-- Lists of types are renamed to what they were. -/
theorem Extends.map_eq (h : Extends a ρ a' ρ') {ts : List Ty} (hts : ∀ t ∈ ts, a.Has t) :
    ts.map ρ' = ts.map ρ :=
  List.map_congr_left fun t ht => h.eq t (hts t ht)

theorem renamed_empty (hfounded : old.Founded) (huniqued : old.Uniqued) (ρ : Ty → Ty) :
    Renamed old ρ {} old where
  founded := founded_empty
  uniqued := uniqued_empty
  founded' := hfounded
  uniqued' := huniqued
  injective t u ht := absurd ht (Nat.not_lt_zero _)
  data t d h := by simp [data?] at h
  structs := (List.append_nil _).symm

namespace Renamed

theorem carried (h : Renamed old ρ a b) : Carried ρ a b :=
  ⟨h.founded, h.founded', h.data⟩

theorem has (h : Renamed old ρ a b) (ht : a.Has t) : b.Has (ρ t) := by
  obtain ⟨d, hd⟩ := ht.exists_data?
  exact has_of_data? (h.data t d hd)

/-- A type is added to one arena, and is a type of the other that was none of the
renamed. -/
theorem added (h : Renamed old ρ a b) (hparts : ∀ part ∈ d.parts, a.Has part)
    (huniqued : (a.push d).2.Uniqued) (hfounded' : b'.Founded) (huniqued' : b'.Uniqued)
    (hnew : ∀ t, a.Has t → ρ t ≠ u) (hu : b'.data? u = some (d.rename ρ))
    (hdata : ∀ t e, b.data? t = some e → b'.data? t = some e)
    (hstructs : ∀ ρ', (∀ t, a.Has t → ρ' t = ρ t) → ρ' ⟨a.size⟩ = u →
      b'.structs = old.structs ++ (a.push d).2.structs.map ρ') :
    ∃ ρ', Renamed old ρ' (a.push d).2 b' ∧ Extends a ρ (a.push d).2 ρ' ∧
      ρ' (a.push d).1 = u := by
  obtain ⟨ρ', hρ'⟩ : ∃ ρ' : Ty → Ty, ρ' = fun t => if t.index = a.size then u else ρ t :=
    ⟨_, rfl⟩
  have hself : ρ' ⟨a.size⟩ = u := by
    rw [hρ']
    exact if_pos rfl
  have hold (t : Ty) (ht : a.Has t) : ρ' t = ρ t := by
    rw [hρ']
    exact if_neg (Nat.ne_of_lt ht)
  have hcases (t : Ty) (ht : (a.push d).2.Has t) : a.Has t ∨ t = ⟨a.size⟩ := by
    rw [Has, size_push] at ht
    rcases Nat.lt_or_eq_of_le (Nat.le_of_lt_succ ht) with hlt | heq
    · exact Or.inl hlt
    · exact Or.inr (by cases t; cases heq; rfl)
  refine ⟨ρ', ⟨h.founded.push hparts, huniqued, hfounded', huniqued', fun s t hs ht heq => ?_,
    fun t e ht => ?_, hstructs ρ' hold hself⟩, ⟨?_, hold⟩, hself⟩
  · rcases hcases s hs with hs | rfl <;> rcases hcases t ht with ht | rfl
    · rw [hold s hs, hold t ht] at heq
      exact h.injective s t hs ht heq
    · rw [hold s hs, hself] at heq
      exact absurd heq (hnew s hs)
    · rw [hold t ht, hself] at heq
      exact absurd heq.symm (hnew t ht)
    · rfl
  · rw [data?_push] at ht
    split at ht
    · rename_i hindex
      cases ht
      rw [show t = ⟨a.size⟩ by cases t; cases hindex; rfl, hself, hu,
        TypeData.rename_congr fun part hpart => hold part (hparts part hpart)]
    · rw [hold t (has_of_data? ht), TypeData.rename_congr fun part hpart =>
        hold part (h.founded.there t e ht part hpart)]
      exact hdata _ _ (h.data t e ht)
  · exact a.grows_push d

/-- **The same structural type is made in both arenas.** -/
theorem intern (h : Renamed old ρ a b) (hd : d.IsStructural)
    (hparts : ∀ part ∈ d.parts, a.Has part) :
    ∃ ρ', Renamed old ρ' (a.intern d).2 (b.intern (d.rename ρ)).2 ∧
      Extends a ρ (a.intern d).2 ρ' ∧ (a.intern d).2.Has (a.intern d).1 ∧
      (b.intern (d.rename ρ)).1 = ρ' (a.intern d).1 := by
  have hd' : (d.rename ρ).IsStructural := TypeData.isStructural_rename.mpr hd
  have hparts' : ∀ part ∈ (d.rename ρ).parts, b.Has part := by
    intro part hpart
    rw [TypeData.parts_rename] at hpart
    obtain ⟨t, ht, rfl⟩ := List.mem_map.mp hpart
    exact h.has (hparts t ht)
  rcases a.intern_cases d with ⟨hdata, heq⟩ | ⟨hnew, heq⟩
  · -- the first arena has the type, so the second has it
    have hintern := h.uniqued'.intern_eq hd' (h.data _ _ hdata)
    rw [hintern, heq]
    exact ⟨ρ, h, .refl a ρ, has_of_data? hdata, rfl⟩
  · have hdata' := b.data?_intern (d.rename ρ)
    -- no type of the first arena is renamed to what is made
    have hother : ∀ t, a.Has t → ρ t ≠ (b.intern (d.rename ρ)).1 := by
      intro t ht heq'
      obtain ⟨e, he⟩ := ht.exists_data?
      have hsame : e.rename ρ = d.rename ρ := by
        have hkept : (b.intern (d.rename ρ)).2.data? (ρ t) = some (e.rename ρ) :=
          data?_intern_of_data? (h.data t e he)
        rw [heq', hdata', Option.some.injEq] at hkept
        exact hkept.symm
      refine hnew t (he.trans (congrArg some (Eq.symm ?_)))
      refine TypeData.eq_of_rename_eq hd (fun s hs s' hs' => ?_) hsame.symm
      exact h.injective s s' (hparts s hs) (h.founded.there t e he s' hs')
    have hstructs' : (b.intern (d.rename ρ)).2.structs = b.structs := by
      rcases b.intern_cases (d.rename ρ) with ⟨-, heq'⟩ | ⟨-, heq'⟩
      · rw [heq']
      · rw [heq', structs_push_of_isStructural b hd']
    rw [heq]
    obtain ⟨ρ', hrenamed, hextends, hself⟩ := h.added hparts (h.uniqued.push fun _ => hnew)
      (h.founded'.intern hparts') (h.uniqued'.intern _) hother hdata'
      (fun t e ht => data?_intern_of_data? ht) (fun ρ' hold _ => by
        rw [hstructs', h.structs, structs_push_of_isStructural a hd]
        congr 1
        refine List.map_congr_left fun t ht => (hold t ?_).symm
        obtain ⟨index, hindex, rfl⟩ := List.mem_map.mp (List.mem_of_mem_filter ht)
        exact List.mem_range.mp hindex)
    refine ⟨ρ', hrenamed, hextends, ?_, hself.symm⟩
    rw [Has, size_push]
    exact Nat.lt_succ_self _

/-- **A struct is added to both arenas.** -/
theorem struct (h : Renamed old ρ a b) (name : String) :
    ∃ ρ', Renamed old ρ' (a.struct name).2 (b.struct name).2 ∧
      Extends a ρ (a.struct name).2 ρ' ∧ (a.struct name).2.Has (a.struct name).1 ∧
      (b.struct name).1 = ρ' (a.struct name).1 := by
  obtain ⟨ρ', hrenamed, hextends, hself⟩ := h.added (d := .struct { name })
    (List.forall_mem_nil _) (h.uniqued.push False.elim)
    (h.founded'.push (List.forall_mem_nil _)) (h.uniqued'.push False.elim)
    (fun t ht heq => Nat.ne_of_lt (h.has ht) (congrArg Ty.index heq))
    (b.data?_push_self (.struct { name })) (fun t e ht => data?_push_of_data? ht)
    (fun ρ' hold hself => by
      rw [structs_push_struct, structs_push_struct, h.structs, List.map_append,
        List.append_assoc, List.map_singleton, hself]
      congr 2
      refine List.map_congr_left fun t ht => (hold t ?_).symm
      obtain ⟨index, hindex, rfl⟩ := List.mem_map.mp (List.mem_of_mem_filter ht)
      exact List.mem_range.mp hindex)
  refine ⟨ρ', hrenamed, hextends, ?_, hself.symm⟩
  rw [TypeArena.struct, Has, size_push]
  exact Nat.lt_succ_self _

/-- **A struct is given its body in both arenas**, or is refused it in both. -/
theorem setBody (h : Renamed old ρ a b) {data : StructData}
    (ht : a.data? t = some (.struct data)) {members : List Ty}
    (hmembers : ∀ member ∈ members, a.Has member) (packed : Bool) :
    (∃ fault, a.setBody t members packed = .error fault ∧
        b.setBody (ρ t) (members.map ρ) packed = .error fault) ∨
      ∃ a' b', a.setBody t members packed = .ok a' ∧
        b.setBody (ρ t) (members.map ρ) packed = .ok b' ∧ Renamed old ρ a' b' ∧
        Extends a ρ a' ρ := by
  have ht' := h.data t _ ht
  obtain ⟨name, body, packed₀⟩ := data
  cases body with
  | some body =>
    refine Or.inl ⟨.bodyAlreadySet name, ?_, ?_⟩
    · rw [TypeArena.setBody, ht]
    · rw [TypeArena.setBody, ht']
      rfl
  | none =>
    obtain ⟨a', ha'⟩ := exists_setBody ht members packed
    obtain ⟨b', hb'⟩ := exists_setBody ht' (members.map ρ) packed
    obtain ⟨name₁, _, ht₁, hdata⟩ := data?_setBody ha'
    obtain ⟨name₂, _, ht₂, hdata'⟩ := data?_setBody hb'
    obtain rfl : name = name₁ := by
      rw [ht] at ht₁
      cases ht₁
      rfl
    obtain rfl : name = name₂ := by
      rw [ht'] at ht₂
      cases ht₂
      rfl
    refine Or.inr ⟨a', b', ha', hb', ⟨h.founded.setBody hmembers ha', h.uniqued.setBody ha',
      h.founded'.setBody (fun member hmember => ?_) hb', h.uniqued'.setBody hb',
      fun s u hs hu => ?_, fun s e hs => ?_, ?_⟩, ?_, fun _ _ => rfl⟩
    · obtain ⟨s, hs, rfl⟩ := List.mem_map.mp hmember
      exact h.has (hmembers s hs)
    · rw [Has, size_setBody ha'] at hs hu
      exact h.injective s u hs hu
    · rw [hdata] at hs
      rw [hdata']
      split at hs
      · rename_i hst
        cases hs
        rw [if_pos (congrArg ρ hst)]
        rfl
      · rename_i hst
        have hne : ρ s ≠ ρ t := fun heq =>
          hst (h.injective s t (has_of_data? hs) (has_of_data? ht) heq)
        rw [if_neg hne]
        exact h.data s e hs
    · rw [structs_setBody ha', structs_setBody hb', h.structs]
    · exact grows_setBody ha'

end Renamed

end TypeArena

end ShaderLowering
