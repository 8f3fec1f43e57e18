import ShaderLowering.Proofs.Lowering.Acceptance
import ShaderLowering.Proofs.Lowering.WalkAside
import ShaderLowering.Proofs.Lowering.WalkRenaming

/-!
# The order of the globals

The variables of a shader that are neither inputs nor outputs become globals one after
another, and the type of each of them is asked for when its turn comes. Two streams that
differ in the order of these variables only are read alike, as long as the pointer types are
bound before the first of the variables
(`ShaderLowering.Declarations.exists_ofInstructions_of_rearranged`): what is declared differs
in the list of the globals, and what is asked for is the same, in another order.

This order may matter. A global whose type goes through a pointer has what is behind the
pointer made without its structs, and an array that was made in this way is taken for
complete when a later global asks for it. So one order is refused, and the other is not
(`ShaderLowering.lower_order_matters`). It does not matter if the declarations leave nothing
incomplete, that is, if no such array is asked for both ways
(`ShaderLowering.lower_rearranged_ok_iff`): then what is accepted is known from the
declarations alone.
-/

namespace ShaderLowering

variable {i j : Instruction} {is js : List Instruction} {inside : Bool}

/-! ### Streams with their globals in another order -/

/-- The instructions outside of functions that declare variables which become globals. -/
def globalVariables (instructions : List Instruction) : List Instruction :=
  (moduleScope instructions).filter Instruction.isGlobalVariable

/-- Two streams differ at most in which variable becomes a global where, reading beginning
inside of a function or not. -/
inductive SamePlaces : Bool → List Instruction → List Instruction → Prop
  /-- Both end. -/
  | nil (inside : Bool) : SamePlaces inside [] []
  /-- The same instruction stands inside of a function. -/
  | inside {i : Instruction} {is js : List Instruction}
      (h : SamePlaces (i.op? != some .functionEnd) is js) : SamePlaces true (i :: is) (i :: js)
  /-- The same instruction stands outside of functions, and adds no global. -/
  | same {i : Instruction} {is js : List Instruction} (hi : ¬i.isGlobalVariable = true)
      (h : SamePlaces (i.op? == some .function) is js) : SamePlaces false (i :: is) (i :: js)
  /-- A variable that becomes a global stands in the place of another, or in its own. -/
  | global {i j : Instruction} {is js : List Instruction} (hi : i.isGlobalVariable = true)
      (hj : j.isGlobalVariable = true) (h : SamePlaces false is js) :
    SamePlaces false (i :: is) (j :: js)

/-- **The streams differ in the order of their globals only.** Where a variable stands in
the other stream is of no account. -/
structure Rearranged (is js : List Instruction) : Prop where
  places : SamePlaces false is js
  perm : ((globalVariables is).map Instruction.operands).Perm
    ((globalVariables js).map Instruction.operands)

/-- The instructions before the first variable that becomes a global, reading beginning
inside of a function or not. -/
def prologueFrom : Bool → List Instruction → List Instruction
  | _, [] => []
  | true, i :: is => i :: prologueFrom (i.op? != some .functionEnd) is
  | false, i :: is =>
    if i.isGlobalVariable then [] else i :: prologueFrom (i.op? == some .function) is

/-- The instructions before the first variable that becomes a global. -/
def prologue (instructions : List Instruction) : List Instruction :=
  prologueFrom false instructions

/-- **The pointers come first**: every variable that becomes a global has a pointer type
that is declared and bound before the first of these variables. -/
def PointersFirst (instructions : List Instruction) : Prop :=
  ∀ d, Declarations.ofInstructions {} (prologue instructions) = .ok d →
    ∀ i ∈ globalVariables instructions, (d.variablePointee? i).isSome

instance (instructions : List Instruction) : Decidable (PointersFirst instructions) :=
  match h : Declarations.ofInstructions {} (prologue instructions) with
  | .error _ => isTrue fun d hd => absurd (h.symm.trans hd) (by simp)
  | .ok d =>
    decidable_of_iff (∀ i ∈ globalVariables instructions, (d.variablePointee? i).isSome)
      ⟨fun hbound d' hd' => Except.ok.inj (h.symm.trans hd') ▸ hbound, fun hp => hp d h⟩

/-- The variables that become globals have different ids. -/
def DistinctGlobals (instructions : List Instruction) : Prop :=
  ((globalVariables instructions).map fun i => i.operands[1]?).Nodup

instance (instructions : List Instruction) : Decidable (DistinctGlobals instructions) :=
  inferInstanceAs (Decidable (List.Nodup _))

/-! ### Rearranged streams -/

theorem SamePlaces.symm (h : SamePlaces inside is js) : SamePlaces inside js is := by
  induction h with
  | nil inside => exact .nil inside
  | inside _ ih => exact .inside ih
  | same hi _ ih => exact .same hi ih
  | global hi hj _ ih => exact .global hj hi ih

theorem Rearranged.symm (h : Rearranged is js) : Rearranged js is :=
  ⟨h.places.symm, h.perm.symm⟩

/-- What comes before the first of the globals is the same. -/
theorem SamePlaces.prologueFrom_eq (h : SamePlaces inside is js) :
    prologueFrom inside js = prologueFrom inside is := by
  induction h with
  | nil inside => rfl
  | inside _ ih => exact congrArg (List.cons _) ih
  | same hi _ ih => rw [prologueFrom, prologueFrom, if_neg hi, if_neg hi, ih]
  | global hi hj _ _ => rw [prologueFrom, prologueFrom, if_pos hi, if_pos hj]

/-- A global of one stream has the operands of a global of the other. -/
theorem Rearranged.exists_global (h : Rearranged is js) (hj : j ∈ globalVariables js) :
    ∃ i ∈ globalVariables is, i.operands = j.operands :=
  List.mem_map.mp (h.perm.mem_iff.mpr (List.mem_map_of_mem hj))

theorem outside_cons_of_isGlobalVariable (hi : i.isGlobalVariable = true) :
    outside false (i :: is) = i :: outside false is := by
  rw [outside, Instruction.op?_of_isGlobalVariable hi]
  rfl

namespace Declarations

open Workspace

variable {d d₁ d' : Declarations} {arena : TypeArena} {globals : List ShaderGlobal}

theorem variableType?_congr (h : i.operands = j.operands) :
    d.variableType? i = d.variableType? j := by
  rw [variableType?, variableType?, h]

theorem variablePointee?_congr (h : i.operands = j.operands) :
    d.variablePointee? i = d.variablePointee? j := by
  rw [variablePointee?, variablePointee?, variableType?_congr h]

/-! ### Reading one global -/

/-- No variable outside of functions is stored in one. -/
theorem storage?_ne_of_visit (hopen : d.openFunction = none) (hi : i.op? = some .variableOp)
    (h : d.visit i = .ok d') : i.storage? ≠ some .function := by
  rw [visit, hopen, hi] at h
  replace h : d.addVariable i = .ok d' := h
  obtain ⟨typeId, -, h⟩ := of_bind_eq_ok h
  obtain ⟨pointerType, -, h⟩ := of_bind_eq_ok h
  obtain ⟨id, -, h⟩ := of_bind_eq_ok h
  obtain ⟨word, hword, h⟩ := of_bind_eq_ok h
  obtain ⟨storage, hstorage, h⟩ := of_bind_eq_ok h
  rw [Instruction.storage?_of_decode hword hstorage]
  rintro hcon
  rw [if_pos (Option.some.inj hcon)] at h
  exact absurd h (by simp)

/-- **A variable that becomes a global is read** if it has a pointer type that is bound, and
is not stored in a function. -/
theorem exists_visit_global (hopen : d.openFunction = none) (hi : i.isGlobalVariable = true)
    (htype : (d.variablePointee? i).isSome) (hstorage : i.storage? ≠ some .function) :
    ∃ g, d.visit i = .ok (d.withGlobals (d.globals ++ [g])) := by
  have hop := Instruction.op?_of_isGlobalVariable hi
  rw [Instruction.isGlobalVariable, Bool.and_eq_true] at hi
  obtain ⟨storage, hs, hinterface⟩ := (Option.any_eq_true _ _).mp hi.2
  obtain ⟨word, hword, hs'⟩ := Option.bind_eq_some_iff.mp hs
  obtain ⟨pointee, hpointee⟩ := Option.isSome_iff_exists.mp htype
  obtain ⟨type, htype, hpointee⟩ := Option.bind_eq_some_iff.mp hpointee
  obtain ⟨typeId, htypeId, htype⟩ := Option.bind_eq_some_iff.mp htype
  -- there is an operand before the storage class
  have hlength : 1 < i.operands.length :=
    Nat.lt_of_succ_lt (List.getElem?_eq_some_iff.mp hword).1
  have hid : i.operands[1]? = some i.operands[1] := List.getElem?_eq_getElem hlength
  obtain ⟨declared, hformer⟩ := former?_of_pointee? hpointee
  have hnode : d.typeNode i typeId = .ok type := by rw [typeNode, htype]
  have hne : storage ≠ .function := fun hcon => hstorage (hs.trans (congrArg some hcon))
  have hpassed : ¬storage.isInterface = true := by simpa using hinterface
  rw [visit, hopen, hop]
  dsimp only
  rw [visitOutside, addVariable, Instruction.operand_eq_ok htypeId]
  simp only [bind, Except.bind, hnode, Instruction.operand_eq_ok hid,
    Instruction.operand_eq_ok hword, Enumerant.decode_eq_ok hs']
  rw [if_neg hne, hformer]
  dsimp only
  rw [if_neg hpassed]
  exact ⟨_, rfl⟩

/-! ### Reading the same in other places -/

theorem Walks.storage?_ne (h : Walks arena d is d') : ∀ i ∈ outside d.openFunction.isSome is,
    i.isGlobalVariable = true → i.storage? ≠ some .function := by
  induction h with
  | nil hd => exact fun i hi => (List.not_mem_nil hi).elim
  | @cons d d₁ d' j is hd hvisit hvisits hreads hrest ih =>
    cases hopen : d.openFunction with
    | none =>
      rw [hreads.isSome_of_none hopen] at ih
      rw [Option.isSome_none, outside]
      rintro i hi hglobal
      rcases List.mem_cons.mp hi with rfl | hi
      · exact storage?_ne_of_visit hopen (Instruction.op?_of_isGlobalVariable hglobal) hvisit
      · exact ih i hi hglobal
    | some f =>
      rw [hreads.isSome_of_some hopen] at ih
      rw [Option.isSome_some, outside]
      exact ih

/-- The pointer types of all the globals of the second stream are bound when the first of
the globals of the first stream is reached. -/
def BindsFirst (d : Declarations) (inside : Bool) (is js : List Instruction) : Prop :=
  ∀ d₁, (prologueFrom inside is).foldlM visit d = .ok d₁ →
    ∀ j ∈ outside inside js, j.isGlobalVariable = true → (d₁.variablePointee? j).isSome

/-- What comes before the first of the globals is read. -/
theorem BindsFirst.tail {later : Bool} (h : d.BindsFirst inside (i :: is) (i :: js))
    (hprologue : prologueFrom inside (i :: is) = i :: prologueFrom later is)
    (hsub : outside later js ⊆ outside inside (i :: js)) (hvisit : d.visit i = .ok d₁) :
    d₁.BindsFirst later is js := by
  intro d₂ hwalk j hj
  refine h d₂ ?_ j (hsub hj)
  rw [hprologue, List.foldlM_cons, hvisit]
  exact hwalk

/-- When the first of the globals is reached, the pointer types are bound. -/
theorem BindsFirst.bound (h : d.BindsFirst false (i :: is) js) (hi : i.isGlobalVariable = true) :
    ∀ j ∈ outside false js, j.isGlobalVariable = true → (d.variablePointee? j).isSome := by
  refine h d ?_
  rw [prologueFrom, if_pos hi]
  rfl

/-- Pointer types that are bound stay bound. -/
theorem bindsFirst_of_bound (hd : d₁.Sound arena) (hpersists : d.Persists d₁)
    (hbound : ∀ j ∈ outside inside js, j.isGlobalVariable = true →
      (d.variablePointee? j).isSome) : d₁.BindsFirst inside is js := by
  intro d₂ hwalk j hj hglobal
  obtain ⟨pointee, hpointee⟩ := Option.isSome_iff_exists.mp (hbound j hj hglobal)
  have hpersists' := hpersists.trans (walks_of_foldlM hd hwalk).persists
  exact Option.isSome_of_eq_some (hpersists'.variablePointee? hpointee)

/-- Two variables that become globals are read in the same place. -/
theorem exists_visit_of_isGlobalVariable (hi : i.isGlobalVariable = true)
    (hj : j.isGlobalVariable = true) (hopen : d.openFunction = none)
    (htype : (d.variablePointee? j).isSome) (hstorage : j.storage? ≠ some .function)
    (hvisit : d.visit i = .ok d₁) (globals : List ShaderGlobal) :
    ∃ globals', (d.withGlobals globals).visit j = .ok (d₁.withGlobals globals') := by
  obtain ⟨g, hg⟩ := exists_visit_global (d := d.withGlobals globals) hopen hj htype hstorage
  refine ⟨globals ++ [g], hg.trans ?_⟩
  have hreads := reads hvisit
  cases hreads with
  | globalVariable => rfl
  | interfaceVariable _ _ hinterface =>
    exact absurd hi (Instruction.not_isGlobalVariable hinterface)
  | _ => simp_all [Instruction.op?_of_isGlobalVariable hi]

/-- **A stream with its globals in other places is read** if the stream is, and nothing
else is declared but other globals. -/
theorem exists_walk_of_samePlaces (h : SamePlaces inside is js) (hd : d.Sound arena)
    (hopen : d.openFunction.isSome = inside) (hbinds : d.BindsFirst inside is js)
    (hstorage : ∀ j ∈ outside inside js, j.isGlobalVariable = true →
      j.storage? ≠ some .function)
    (hwalk : is.foldlM visit d = .ok d') (globals : List ShaderGlobal) :
    ∃ globals', js.foldlM visit (d.withGlobals globals) = .ok (d'.withGlobals globals') := by
  induction h generalizing d globals with
  | nil inside =>
    rw [List.foldlM_nil] at hwalk
    rw [← Except.ok.inj hwalk]
    exact ⟨globals, rfl⟩
  | @inside i is js h ih =>
    obtain ⟨d₁, hvisit, hwalk⟩ := of_bind_eq_ok (List.foldlM_cons.symm.trans hwalk)
    obtain ⟨f, hf⟩ := Option.isSome_iff_exists.mp hopen
    have hvisit' : (d.withGlobals globals).visit i = .ok (d₁.withGlobals globals) := by
      rw [visit_withGlobals d globals fun hnone => absurd (hf.symm.trans hnone) (by simp), hvisit]
      rfl
    rw [List.foldlM_cons, hvisit']
    exact ih (hd.visits (visits hd.types hd.closed hvisit)) ((reads hvisit).isSome_of_some hf)
      (hbinds.tail rfl (List.Subset.refl _) hvisit) hstorage hwalk globals
  | @same i is js hi h ih =>
    obtain ⟨d₁, hvisit, hwalk⟩ := of_bind_eq_ok (List.foldlM_cons.symm.trans hwalk)
    have hnone : d.openFunction = none := by simpa using hopen
    have hvisit' : (d.withGlobals globals).visit i = .ok (d₁.withGlobals globals) := by
      rw [visit_withGlobals d globals fun _ => hi, hvisit]
      rfl
    rw [List.foldlM_cons, hvisit']
    exact ih (hd.visits (visits hd.types hd.closed hvisit)) ((reads hvisit).isSome_of_none hnone)
      (hbinds.tail (if_neg hi) (List.subset_cons_self _ _) hvisit)
      (fun j hj => hstorage j (List.mem_cons_of_mem _ hj)) hwalk globals
  | @global i j is js hi hj h ih =>
    obtain ⟨d₁, hvisit, hwalk⟩ := of_bind_eq_ok (List.foldlM_cons.symm.trans hwalk)
    have hnone : d.openFunction = none := by simpa using hopen
    have hvisits := visits hd.types hd.closed hvisit
    have hbound := hbinds.bound hi
    have hopen₁ : d₁.openFunction.isSome = false := by
      rw [(reads hvisit).isSome_of_none hnone, Instruction.op?_of_isGlobalVariable hi]
      rfl
    rw [outside_cons_of_isGlobalVariable hj, List.forall_mem_cons] at hbound hstorage
    obtain ⟨globals₁, hvisit'⟩ := exists_visit_of_isGlobalVariable hi hj hnone
      (hbound.1 hj) (hstorage.1 hj) hvisit globals
    rw [List.foldlM_cons, hvisit']
    exact ih (hd.visits hvisits) hopen₁
      (bindsFirst_of_bound (hd.visits hvisits) hvisits.persists hbound.2) hstorage.2 hwalk globals₁

/-- **The streams are read alike**: what is declared differs in the globals only, and these
have the same pointer types. -/
theorem exists_ofInstructions_of_rearranged (h : Rearranged is js) (hp : PointersFirst is)
    (hd : ofInstructions {} is = .ok d) :
    ∃ globals, ofInstructions {} js = .ok (d.withGlobals globals) ∧
      ∀ g ∈ globals, ∃ g₀ ∈ d.globals, g₀.pointerType = g.pointerType := by
  have hwalks := walks_ofInstructions hd
  have hglobal {j : Instruction} (hj : j ∈ moduleScope js) (hglobal : j.isGlobalVariable = true) :
      ∃ i ∈ globalVariables is, i.operands = j.operands :=
    h.exists_global (List.mem_filter.mpr ⟨hj, hglobal⟩)
  have hbinds : ({ workspace := {} } : Declarations).BindsFirst false is js := by
    intro d₁ hd₁ j hj hjglobal
    obtain ⟨i, hi, hoperands⟩ := hglobal hj hjglobal
    rw [← variablePointee?_congr hoperands]
    exact hp d₁ hd₁ i hi
  have hstorage : ∀ j ∈ outside false js, j.isGlobalVariable = true →
      j.storage? ≠ some .function := by
    intro j hj hjglobal
    obtain ⟨i, hi, hoperands⟩ := hglobal hj hjglobal
    rw [Instruction.storage?, ← hoperands]
    obtain ⟨hi, higlobal⟩ := List.mem_filter.mp hi
    exact hwalks.storage?_ne i hi higlobal
  obtain ⟨globals, hwalk⟩ :=
    exists_walk_of_samePlaces h.places (sound_empty {}) rfl hbinds hstorage hd []
  refine ⟨globals, hwalk, fun g hg => ?_⟩
  obtain ⟨j, hj, hjg⟩ := exists_of_forall₂_right (walks_ofInstructions hwalk).globals hg
  obtain ⟨i, hi, hoperands⟩ := h.exists_global hj
  obtain ⟨g₀, hg₀, hig₀⟩ := exists_of_forall₂_left hwalks.globals hi
  refine ⟨g₀, hg₀, Option.some.inj ?_⟩
  rw [← hig₀.type, ← hjg.type]
  exact variableType?_congr hoperands

/-! ### Other globals of the same types -/

section Globals

variable (hsub : ∀ g ∈ globals, ∃ g₀ ∈ d.globals, g₀.pointerType = g.pointerType)
include hsub

/-- Globals of the same types ask for nothing else. -/
theorem Requires.of_withGlobals {r : Request} (h : (d.withGlobals globals).Requires r) :
    d.Requires r := by
  obtain ⟨n, hn, hway⟩ := h
  refine ⟨n, ?_, hway⟩
  cases hn with
  | interface hf => exact .interface hf
  | function hf => exact .function hf
  | global hg hpointee =>
    obtain ⟨g₀, hg₀, htype⟩ := hsub _ hg
    refine .global hg₀ ?_
    rw [htype]
    exact hpointee

theorem LeavesNothingOut.withGlobals (h : d.LeavesNothingOut) :
    (d.withGlobals globals).LeavesNothingOut := by
  rintro n hn (hknown | ⟨hfalse, hstruct⟩)
  · exact h n (hn.of_withGlobals hsub) (Or.inl hknown)
  · exact h n (hn.of_withGlobals hsub) (Or.inr ⟨hfalse.of_withGlobals hsub, hstruct⟩)

theorem Acceptable.withGlobals (h : d.Acceptable) : (d.withGlobals globals).Acceptable where
  openFunction := h.openFunction
  interface := h.interface
  globals g hg := by
    obtain ⟨g₀, hg₀, htype⟩ := hsub g hg
    obtain ⟨n, hpointee, hstores⟩ := h.globals g₀ hg₀
    rw [htype] at hpointee
    exact ⟨n, hpointee, hstores⟩
  entryPoints := h.entryPoints
  functions f hf := by
    obtain ⟨hmakeable, hpassed, hcount⟩ := h.functions f hf
    exact ⟨hmakeable, hpassed, hcount⟩

end Globals

/-- What a walk from nothing declares can be put together exactly if it is accepted, if it
leaves nothing incomplete. -/
theorem emit_ok_iff_of_ofInstructions (hd : ofInstructions {} is = .ok d)
    (hl : d.LeavesNothingOut) (name : String) : (∃ m, d.emit name = .ok m) ↔ d.Acceptable := by
  have hfounded : d.workspace.arena.Founded := by
    have halike := alike_ofInstructions TypeArena.founded_empty TypeArena.uniqued_empty is
    rw [hd] at halike
    cases halike with
    | ok halike =>
      obtain ⟨ρ, w, hrenamed, -⟩ := halike
      exact hrenamed.arena.founded
  exact emit_ok_iff (sound_ofInstructions hd) TypeArena.uniqued_empty hfounded hl name

end Declarations

/-! ### Lowering -/

/-- The pointers come first in the other stream too. -/
theorem Rearranged.pointersFirst (h : Rearranged is js) (hp : PointersFirst is) :
    PointersFirst js := by
  intro d hd j hj
  obtain ⟨i, hi, hoperands⟩ := h.exists_global hj
  rw [prologue, h.places.prologueFrom_eq] at hd
  rw [← Declarations.variablePointee?_congr hoperands]
  exact hp d hd i hi

/-- A shader is lowered if one with its globals in other places is. -/
theorem exists_lower_of_rearranged {header : Header} {name : String} (h : Rearranged is js)
    (hp : PointersFirst is)
    (hl : ∀ d, Declarations.ofInstructions {} is = .ok d → d.LeavesNothingOut)
    (hlower : ∃ m, lower {} ⟨header, is⟩ name = .ok m) :
    ∃ m, lower {} ⟨header, js⟩ name = .ok m := by
  obtain ⟨d, hd, hemit⟩ := exists_bind_eq_ok.mp hlower
  obtain ⟨globals, hd', hsub⟩ := Declarations.exists_ofInstructions_of_rearranged h hp hd
  have hl' := (hl d hd).withGlobals hsub
  have haccepted := (Declarations.emit_ok_iff_of_ofInstructions hd (hl d hd) name).mp hemit
  have hemit' := Declarations.emit_ok_iff_of_ofInstructions hd' hl' name
  exact exists_bind_eq_ok.mpr ⟨_, hd', hemit'.mpr (haccepted.withGlobals hsub)⟩

/-- **The order of the globals does not matter** if the declarations leave nothing
incomplete: of two shaders that differ in nothing else, either both are lowered or both are
refused. -/
theorem lower_rearranged_ok_iff (header : Header) (name : String) (h : Rearranged is js)
    (hp : PointersFirst is)
    (hl : ∀ d, Declarations.ofInstructions {} is = .ok d → d.LeavesNothingOut) :
    (∃ m, lower {} ⟨header, is⟩ name = .ok m) ↔ ∃ m, lower {} ⟨header, js⟩ name = .ok m := by
  have hp' := h.pointersFirst hp
  refine ⟨exists_lower_of_rearranged h hp hl,
    exists_lower_of_rearranged h.symm hp' fun d hd => ?_⟩
  -- what the second stream declares is what the first does, with other globals
  obtain ⟨globals, hd', -⟩ := Declarations.exists_ofInstructions_of_rearranged h.symm hp' hd
  obtain ⟨globals', hd'', hsub⟩ := Declarations.exists_ofInstructions_of_rearranged h hp hd'
  have heq := Except.ok.inj (hd.symm.trans hd'')
  rw [heq]
  exact (hl _ hd').withGlobals hsub

/-- A global of a float and a global of a struct with a float in it. -/
theorem lower_rearranged_float_struct :
    let types : List Instruction :=
      [⟨22, [1, 32], 5, 8⟩, ⟨30, [2, 1], 8, 11⟩, ⟨32, [3, 6, 1], 11, 15⟩,
        ⟨32, [4, 6, 2], 15, 19⟩]
    let float : Instruction := ⟨59, [3, 5, 6], 19, 23⟩
    let struct : Instruction := ⟨59, [4, 6, 6], 23, 27⟩
    (∃ m, lower {} ⟨⟨1, 0, 0, 10⟩, types ++ [float, struct]⟩ "unit" = .ok m) ↔
      ∃ m, lower {} ⟨⟨1, 0, 0, 10⟩, types ++ [struct, float]⟩ "unit" = .ok m := by
  intro types float struct
  have hrearranged : Rearranged (types ++ [float, struct]) (types ++ [struct, float]) := by
    refine ⟨.same (by decide +kernel) (.same (by decide +kernel) ?_), List.Perm.swap _ _ []⟩
    refine .same (by decide +kernel) (.same (by decide +kernel) ?_)
    exact .global (by decide +kernel) (by decide +kernel)
      (.global (by decide +kernel) (by decide +kernel) (.nil false))
  refine lower_rearranged_ok_iff _ _ hrearranged (by decide +kernel) fun d hd => ?_
  have hread : (Declarations.ofInstructions {} (types ++ [float, struct])).toOption.all fun d =>
      d.interface = none ∧ d.functions = [] ∧
        (d.globals.map fun g => d.workspace.pointee? g.pointerType) = [some ⟨0⟩, some ⟨1⟩] ∧
        d.workspace.shape? ⟨0⟩ = some (.simple ⟨0⟩) ∧
        d.workspace.arena.data? ⟨0⟩ = some (.float 32) ∧
        d.workspace.shape? ⟨1⟩ =
          some (.struct ⟨1⟩ { members := [{ decorations := [], type := ⟨0⟩ }] }) := by
    decide +kernel
  rw [hd] at hread
  obtain ⟨hinterface, hfunctions, hpointees, hfloat, hdata, hstruct⟩ := of_decide_eq_true hread
  -- the float and the struct are asked for complete, and nothing else is asked for
  refine .of_separate (fun r => r = ⟨⟨0⟩, true⟩ ∨ r = ⟨⟨1⟩, true⟩) (fun n hn => ?_) ?_
  · cases hn with
    | interface hf => exact absurd (hinterface.symm.trans hf) (by simp)
    | function hf => exact absurd (hfunctions ▸ hf) (by simp)
    | global hg hn =>
      have hmem := List.mem_map_of_mem (f := fun g => d.workspace.pointee? g.pointerType) hg
      rw [hpointees, hn] at hmem
      simpa using hmem
  refine ⟨?_, ?_⟩
  · rintro r r' (rfl | rfl) hcalls
    · exact absurd ((Workspace.refers_iff_of_shape? hfloat).mp hcalls.refers) List.not_mem_nil
    · cases hcalls with
      | held h =>
        have hm := List.mem_singleton.mp ((Workspace.refers_iff_of_shape? hstruct).mp h.1)
        exact Or.inl (congrArg (Request.mk · true) hm)
      | pointed hpointer =>
        obtain ⟨_, _, _, hs⟩ := hpointer
        exact absurd (hstruct.symm.trans hs) (by simp)
  · rintro n (hn | hn) hknown
    · cases hn
      have hfinal : (TypeData.float 32).IsFinal := TypeData.IsStructural.isFinal trivial
      exact Workspace.settled_of_simple hfloat (.intro hdata hfinal (List.forall_mem_nil _))
    · cases hn
      rcases hknown with ⟨node, t, hnode, hknown⟩ | ⟨hfalse, -⟩
      · rw [Workspace.shape?_eq hnode] at hstruct
        rw [Node.known?, Option.some.inj hstruct] at hknown
        exact absurd hknown (by simp)
      · simp at hfalse

/-- An array of a struct, a pointer to the array, and globals of the two types. The pointer
has the array made without its struct, which is never laid out unless the global of the
array comes first. -/
theorem lower_order_matters :
    ∃ is js : List Instruction, Rearranged is js ∧ PointersFirst is ∧ DistinctGlobals is ∧
      (∃ d, lower {} ⟨⟨1, 0, 0, 10⟩, is⟩ "unit" = .error d) ∧
      ∃ m, lower {} ⟨⟨1, 0, 0, 10⟩, js⟩ "unit" = .ok m := by
  let types : List Instruction :=
    [⟨22, [1, 32], 5, 8⟩, ⟨30, [2, 1], 8, 11⟩, ⟨29, [3, 2], 11, 14⟩, ⟨32, [4, 6, 3], 14, 18⟩,
      ⟨32, [5, 6, 4], 18, 22⟩]
  let pointers : Instruction := ⟨59, [5, 6, 6], 22, 26⟩
  let structs : Instruction := ⟨59, [4, 7, 6], 26, 30⟩
  have hplaces : Rearranged (types ++ [pointers, structs]) (types ++ [structs, pointers]) := by
    have hsame {is js : List Instruction} (h : SamePlaces false is js) :
        SamePlaces false (types ++ is) (types ++ js) := by
      refine .same (by decide +kernel) (.same (by decide +kernel) (.same (by decide +kernel) ?_))
      exact .same (by decide +kernel) (.same (by decide +kernel) h)
    refine ⟨hsame ?_, ?_⟩
    · exact .global (by decide +kernel) (by decide +kernel)
        (.global (by decide +kernel) (by decide +kernel) (.nil false))
    · exact List.Perm.swap _ _ []
  have hfails : (lower {} ⟨⟨1, 0, 0, 10⟩, types ++ [pointers, structs]⟩ "unit").toOption.isNone :=
    by decide +kernel
  have hsucceeds :
      (lower {} ⟨⟨1, 0, 0, 10⟩, types ++ [structs, pointers]⟩ "unit").toOption.isSome := by
    decide +kernel
  refine ⟨_, _, hplaces, by decide +kernel, by decide +kernel, ?_, ?_⟩
  · revert hfails
    rcases lower {} _ "unit" with d | m
    · exact fun _ => ⟨d, rfl⟩
    · exact fun h => absurd h (by simp [Except.toOption])
  · revert hsucceeds
    rcases lower {} _ "unit" with d | m
    · exact fun h => absurd h (by simp [Except.toOption])
    · exact fun _ => ⟨m, rfl⟩

end ShaderLowering
