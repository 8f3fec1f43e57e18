import ShaderLowering.Lowering.Emission
import ShaderLowering.Proofs.Lowering.Declared
import ShaderLowering.Proofs.TypeGraph.Detached

/-!
# What is emitted can be used

What is emitted is checked as it is emitted: the members of the interface struct once it
is laid out, each global and each function as it is added. Types go on being made after
that, and opaque structs go on getting bodies, so that a check says something of the end
only because what can be stored can be stored for good
(`ShaderLowering.TypeArena.Grows.isSized`).

Two of the checks compare lists that are kept apart. The members of the interface struct
are checked against its variables, and there is one of each for the other
(`ShaderLowering.Declarations.InterfaceFits`). The parameters of a function are counted
among the nodes of its type, whose types are the parameters of the type that is emitted,
the arena being an image of the graph (`ShaderLowering.Workspace.Faithful`).
-/

namespace ShaderLowering

/-! ### What can be used -/

/-- **The function can be called**: it has the type of a function that returns nothing or
what can be stored, and takes what can be stored, a named parameter each. -/
def FunctionDecl.Callable (f : FunctionDecl) (a : TypeArena) : Prop :=
  ∃ result params variadic, a.data? f.type = some (.function result params variadic) ∧
    (a.data? result = some .void ∨ a.isSized result = true) ∧
    (∀ param ∈ params, a.isSized param = true) ∧ params.length = f.paramNames.length

/-- **The unit can be used**: its globals can be stored, and its functions called. -/
structure CodeUnit.Usable (u : CodeUnit) (a : TypeArena) : Prop where
  globals : ∀ g ∈ u.globals, a.isSized g.type = true
  functions : ∀ f ∈ u.functions, f.Callable a

/-- **The struct can be stored**: it has a body, and so can be everything in it. -/
def Workspace.Storable (w : Workspace) (n : NodeId) : Prop :=
  ∃ t body, w.structType? n = some t ∧ w.arena.body? t = some body ∧
    ∀ member ∈ body, w.arena.isSized member = true

section Later

variable {a b : TypeArena} {f : FunctionDecl} {u : CodeUnit} {w w' : Workspace} {n : NodeId}

/-- What can be called can be called for good. -/
theorem FunctionDecl.Callable.grows (h : f.Callable a) (hg : a.Grows b) : f.Callable b := by
  obtain ⟨result, params, variadic, hdata, hresult, hparams, hlength⟩ := h
  refine ⟨result, params, variadic, hg.data? hdata trivial, ?_, fun param hparam =>
    hg.isSized (hparams param hparam), hlength⟩
  exact hresult.imp (fun hvoid => hg.data? hvoid trivial) hg.isSized

theorem CodeUnit.Usable.grows (h : u.Usable a) (hg : a.Grows b) : u.Usable b where
  globals g hmem := hg.isSized (h.globals g hmem)
  functions f hmem := (h.functions f hmem).grows hg

theorem Workspace.Storable.grows (h : w.Storable n) (hgraph : w.GraphGrows w')
    (harena : w.arena.Grows w'.arena) : w'.Storable n := by
  obtain ⟨t, body, ht, hbody, hsized⟩ := h
  exact ⟨t, body, hgraph.structType? ht, harena.body? hbody, fun member hmember =>
    harena.isSized (hsized member hmember)⟩

theorem CodeUnit.usable_empty (name : String) (a : TypeArena) :
    ({ name } : CodeUnit).Usable a :=
  ⟨List.forall_mem_nil _, List.forall_mem_nil _⟩

theorem CodeUnit.Usable.addGlobal (h : u.Usable a) {type : Ty} (hsized : a.isSized type = true)
    (name : String) (addressSpace : Nat) (linkage : Linkage) :
    (u.addGlobal name type addressSpace linkage).Usable a := by
  refine ⟨fun g hg => ?_, h.functions⟩
  rcases List.mem_append.mp hg with hold | hnew
  · exact h.globals g hold
  · rw [List.mem_singleton.mp hnew]
    exact hsized

theorem CodeUnit.Usable.addFunction (h : u.Usable a) (name : String) {type : Ty}
    {linkage : Linkage} {paramNames : List String}
    (hcallable : ∀ symbol, (⟨symbol, type, linkage, paramNames⟩ : FunctionDecl).Callable a) :
    (u.addFunction name type linkage paramNames).Usable a := by
  refine ⟨h.globals, fun f hf => ?_⟩
  rcases List.mem_append.mp hf with hold | hnew
  · exact h.functions f hold
  · rw [List.mem_singleton.mp hnew]
    exact hcallable _

end Later

/-! ### The workspaces of an emission -/

namespace Workspace

variable {w w' : Workspace} {allowed : Action → Prop} {n : NodeId} {t : Ty} {complete : Bool}

theorem Becomes.faithful (h : w.Becomes allowed w') (hw : w.Faithful) : w'.Faithful := by
  obtain ⟨actions, rfl, -⟩ := h
  exact hw.run actions

theorem Becomes.idle (h : w.Becomes allowed w') (hw : w.Idle) : w'.Idle := by
  obtain ⟨actions, rfl, -⟩ := h
  exact hw.run actions

theorem Becomes.arenaGrows (h : w.Becomes allowed w') (hw : w.Faithful) :
    w.arena.Grows w'.arena := by
  obtain ⟨actions, rfl, -⟩ := h
  exact (hw.keeps_run actions).1

/-- To ask for types leaves alone what nodes declare. -/
theorem Becomes.skeleton_eq (h : w.Becomes Action.Asking w') : w'.skeleton = w.skeleton := by
  obtain ⟨actions, rfl, hasking⟩ := h
  induction actions generalizing w with
  | nil => rfl
  | cons action actions ih =>
    obtain ⟨haction, hactions⟩ := List.forall_mem_cons.mp hasking
    refine (ih hactions).trans ?_
    rw [perform]
    split
    · cases action with
      | arena a => rfl
      | produce n complete => exact (w.produced n complete).skeleton_eq
      | _ => exact haction.elim
    · rfl

theorem produce_of_require (h : w.require n complete = .ok (t, w')) :
    w.produce n complete = (.ok t, w') := by
  rw [require] at h
  split at h
  · rename_i type produced heq
    obtain ⟨rfl, rfl⟩ := Prod.mk.inj (Except.ok.inj h)
    exact heq
  · exact absurd h (by simp)

/-- To require a type is to produce it. -/
theorem becomes_of_require (hallowed : allowed (.produce n complete))
    (h : w.require n complete = .ok (t, w')) : w.Becomes allowed w' := by
  have hproduced := w.produced n complete
  rw [produce_of_require h] at hproduced
  have hact : w.act (.produce n complete) = w' := congrArg Prod.snd (produce_of_require h)
  refine hact ▸ .act hallowed fun m hm => ?_
  rw [List.mem_singleton.mp hm]
  exact hproduced.isSome_node?

/-- The type that is required is produced. -/
theorem of_require (h : w.require n complete = .ok (t, w')) :
    Produced ⟨n, complete⟩ w (.ok t) w' ∧ w.Becomes Action.Plain w' := by
  have hproduced := w.produced n complete
  rw [produce_of_require h] at hproduced
  exact ⟨hproduced, becomes_of_require trivial h⟩

end Workspace

namespace Emission

open Workspace

variable {d : Declarations} {arena : TypeArena} {w w' : Workspace} {e e' : Emission}

/-! ### The interface struct -/

/-- The check of the interface finds every member of the body that cannot be stored, if
there is a variable for each. -/
theorem isSized_of_checkInterface {t : Ty} {members : List InterfaceVariable} {body : List Ty}
    (h : checkInterface arena t members = .ok ()) (hbody : arena.body? t = some body)
    (hlength : body.length = members.length) : ∀ member ∈ body, arena.isSized member = true := by
  rw [checkInterface, hbody] at h
  dsimp only [Option.getD_some] at h
  split at h
  · exact absurd h (by simp)
  · rename_i hnone
    intro member hmember
    rw [← List.map_fst_zip (Nat.le_of_eq hlength)] at hmember
    obtain ⟨checked, hchecked, rfl⟩ := List.mem_map.mp hmember
    simpa using List.find?_eq_none.mp hnone checked hchecked

/-- The body of a complete struct has as many members as the struct. -/
theorem exists_body_of_fits (hw : w.Faithful) {f : Interface}
    (hfits : Declarations.InterfaceFits w f) (hc : w.IsComplete f.node) :
    ∃ t body, w.structType? f.node = some t ∧ w.arena.body? t = some body ∧
      body.length = f.members.length := by
  obtain ⟨t, layout, hs, hlength⟩ := hfits
  obtain ⟨layout', hlayout', hcomplete⟩ := hc
  obtain ⟨t', hs'⟩ := layout?_eq_some_iff.mp hlayout'
  obtain ⟨rfl, rfl⟩ := Shape.struct.inj (Option.some.inj (hs.symm.trans hs'))
  obtain ⟨data, hdata, hl⟩ := hw.struct f.node t layout hs
  obtain ⟨body, hbody, htypes⟩ := hl.body hcomplete
  refine ⟨t, body, structType?_eq_some_iff.mpr ⟨layout, hs⟩, ?_, ?_⟩
  · exact TypeArena.body?_eq_some_iff.mpr ⟨data, hdata, hbody⟩
  · rw [← htypes.length_eq, List.length_map, hlength]

/-- The interface struct is laid out, all of it can be stored, and so can a pointer to it. -/
theorem of_layOutInterface {pointer : Option Ty} (hd : d.Sound arena) (hu : arena.Uniqued)
    (h : layOutInterface d.workspace d.interface = .ok (pointer, w)) :
    d.workspace.Becomes Action.Plain w ∧
      (∀ t, pointer = some t → w.arena.isSized t = true) ∧
      ∀ f, d.interface = some f → w.Storable f.node := by
  rw [layOutInterface.eq_def] at h
  split at h
  · rename_i hnone
    obtain ⟨rfl, rfl⟩ := Prod.mk.inj (Except.ok.inj h)
    exact ⟨.refl _, nofun, fun f hf => nomatch hnone.symm.trans hf⟩
  · rename_i f hf
    obtain ⟨⟨t, w₁⟩, hrequire, h⟩ := of_bind_eq_ok h
    obtain ⟨_, hcheck, h⟩ := of_bind_eq_ok h
    obtain ⟨rfl, rfl⟩ := Prod.mk.inj (Except.ok.inj h)
    obtain ⟨hproduced, hbecomes⟩ := of_require hrequire
    have hfits := (hd.interface f hf).becomes hbecomes
    have hw₁ := hbecomes.faithful (hd.faithful hu)
    have hc : w₁.IsComplete f.node := by
      obtain ⟨type, layout, hs, -⟩ := hd.interface f hf
      exact hproduced.isComplete ⟨type, layout, hs⟩ (hd.idle f.node)
    obtain ⟨t', body, ht', hbody, hlength⟩ := exists_body_of_fits hw₁ hfits hc
    -- the type that was required is that of the struct
    obtain rfl : t = t' := by
      obtain ⟨layout, hs⟩ := structType?_eq_some_iff.mp ht'
      have hhandle := (hproduced.imaged (hd.faithful hu)).2.2 t rfl
      rw [handle?_eq hs] at hhandle
      exact (Option.some.inj hhandle).symm
    have hstorable : w₁.Storable f.node :=
      ⟨t, body, ht', hbody, isSized_of_checkInterface hcheck hbody hlength⟩
    have hpointer : w₁.Becomes Action.Plain
        (w₁.act (.arena (.pointer t defaultAddressSpace))) :=
      .act trivial (List.forall_mem_nil _)
    refine ⟨hbecomes.trans hpointer, fun s hs => ?_, fun f' hf' => ?_⟩
    · rw [← Option.some.inj hs]
      exact TypeArena.isSized_of_pointer (w₁.arena.data?_intern _)
    · rw [← Option.some.inj (hf.symm.trans hf')]
      exact hstorable.grows hpointer.graphGrows (hpointer.arenaGrows hw₁)

/-! ### Globals -/

/-- **What is true of an emission at every point** after the workspace `u`. -/
structure Sound (u : Workspace) (e : Emission) : Prop where
  history : u.Becomes Action.Plain e.workspace
  usable : e.unit.Usable e.workspace.arena

/-- Plain actions leave what was emitted usable. -/
theorem Sound.becomes {u : Workspace} (he : e.Sound u) (hu : u.Faithful)
    (hw : e.workspace.Becomes Action.Plain w) : ({ e with workspace := w } : Emission).Sound u :=
  ⟨he.history.trans hw, he.usable.grows (hw.arenaGrows (he.history.faithful hu))⟩

theorem Sound.addGlobal {u : Workspace} (he : e.Sound u) (hu : u.Faithful) {g : ShaderGlobal}
    (h : addGlobal d e g = .ok e') : e'.Sound u := by
  rw [Emission.addGlobal] at h
  split at h
  · exact absurd h (by simp)
  · obtain ⟨⟨t, w⟩, hrequire, h⟩ := of_bind_eq_ok h
    dsimp only at h
    split at h
    · exact absurd h (by simp)
    · rename_i hsized
      rw [← Except.ok.inj h]
      have hlater := he.becomes hu (of_require hrequire).2
      exact ⟨hlater.history, hlater.usable.addGlobal (by simpa using hsized) _ _ _⟩

/-! ### Entry points -/

/-- The wrappers of entry points can be called, as long as their type can be. -/
theorem usable_addEntryPoints {a : TypeArena} {wrapperType : Ty} {paramNames : List String}
    (hcallable : ∀ symbol,
      (⟨symbol, wrapperType, .external, paramNames⟩ : FunctionDecl).Callable a)
    {points : List ShaderEntryPoint} {unit unit' : CodeUnit} {entryPoints : List EntryPoint}
    (hunit : unit.Usable a)
    (h : addEntryPoints d wrapperType paramNames unit points = .ok (entryPoints, unit')) :
    unit'.Usable a := by
  induction points generalizing unit entryPoints with
  | nil =>
    rw [addEntryPoints] at h
    rwa [← (Prod.mk.inj (Except.ok.inj h)).2]
  | cons p points ih =>
    rw [addEntryPoints] at h
    obtain ⟨⟨entryPoint, unit₁⟩, hfirst, h⟩ := of_bind_eq_ok h
    obtain ⟨⟨entryPoints', unit₂⟩, hrest, h⟩ := of_bind_eq_ok h
    obtain ⟨-, rfl⟩ := Prod.mk.inj (Except.ok.inj h)
    refine ih ?_ hrest
    rw [addEntryPoint] at hfirst
    split at hfirst
    · rw [← (Prod.mk.inj (Except.ok.inj hfirst)).2]
      exact hunit.addFunction p.name hcallable
    · exact absurd hfirst (by simp)

/-- The type of wrappers is that of functions that return nothing and take what they are
given to take. -/
theorem callable_wrapper (a : TypeArena) (params : List Ty) {paramNames : List String}
    (hparams : ∀ param ∈ params, a.isSized param = true)
    (hlength : params.length = paramNames.length) (symbol : String) :
    (⟨symbol, (a.void.2.function a.void.1 params false).1, .external, paramNames⟩ :
      FunctionDecl).Callable (a.void.2.function a.void.1 params false).2 := by
  have hvoid : (a.void.2.function a.void.1 params false).2.data? a.void.1 = some .void :=
    TypeArena.data?_intern_of_data? (a.data?_intern .void)
  have hgrows : a.Grows (a.void.2.function a.void.1 params false).2 :=
    (a.grows_intern _).trans (TypeArena.grows_intern _ _)
  exact ⟨a.void.1, params, false, TypeArena.data?_intern _ _, Or.inl hvoid,
    fun param hparam => hgrows.isSized (hparams param hparam), hlength⟩

/-! ### Functions -/

/-- The check of a function finds a result or a parameter that cannot be passed by value. -/
theorem of_checkFunction {t result : Ty} {params : List Ty} {variadic : Bool}
    {f : ShaderFunction} (hdata : arena.data? t = some (.function result params variadic))
    (h : checkFunction arena t f = .ok ()) :
    (arena.data? result = some .void ∨ arena.isSized result = true) ∧
      ∀ param ∈ params, arena.isSized param = true := by
  rw [checkFunction, hdata] at h
  dsimp only at h
  split at h
  · exact absurd h (by simp)
  · rename_i hresult
    split at h
    · exact absurd h (by simp)
    · rename_i hparams
      refine ⟨?_, fun param hparam => ?_⟩
      · by_contra hcon
        rw [not_or] at hcon
        exact hresult ⟨hcon.1, by simpa using hcon.2⟩
      · simpa using List.findIdx?_eq_none_iff.mp hparams param hparam

/-- A function node that was produced has a type that takes as many parameters as it takes
arguments. -/
theorem exists_data_of_function (hw : w.Faithful) {n : NodeId} {t : Ty} (hn : w.IsFunction n)
    (ht : w.handle? n = some t) :
    ∃ result params variadic, w.arena.data? t = some (.function result params variadic) ∧
      (((w.node? n).map Node.args).getD []).length = params.length := by
  obtain ⟨result, args, variadic, made, hs⟩ := hn
  rw [handle?_eq hs] at ht
  obtain rfl : made = some t := ht
  obtain ⟨data, hdata, himage⟩ := hw.formed n _ t hs
  obtain ⟨node, hnode, hshape⟩ := Option.map_eq_some_iff.mp hs
  cases himage with
  | @function _ _ _ type params _ hparams =>
    refine ⟨type, params, variadic, hdata, ?_⟩
    rw [hnode, Option.map_some, Option.getD_some, Node.args, Node.former?, hshape]
    exact hparams.length_eq

theorem Sound.addFunction {u : Workspace} (he : e.Sound u) (hu : u.Faithful)
    {f : ShaderFunction} (hf : u.IsFunction f.type) (h : addFunction d e f = .ok e') :
    e'.Sound u := by
  rw [Emission.addFunction] at h
  obtain ⟨⟨t, w⟩, hrequire, h⟩ := of_bind_eq_ok h
  obtain ⟨_, hcheck, h⟩ := of_bind_eq_ok h
  dsimp only at hcheck h
  split at h
  · exact absurd h (by simp)
  · rename_i htaken
    rw [← Except.ok.inj h]
    obtain ⟨hproduced, hbecomes⟩ := of_require hrequire
    have hlater := he.becomes hu hbecomes
    have himaged := hproduced.imaged (he.history.faithful hu)
    obtain ⟨result, params, variadic, hdata, hlength⟩ := exists_data_of_function himaged.1
      (hlater.history.graphGrows.isFunction hf) (himaged.2.2 t rfl)
    obtain ⟨hresult, hparams⟩ := of_checkFunction hdata hcheck
    refine ⟨hlater.history, hlater.usable.addFunction _ fun symbol =>
      ⟨result, params, variadic, hdata, hresult, hparams, ?_⟩⟩
    rw [List.length_mapIdx, ← hlength]
    exact not_not.mp htaken

end Emission

/-! ### The whole unit -/

open Emission in
/-- What is emitted from what was declared can be used in the end. -/
theorem Declarations.Sound.emit {arena : TypeArena} {d : Declarations} {name : String}
    {m : LoweredModule} (hd : d.Sound arena) (hu : arena.Uniqued) (h : d.emit name = .ok m) :
    m.unit.Usable m.workspace.arena ∧
      ∀ n, m.interfaceStruct = some n → m.workspace.Storable n := by
  rw [Declarations.emit] at h
  split at h
  · exact absurd h (by simp)
  · obtain ⟨⟨pointer, u⟩, hinterface, h⟩ := of_bind_eq_ok h
    obtain ⟨e₁, hglobals, h⟩ := of_bind_eq_ok h
    dsimp only at hglobals h
    obtain ⟨⟨entryPoints, unit⟩, hentries, h⟩ := of_bind_eq_ok h
    obtain ⟨e, hfunctions, h⟩ := of_bind_eq_ok h
    obtain ⟨hbecomes, hpointer, hstorable⟩ := of_layOutInterface hd hu hinterface
    have hu' : u.Faithful := hbecomes.faithful (hd.faithful hu)
    -- the workspace after the interface is what the rest of the emission is compared with
    have he₁ : e₁.Sound u := foldlM_keeps (fun _ _ _ _ hstep he => he.addGlobal hu' hstep)
      ⟨.refl u, CodeUnit.usable_empty name _⟩ hglobals
    -- the types of nothing and of wrappers are made
    have hact : e₁.workspace.Becomes Action.Plain ((e₁.workspace.act (.arena .void)).act
        (.arena (.function e₁.workspace.arena.void.1 pointer.toList false))) :=
      (Workspace.Becomes.act trivial (List.forall_mem_nil _)).trans
        (.act trivial (List.forall_mem_nil _))
    have hsized : ∀ t ∈ pointer.toList, e₁.workspace.arena.isSized t = true := fun t ht =>
      (he₁.history.arenaGrows hu').isSized (hpointer t (Option.mem_toList.mp ht))
    have hwrappers := usable_addEntryPoints
      (callable_wrapper _ pointer.toList hsized (List.length_map _).symm)
      (he₁.becomes hu' hact).usable hentries
    have he : e.Sound u := by
      refine foldlM_keeps (P := fun e => e.Sound u) (fun _ f hf _ hstep he => ?_)
        ⟨he₁.history.trans hact, ?_⟩ hfunctions
      · exact he.addFunction hu' (hbecomes.graphGrows.isFunction (hd.functions f hf)) hstep
      · exact hwrappers
    rw [← Except.ok.inj h]
    -- detaching changes no type, nor which struct has which
    refine ⟨he.usable, fun n hn => ?_⟩
    obtain ⟨f, hf, rfl⟩ := Option.map_eq_some_iff.mp hn
    obtain ⟨t, body, ht, hbody, hmembers⟩ :=
      (hstorable f hf).grows he.history.graphGrows (he.history.arenaGrows hu')
    exact ⟨t, body, e.workspace.structType?_detachAll ▸ ht, hbody, hmembers⟩

/-- **What is emitted can be used.** If a shader is lowered, then every global of the unit
can be stored and every function called, the wrappers of entry points among them, and the
interface struct, if there is one, can be stored. All of this is true of the types as they
are at the end, whatever types there were before. -/
theorem lower_usable {arena : TypeArena} {shader : ShaderModule} {name : String}
    {m : LoweredModule} (hu : arena.Uniqued) (h : lower arena shader name = .ok m) :
    m.unit.Usable m.workspace.arena ∧
      ∀ n, m.interfaceStruct = some n → m.workspace.Storable n := by
  obtain ⟨d, hd, hemit⟩ := of_bind_eq_ok h
  exact (Declarations.sound_ofInstructions hd).emit hu hemit

/-- A shader that has an input, a global, and an entry point with its function. -/
theorem lower_usable_entry :
    let instructions : List Instruction :=
      [⟨15, [0, 8, 0x6e69616d, 0, 5], 5, 11⟩, ⟨19, [1], 11, 13⟩, ⟨22, [2, 32], 13, 16⟩,
        ⟨32, [3, 1, 2], 16, 20⟩, ⟨32, [4, 6, 2], 20, 24⟩, ⟨59, [3, 5, 1], 24, 28⟩,
        ⟨59, [4, 6, 6], 28, 32⟩, ⟨33, [7, 1, 2], 32, 36⟩, ⟨54, [1, 8, 0, 7], 36, 41⟩,
        ⟨55, [2, 9], 41, 44⟩, ⟨56, [], 44, 45⟩]
    ∃ m, lower {} ⟨⟨1, 0, 0, 10⟩, instructions⟩ "unit" = .ok m ∧
      m.unit.functions.length = 2 ∧ m.unit.globals.length = 1 ∧
      m.unit.Usable m.workspace.arena ∧ m.workspace.Storable ⟨4⟩ := by
  intro instructions
  have hshape : (lower {} ⟨⟨1, 0, 0, 10⟩, instructions⟩ "unit").toOption.map
      (fun m => (m.interfaceStruct, m.unit.functions.length, m.unit.globals.length)) =
      some (some ⟨4⟩, 2, 1) := by
    decide +kernel
  obtain ⟨m, h, hparts⟩ := of_toOption_map_eq_some hshape
  simp only [Prod.mk.injEq] at hparts
  have husable := lower_usable TypeArena.uniqued_empty h
  exact ⟨m, h, hparts.2.1, hparts.2.2, husable.1, husable.2 ⟨4⟩ hparts.1⟩

end ShaderLowering
