import ShaderLowering.Proofs.Lowering.Emission
import ShaderLowering.Proofs.Lowering.Gathered

/-!
# What is emitted

Putting a code unit together goes through the lists of what was declared, one after
another, and each member of a list adds its part to the unit behind the parts that are
there (`ShaderLowering.foldlM_appends`). A part is emitted with types as they are at that
moment. More types are made afterwards, but a node that has a type keeps it
(`ShaderLowering.Workspace.Keeps`), so that all parts can be described by the one workspace
that there is in the end. This is what `ShaderLowering.Declarations.Emits` does.
-/

namespace ShaderLowering

/-- **A fold appends a part for each member of a list**, if each step does, and if a part
goes on being what it is. -/
theorem foldlM_appends {ε σ α β : Type} {step : σ → α → Except ε σ} {as : List α} {s s' : σ}
    (view : σ → List β) (P : σ → Prop) (Leads : σ → σ → Prop) (Of : σ → α → β → Prop)
    (hrefl : ∀ s, Leads s s) (htrans : ∀ s s' s'', Leads s s' → Leads s' s'' → Leads s s'')
    (hlater : ∀ s s' a b, Leads s s' → Of s a b → Of s' a b)
    (hstep : ∀ s, ∀ a ∈ as, ∀ s', step s a = .ok s' → P s →
      P s' ∧ Leads s s' ∧ ∃ b, view s' = view s ++ [b] ∧ Of s' a b)
    (hs : P s) (hfold : as.foldlM step s = .ok s') :
    P s' ∧ Leads s s' ∧ ∃ bs, view s' = view s ++ bs ∧ List.Forall₂ (Of s') as bs := by
  induction as generalizing s with
  | nil =>
    rw [List.foldlM_nil] at hfold
    cases hfold
    exact ⟨hs, hrefl _, [], (List.append_nil _).symm, .nil⟩
  | cons a as ih =>
    rw [List.foldlM_cons] at hfold
    obtain ⟨s₁, hs₁, hrest⟩ := of_bind_eq_ok hfold
    obtain ⟨hP₁, hleads₁, b, hview₁, hb⟩ := hstep s a List.mem_cons_self s₁ hs₁ hs
    obtain ⟨hP', hleads', bs, hview', hbs⟩ :=
      ih (fun s a ha => hstep s a (List.mem_cons_of_mem _ ha)) hP₁ hrest
    refine ⟨hP', htrans _ _ _ hleads₁ hleads', b :: bs, ?_, .cons (hlater _ _ _ _ hleads' hb) hbs⟩
    rw [hview', hview₁, List.append_assoc, List.singleton_append]

namespace Workspace

variable {w w' : Workspace} {allowed : Action → Prop} {n : NodeId} {t : Ty}

theorem Becomes.keeps (h : w.Becomes allowed w') (hw : w.Faithful) : w.Keeps w' := by
  obtain ⟨actions, rfl, -⟩ := h
  exact hw.keeps_run actions

/-- The members of a struct that is complete are the image of its nodes. -/
theorem Faithful.exists_body (hw : w.Faithful) {layout : Layout}
    (hs : w.shape? n = some (.struct t layout)) (hc : layout.complete = true) :
    ∃ body, w.arena.body? t = some body ∧
      List.Forall₂ (fun m type => w.handle? m = some type)
        (layout.members.map Member.type) body := by
  obtain ⟨data, hdata, hl⟩ := hw.struct n t layout hs
  obtain ⟨body, hbody, htypes⟩ := hl.body hc
  exact ⟨body, TypeArena.body?_eq_some_iff.mpr ⟨data, hdata, hbody⟩, htypes⟩

theorem Faithful.placed (hw : w.Faithful) {layout : Layout}
    (hs : w.shape? n = some (.struct t layout)) (hc : layout.complete = true) {k : Nat}
    {member : Member} (hk : layout.members[k]? = some member) : member.bodyIndex = some k := by
  obtain ⟨data, -, hl⟩ := hw.struct n t layout hs
  exact hl.placed hc k member hk

end Workspace

/-- An emission goes on to another, in which nodes have the types they had. -/
structure Emission.Leads (e e' : Emission) : Prop where
  history : e.workspace.Becomes Action.Plain e'.workspace
  keeps : e.workspace.Keeps e'.workspace

theorem Emission.Leads.refl (e : Emission) : e.Leads e :=
  ⟨.refl _, .refl _⟩

theorem Emission.Leads.trans {e e' e'' : Emission} (h : e.Leads e') (h' : e'.Leads e'') :
    e.Leads e'' :=
  ⟨h.history.trans h'.history, h.keeps.trans h'.keeps⟩

namespace Declarations

open Workspace Emission

variable {d : Declarations} {arena : TypeArena} {w w' : Workspace} {e e' : Emission}
  {g : ShaderGlobal} {f : ShaderFunction} {p : ShaderEntryPoint}

/-! ### The parts of a unit -/

/-- The global is emitted: it has the type of what its pointers point to. -/
structure EmitsGlobal (d : Declarations) (w : Workspace) (g : ShaderGlobal)
    (decl : GlobalDecl) : Prop where
  type : ∃ pointee, d.workspace.pointee? g.pointerType = some pointee ∧
    w.handle? pointee = some decl.type
  addressSpace : decl.addressSpace = defaultAddressSpace
  linkage : decl.linkage = globalLinkage g.storage

/-- The function is emitted, with as many parameters as its type takes. -/
structure EmitsFunction (d : Declarations) (w : Workspace) (f : ShaderFunction)
    (decl : FunctionDecl) : Prop where
  type : w.handle? f.type = some decl.type
  linkage : decl.linkage = .internal
  paramNames : decl.paramNames =
    f.parameters.mapIdx fun k id => (d.names.lookup id).getD s!"param_{k}"
  count : f.parameters.length = d.workspace.argCount f.type

/-- The entry point is emitted, and its function is there. -/
structure EmitsEntryPoint (d : Declarations) (p : ShaderEntryPoint) (e : EntryPoint) :
    Prop where
  name : e.name = p.name
  model : e.model = p.model
  function : e.function = p.function
  defined : ∃ f ∈ d.functions, f.id = p.function
  members : e.interfaceMembers = p.interface.filterMap fun id =>
    d.interface.bind fun interface => interface.memberOf? id
  struct : e.interfaceStruct = d.interface.map Interface.node

/-- The type is that of a wrapper: it returns nothing, and takes a pointer to the interface
struct if there is one. -/
def IsWrapperType (d : Declarations) (w : Workspace) (type : Ty) : Prop :=
  ∃ void params, w.arena.data? type = some (.function void params false) ∧
    w.arena.data? void = some .void ∧
    match d.interface with
    | none => params = []
    | some f => ∃ pointer t, params = [pointer] ∧ w.structType? f.node = some t ∧
        w.arena.data? pointer = some (.pointer t defaultAddressSpace)

/-- **What is emitted** from declarations, described by the workspace in the end. -/
structure Emits (d : Declarations) (w : Workspace) (m : LoweredModule) : Prop where
  workspace : m.workspace = w.detachAll
  history : d.workspace.Becomes Action.Plain w
  openFunction : d.openFunction = none
  interfaceStruct : m.interfaceStruct = d.interface.map Interface.node
  complete : ∀ f, d.interface = some f → w.IsComplete f.node
  globals : List.Forall₂ (d.EmitsGlobal w) d.globals m.unit.globals
  entryPoints : List.Forall₂ d.EmitsEntryPoint d.entryPoints m.entryPoints
  wrapper : ∀ (k : Nat) (e : EntryPoint), m.entryPoints[k]? = some e → e.wrapper = k
  functions : ∃ wrappers functions, m.unit.functions = wrappers ++ functions ∧
    wrappers.length = d.entryPoints.length ∧
    (∀ decl ∈ wrappers, decl.linkage = .external ∧ d.IsWrapperType w decl.type) ∧
    List.Forall₂ (d.EmitsFunction w) d.functions functions

/-! ### The interface struct -/

/-- The interface struct is complete, and there is a pointer to it. -/
theorem of_layOutInterface {pointer : Option Ty} (hd : d.Sound arena) (hu : arena.Uniqued)
    (h : layOutInterface d.workspace d.interface = .ok (pointer, w)) :
    d.workspace.Becomes Action.Plain w ∧ (∀ f, d.interface = some f → w.IsComplete f.node) ∧
      match d.interface with
      | none => pointer = none
      | some f => ∃ p t, pointer = some p ∧ w.structType? f.node = some t ∧
          w.arena.data? p = some (.pointer t defaultAddressSpace) := by
  cases hf : d.interface with
  | none =>
    rw [hf] at h
    obtain ⟨rfl, rfl⟩ := Prod.mk.inj (Except.ok.inj h)
    exact ⟨.refl _, nofun, rfl⟩
  | some f =>
    rw [hf] at h
    obtain ⟨⟨t, w₁⟩, hrequire, h⟩ := of_bind_eq_ok h
    obtain ⟨_, -, h⟩ := of_bind_eq_ok h
    obtain ⟨rfl, rfl⟩ := Prod.mk.inj (Except.ok.inj h)
    obtain ⟨hproduced, hbecomes⟩ := of_require hrequire
    obtain ⟨type, layout, hs, -⟩ := hd.interface f hf
    have hc : w₁.IsComplete f.node := hproduced.isComplete ⟨type, layout, hs⟩ (hd.idle f.node)
    have hpointer : w₁.Becomes Action.Plain
        (w₁.act (.arena (.pointer t defaultAddressSpace))) :=
      .act trivial (List.forall_mem_nil _)
    -- the type that was required is that of the struct
    have ht : w₁.structType? f.node = some t := by
      obtain ⟨layout', hs', -⟩ := hbecomes.types hs
      have hhandle := (hproduced.imaged (hd.faithful hu)).2.2 t rfl
      rw [handle?_eq hs'] at hhandle
      exact structType?_eq_some_iff.mpr ⟨layout', Option.some.inj hhandle ▸ hs'⟩
    refine ⟨hbecomes.trans hpointer, fun f' hf' => ?_, _, t, rfl,
      hpointer.graphGrows.structType? ht, w₁.arena.data?_intern _⟩
    rw [← Option.some.inj hf']
    exact hpointer.graphGrows.isComplete hc

/-! ### Globals and functions -/

theorem of_addGlobal (hd : d.Sound arena) (hu : arena.Uniqued)
    (he : d.workspace.Becomes Action.Plain e.workspace)
    (hg : (d.workspace.pointee? g.pointerType).isSome) (h : addGlobal d e g = .ok e') :
    e.Leads e' ∧ e'.unit.functions = e.unit.functions ∧
      ∃ decl, e'.unit.globals = e.unit.globals ++ [decl] ∧
        d.EmitsGlobal e'.workspace g decl := by
  obtain ⟨pointee, hpointee⟩ := Option.isSome_iff_exists.mp hg
  have hpointee' : (e.workspace.node? g.pointerType).bind Node.pointee? = some pointee :=
    he.graphGrows.pointee? hpointee
  rw [addGlobal, hpointee'] at h
  obtain ⟨⟨t, w⟩, hrequire, h⟩ := of_bind_eq_ok h
  dsimp only at h
  split at h
  · exact absurd h (by simp)
  · rw [← Except.ok.inj h]
    obtain ⟨hproduced, hbecomes⟩ := of_require hrequire
    obtain ⟨-, hkeeps, hhandle⟩ := hproduced.imaged (he.faithful (hd.faithful hu))
    exact ⟨⟨hbecomes, hkeeps⟩, rfl, _, rfl, ⟨pointee, hpointee, hhandle t rfl⟩, rfl, rfl⟩

theorem of_addFunction (hd : d.Sound arena) (hu : arena.Uniqued)
    (he : d.workspace.Becomes Action.Plain e.workspace) (hf : d.workspace.IsFunction f.type)
    (h : addFunction d e f = .ok e') :
    e.Leads e' ∧ e'.unit.globals = e.unit.globals ∧
      ∃ decl, e'.unit.functions = e.unit.functions ++ [decl] ∧
        d.EmitsFunction e'.workspace f decl := by
  obtain ⟨⟨t, w⟩, hrequire, h⟩ := of_bind_eq_ok h
  obtain ⟨_, -, h⟩ := of_bind_eq_ok h
  dsimp only at h
  split at h
  · exact absurd h (by simp)
  · rename_i htaken
    rw [← Except.ok.inj h]
    obtain ⟨hproduced, hbecomes⟩ := of_require hrequire
    obtain ⟨-, hkeeps, hhandle⟩ := hproduced.imaged (he.faithful (hd.faithful hu))
    have hcount : w.argCount f.type = f.parameters.length := not_not.mp htaken
    rw [(he.trans hbecomes).graphGrows.argCount hf] at hcount
    exact ⟨⟨hbecomes, hkeeps⟩, rfl, _, rfl, hhandle t rfl, rfl, rfl, hcount.symm⟩

/-! ### Entry points -/

/-- Each entry point gets a wrapper, behind the functions that are there. -/
theorem of_addEntryPoints {type : Ty} {paramNames : List String} {points : List ShaderEntryPoint}
    {unit unit' : CodeUnit} {entryPoints : List EntryPoint}
    (h : addEntryPoints d type paramNames unit points = .ok (entryPoints, unit')) :
    List.Forall₂ d.EmitsEntryPoint points entryPoints ∧
      (∀ (k : Nat) (e : EntryPoint), entryPoints[k]? = some e →
        e.wrapper = unit.functions.length + k) ∧
      unit'.globals = unit.globals ∧
      ∃ wrappers, unit'.functions = unit.functions ++ wrappers ∧
        wrappers.length = points.length ∧
        ∀ decl ∈ wrappers, decl.linkage = .external ∧ decl.type = type := by
  induction points generalizing unit entryPoints with
  | nil =>
    rw [addEntryPoints] at h
    obtain ⟨rfl, rfl⟩ := Prod.mk.inj (Except.ok.inj h)
    exact ⟨.nil, fun k e hk => absurd hk (by simp), rfl, [], (List.append_nil _).symm, rfl,
      List.forall_mem_nil _⟩
  | cons p points ih =>
    rw [addEntryPoints] at h
    obtain ⟨⟨entryPoint, unit₁⟩, hfirst, h⟩ := of_bind_eq_ok h
    obtain ⟨⟨entryPoints', unit₂⟩, hrest, h⟩ := of_bind_eq_ok h
    obtain ⟨rfl, rfl⟩ := Prod.mk.inj (Except.ok.inj h)
    obtain ⟨hpoints, hnumbers, hglobals, wrappers, hfunctions, hlength, hwrappers⟩ := ih hrest
    rw [Emission.addEntryPoint] at hfirst
    split at hfirst
    · rename_i hdefined
      obtain ⟨rfl, rfl⟩ := Prod.mk.inj (Except.ok.inj hfirst)
      have hdefined' : ∃ f ∈ d.functions, f.id = p.function := by simpa using hdefined
      refine ⟨.cons ⟨rfl, rfl, rfl, hdefined', rfl, rfl⟩ hpoints, fun k e hk => ?_, hglobals,
        _ :: wrappers, hfunctions.trans (List.append_assoc _ _ _), congrArg (· + 1) hlength,
        List.forall_mem_cons.mpr ⟨⟨rfl, rfl⟩, hwrappers⟩⟩
      cases k with
      | zero => rw [← Option.some.inj hk]; rfl
      | succ k =>
        have := hnumbers k e hk
        rw [CodeUnit.addFunction, List.length_append, List.length_singleton,
          CodeUnit.functions_claim] at this
        omega
    · exact absurd hfirst (by simp)

/-! ### The whole unit -/

theorem IsWrapperType.keeps {type : Ty} (h : d.IsWrapperType w type)
    (hgraph : w.GraphGrows w') (harena : w.arena.Grows w'.arena) :
    d.IsWrapperType w' type := by
  obtain ⟨void, params, htype, hvoid, hparams⟩ := h
  refine ⟨void, params, harena.data? htype trivial, harena.data? hvoid trivial, ?_⟩
  split
  · rename_i hf
    rwa [hf] at hparams
  · rename_i f hf
    rw [hf] at hparams
    obtain ⟨pointer, t, hparams, ht, hpointer⟩ := hparams
    exact ⟨pointer, t, hparams, hgraph.structType? ht, harena.data? hpointer trivial⟩

/-- The type of wrappers is made from the pointer to the interface struct. -/
theorem isWrapperType_made (d : Declarations) (w : Workspace) (pointer : Option Ty)
    (hpointer : match d.interface with
      | none => pointer = none
      | some f => ∃ p t, pointer = some p ∧ w.structType? f.node = some t ∧
          w.arena.data? p = some (.pointer t defaultAddressSpace)) :
    d.IsWrapperType
      ((w.act (.arena .void)).act (.arena (.function w.arena.void.1 pointer.toList false)))
      (w.arena.void.2.function w.arena.void.1 pointer.toList false).1 := by
  have hgrows : w.arena.Grows (w.arena.void.2.function w.arena.void.1 pointer.toList false).2 :=
    (w.arena.grows_intern _).trans (TypeArena.grows_intern _ _)
  refine ⟨w.arena.void.1, pointer.toList, TypeArena.data?_intern _ _,
    TypeArena.data?_intern_of_data? (w.arena.data?_intern .void), ?_⟩
  split
  · rename_i hf
    rw [hf] at hpointer
    rw [hpointer]
    rfl
  · rename_i f hf
    rw [hf] at hpointer
    obtain ⟨p, t, rfl, ht, hp⟩ := hpointer
    exact ⟨p, t, rfl, ht, hgrows.data? hp trivial⟩

theorem EmitsGlobal.keeps {decl : GlobalDecl} (h : d.EmitsGlobal w g decl)
    (hw : w.Keeps w') : d.EmitsGlobal w' g decl := by
  obtain ⟨pointee, hpointee, hhandle⟩ := h.type
  exact ⟨⟨pointee, hpointee, hw.2 pointee _ hhandle⟩, h.addressSpace, h.linkage⟩

theorem EmitsFunction.keeps {decl : FunctionDecl} (h : d.EmitsFunction w f decl)
    (hw : w.Keeps w') : d.EmitsFunction w' f decl :=
  ⟨hw.2 f.type _ h.type, h.linkage, h.paramNames, h.count⟩

/-- All globals are emitted, one after another. -/
theorem of_addGlobals (hd : d.Sound arena) (hu : arena.Uniqued)
    (he : d.workspace.Becomes Action.Plain e.workspace)
    (hpointees : ∀ g ∈ d.globals, (d.workspace.pointee? g.pointerType).isSome)
    (h : d.globals.foldlM (addGlobal d) e = .ok e') :
    e.Leads e' ∧ e'.unit.functions = e.unit.functions ∧
      ∃ globals, e'.unit.globals = e.unit.globals ++ globals ∧
        List.Forall₂ (d.EmitsGlobal e'.workspace) d.globals globals := by
  obtain ⟨-, ⟨hleads, hfunctions⟩, hglobals⟩ := foldlM_appends
    (fun e : Emission => e.unit.globals)
    (fun e => d.workspace.Becomes Action.Plain e.workspace)
    (fun e e' => e.Leads e' ∧ e'.unit.functions = e.unit.functions)
    (fun e g decl => d.EmitsGlobal e.workspace g decl)
    (fun e => ⟨.refl e, rfl⟩) (fun _ _ _ h h' => ⟨h.1.trans h'.1, h'.2.trans h.2⟩)
    (fun _ _ _ _ h hg => hg.keeps h.1.keeps)
    (fun e g hg e' hstep he => by
      obtain ⟨hleads, hfunctions, hdecl⟩ := of_addGlobal hd hu he (hpointees g hg) hstep
      exact ⟨he.trans hleads.history, ⟨hleads, hfunctions⟩, hdecl⟩)
    he h
  exact ⟨hleads, hfunctions, hglobals⟩

/-- All functions are emitted, one after another. -/
theorem of_addFunctions (hd : d.Sound arena) (hu : arena.Uniqued)
    (he : d.workspace.Becomes Action.Plain e.workspace)
    (h : d.functions.foldlM (addFunction d) e = .ok e') :
    e.Leads e' ∧ e'.unit.globals = e.unit.globals ∧
      ∃ functions, e'.unit.functions = e.unit.functions ++ functions ∧
        List.Forall₂ (d.EmitsFunction e'.workspace) d.functions functions := by
  obtain ⟨-, ⟨hleads, hglobals⟩, hfunctions⟩ := foldlM_appends
    (fun e : Emission => e.unit.functions)
    (fun e => d.workspace.Becomes Action.Plain e.workspace)
    (fun e e' => e.Leads e' ∧ e'.unit.globals = e.unit.globals)
    (fun e f decl => d.EmitsFunction e.workspace f decl)
    (fun e => ⟨.refl e, rfl⟩) (fun _ _ _ h h' => ⟨h.1.trans h'.1, h'.2.trans h.2⟩)
    (fun _ _ _ _ h hf => hf.keeps h.1.keeps)
    (fun e f hf e' hstep he => by
      obtain ⟨hleads, hglobals, hdecl⟩ := of_addFunction hd hu he (hd.functions f hf) hstep
      exact ⟨he.trans hleads.history, ⟨hleads, hglobals⟩, hdecl⟩)
    he h
  exact ⟨hleads, hglobals, hfunctions⟩

/-- **What is emitted from the declarations of a walk.** -/
theorem Sound.emits {name : String} {m : LoweredModule} (hd : d.Sound arena)
    (hu : arena.Uniqued)
    (hpointees : ∀ g ∈ d.globals, (d.workspace.pointee? g.pointerType).isSome)
    (h : d.emit name = .ok m) : ∃ w, d.Emits w m := by
  rw [Declarations.emit] at h
  split at h
  · exact absurd h (by simp)
  · rename_i hopen
    obtain ⟨⟨pointer, u⟩, hinterface, h⟩ := of_bind_eq_ok h
    obtain ⟨e₁, hglobals, h⟩ := of_bind_eq_ok h
    dsimp only at hglobals h
    obtain ⟨⟨entryPoints, unit⟩, hentries, h⟩ := of_bind_eq_ok h
    obtain ⟨e, hfunctions, h⟩ := of_bind_eq_ok h
    obtain ⟨hu₀, hcomplete, hpointer⟩ := of_layOutInterface hd hu hinterface
    obtain ⟨hleads₁, hnone, globals, hglobals₁, hemits₁⟩ :=
      of_addGlobals hd hu hu₀ hpointees hglobals
    have he₁ := hu₀.trans hleads₁.history
    -- the types of nothing and of wrappers are made
    have hact : e₁.workspace.Becomes Action.Plain ((e₁.workspace.act (.arena .void)).act
        (.arena (.function e₁.workspace.arena.void.1 pointer.toList false))) :=
      (Workspace.Becomes.act trivial (List.forall_mem_nil _)).trans
        (.act trivial (List.forall_mem_nil _))
    have hwrapper := isWrapperType_made d e₁.workspace pointer (by
      split
      · rename_i hf
        rwa [hf] at hpointer
      · rename_i f hf
        rw [hf] at hpointer
        obtain ⟨p, t, hp, ht, hdata⟩ := hpointer
        exact ⟨p, t, hp, hleads₁.history.graphGrows.structType? ht,
          hleads₁.keeps.1.data? hdata trivial⟩)
    obtain ⟨hpoints, hnumbers, hglobals₂, wrappers, hwrappers, hlength, htypes⟩ :=
      of_addEntryPoints hentries
    obtain ⟨hleads, hglobals₃, functions, hfunctions₃, hemits⟩ :=
      of_addFunctions hd hu (he₁.trans hact) hfunctions
    have hfaithful := (he₁.trans hact).faithful (hd.faithful hu)
    have hkeeps : e₁.workspace.Keeps e.workspace :=
      (hact.keeps (he₁.faithful (hd.faithful hu))).trans hleads.keeps
    rw [← Except.ok.inj h]
    refine ⟨e.workspace, rfl, (he₁.trans hact).trans hleads.history, hopen, rfl, fun f hf => ?_,
      ?_, hpoints, fun k p hk => ?_, wrappers, functions, ?_, hlength, fun decl hdecl => ?_, hemits⟩
    · exact ((hleads₁.history.trans hact).trans hleads.history).graphGrows.isComplete
        (hcomplete f hf)
    · rw [hglobals₃]
      dsimp only
      rw [hglobals₂, hglobals₁, List.nil_append]
      exact hemits₁.imp fun g decl hg => hg.keeps hkeeps
    · rw [hnumbers k p hk, hnone, List.length_nil, Nat.zero_add]
    · rw [hfunctions₃]
      dsimp only
      rw [hwrappers, hnone, List.nil_append]
    · obtain ⟨hlinkage, htype⟩ := htypes decl hdecl
      refine ⟨hlinkage, htype ▸ ?_⟩
      exact hwrapper.keeps hleads.history.graphGrows hleads.keeps.1

end Declarations

end ShaderLowering
