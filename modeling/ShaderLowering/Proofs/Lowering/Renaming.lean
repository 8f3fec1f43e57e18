import Mathlib.Data.List.Find
import ShaderLowering.Proofs.Lowering.Emission
import ShaderLowering.Proofs.Lowering.WalkRenaming

/-!
# A shader is lowered alike in any arena

The types that an arena holds already make no difference to the lowering of a shader but
for the handles it gives out (`ShaderLowering.lower_renamed`). What is refused is refused
with the same report. What is lowered is the same up to a renaming of handles, and reads
the same where no handles are seen (`ShaderLowering.LoweredModule.Renamed`).

This is true of the arenas that come about in the course of work
(`ShaderLowering.TypeArena.Reachable`). Two things are needed of them: that structural
types are unique, which keeps a renaming from confusing types, and that types are made of
earlier ones, without which a type would have no text.
-/

namespace ShaderLowering

open TypeArena (Extends IsRenamed AreRenamed)

/-! ### Renamed units -/

/-- The global with its type renamed. -/
def GlobalDecl.rename (ρ : Ty → Ty) (g : GlobalDecl) : GlobalDecl :=
  { g with type := ρ g.type }

/-- The function with its type renamed. -/
def FunctionDecl.rename (ρ : Ty → Ty) (f : FunctionDecl) : FunctionDecl :=
  { f with type := ρ f.type }

theorem GlobalDecl.text_rename {old a b : TypeArena} {ρ : Ty → Ty} {g : GlobalDecl}
    (h : old.Renamed ρ a b) (hg : a.Has g.type) : (g.rename ρ).text b = g.text a := by
  rw [text, text, rename, h.carried.text hg]

theorem FunctionDecl.text_rename {old a b : TypeArena} {ρ : Ty → Ty} {f : FunctionDecl}
    (h : old.Renamed ρ a b) (hf : a.Has f.type) : (f.rename ρ).text b = f.text a := by
  obtain ⟨d, hd⟩ := hf.exists_data?
  have hparts := h.founded.there f.type d hd
  rw [text, text, rename, hd, h.data _ d hd]
  cases d with
  | function result params variadic =>
    have htexts : (params.map ρ).map b.text = params.map a.text := by
      rw [List.map_map]
      exact List.map_congr_left fun t ht => h.carried.text (hparts t (List.mem_cons_of_mem _ ht))
    dsimp only [TypeData.rename]
    rw [h.carried.text (hparts result List.mem_cons_self), htexts]
  | _ => rfl

namespace CodeUnit

variable {ρ ρ' : Ty → Ty} {u : CodeUnit}

/-- The unit with its types renamed. -/
def rename (ρ : Ty → Ty) (u : CodeUnit) : CodeUnit :=
  { u with
    functions := u.functions.map (FunctionDecl.rename ρ)
    globals := u.globals.map (GlobalDecl.rename ρ) }

/-- Its types are types of the arena. -/
def Has (u : CodeUnit) (a : TypeArena) : Prop :=
  (∀ f ∈ u.functions, a.Has f.type) ∧ ∀ g ∈ u.globals, a.Has g.type

theorem rename_congr {a : TypeArena} (hu : u.Has a) (h : ∀ t, a.Has t → ρ' t = ρ t) :
    u.rename ρ' = u.rename ρ := by
  have hfunctions : u.functions.map (FunctionDecl.rename ρ') =
      u.functions.map (FunctionDecl.rename ρ) :=
    List.map_congr_left fun f hf => by
      rw [FunctionDecl.rename, FunctionDecl.rename, h f.type (hu.1 f hf)]
  have hglobals : u.globals.map (GlobalDecl.rename ρ') = u.globals.map (GlobalDecl.rename ρ) :=
    List.map_congr_left fun g hg => by
      rw [GlobalDecl.rename, GlobalDecl.rename, h g.type (hu.2 g hg)]
  rw [rename, rename, hfunctions, hglobals]

theorem Has.grows {a b : TypeArena} (hu : u.Has a) (h : a.size ≤ b.size) : u.Has b :=
  ⟨fun f hf => Nat.lt_of_lt_of_le (hu.1 f hf) h, fun g hg => Nat.lt_of_lt_of_le (hu.2 g hg) h⟩

/-- Renaming types leaves symbols alone. -/
theorem rename_claim (ρ : Ty → Ty) (u : CodeUnit) (name : String) :
    (u.rename ρ).claim name = ((u.claim name).1, (u.claim name).2.rename ρ) :=
  rfl

theorem rename_addGlobal (ρ : Ty → Ty) (u : CodeUnit) (name : String) (type : Ty)
    (addressSpace : Nat) (linkage : Linkage) :
    (u.addGlobal name type addressSpace linkage).rename ρ =
      (u.rename ρ).addGlobal name (ρ type) addressSpace linkage := by
  rw [addGlobal, addGlobal, rename_claim]
  simp only [rename, List.map_append, List.map_cons, List.map_nil, GlobalDecl.rename]

theorem rename_addFunction (ρ : Ty → Ty) (u : CodeUnit) (name : String) (type : Ty)
    (linkage : Linkage) (paramNames : List String) :
    (u.addFunction name type linkage paramNames).rename ρ =
      (u.rename ρ).addFunction name (ρ type) linkage paramNames := by
  rw [addFunction, addFunction, rename_claim]
  simp only [rename, List.map_append, List.map_cons, List.map_nil, FunctionDecl.rename]

theorem Has.addGlobal {a : TypeArena} {type : Ty} (hu : u.Has a) (ht : a.Has type)
    (name : String) (addressSpace : Nat) (linkage : Linkage) :
    (u.addGlobal name type addressSpace linkage).Has a :=
  ⟨hu.1, List.forall_mem_append.mpr ⟨hu.2, List.forall_mem_singleton.mpr ht⟩⟩

theorem Has.addFunction {a : TypeArena} {type : Ty} (hu : u.Has a) (ht : a.Has type)
    (name : String) (linkage : Linkage) (paramNames : List String) :
    (u.addFunction name type linkage paramNames).Has a :=
  ⟨List.forall_mem_append.mpr ⟨hu.1, List.forall_mem_singleton.mpr ht⟩, hu.2⟩

end CodeUnit

/-! ### Emissions with renamed handles -/

theorem Workspace.Renamed.require {old : TypeArena} {ρ : Ty → Ty} {w w' : Workspace}
    (h : Workspace.Renamed old ρ w w') (n : NodeId) (complete : Bool) :
    Agrees (fun made made' => ∃ ρ₁, Workspace.Renamed old ρ₁ made.2 made'.2 ∧
        Extends w.arena ρ made.2.arena ρ₁ ∧ IsRenamed ρ₁ made.2.arena made.1 made'.1)
      (w.require n complete) (w'.require n complete) := by
  obtain ⟨ρ₁, hrenamed, hextends, hagrees⟩ := h.produce n complete
  rw [Workspace.require, Workspace.require]
  generalize w.produce n complete = produced at hrenamed hextends hagrees
  generalize w'.produce n complete = produced' at hrenamed hagrees
  obtain ⟨result, w₁⟩ := produced
  obtain ⟨result', w₁'⟩ := produced'
  cases hagrees with
  | error d => exact .error d
  | ok ht => exact .ok ⟨ρ₁, hrenamed, hextends, ht⟩

namespace Emission

variable {old : TypeArena} {ρ ρ₁ : Ty → Ty} {d : Declarations} {v w w' : Workspace}
  {e e' : Emission} {t : Ty}

/-- **The second emission is the first with its handles renamed.** -/
structure Renamed (old : TypeArena) (ρ : Ty → Ty) (e e' : Emission) : Prop where
  workspace : Workspace.Renamed old ρ e.workspace e'.workspace
  there : e.unit.Has e.workspace.arena
  unit : e'.unit = e.unit.rename ρ

/-- An emission and its counterpart that came later than the renaming `ρ` of the types of
`a`. -/
def LaterAlike (old : TypeArena) (a : TypeArena) (ρ : Ty → Ty) (e e' : Emission) : Prop :=
  ∃ ρ₁, Renamed old ρ₁ e e' ∧ Extends a ρ e.workspace.arena ρ₁

/-- The unit stays while types are made. -/
theorem Renamed.withWorkspace (he : Renamed old ρ e e') (hw : Workspace.Renamed old ρ₁ w w')
    (hextends : Extends e.workspace.arena ρ w.arena ρ₁) :
    Renamed old ρ₁ { e with workspace := w } { e' with workspace := w' } :=
  ⟨hw, he.there.grows hextends.grows.size_le,
    he.unit.trans (CodeUnit.rename_congr he.there hextends.eq).symm⟩

/-- A step that is taken alike is taken alike later. -/
theorem LaterAlike.step {a : TypeArena} {step step' : Emission → Except Diagnostic Emission}
    (hstep : ∀ ρ e e', Renamed old ρ e e' →
      Agrees (LaterAlike old e.workspace.arena ρ) (step e) (step' e'))
    (he : LaterAlike old a ρ e e') : Agrees (LaterAlike old a ρ) (step e) (step' e') := by
  obtain ⟨ρ₁, he₁, hextends₁⟩ := he
  refine (hstep ρ₁ e e' he₁).imp fun e₂ e₂' hlater => ?_
  obtain ⟨ρ₂, he₂, hextends₂⟩ := hlater
  exact ⟨ρ₂, he₂, hextends₁.trans hextends₂⟩

/-! ### The interface struct -/

theorem checkInterface_rename {a b : TypeArena} (h : old.Renamed ρ a b) (ht : a.Has t)
    (members : List InterfaceVariable) :
    checkInterface b (ρ t) members = checkInterface a t members := by
  rw [checkInterface, checkInterface, h.carried.body? ht]
  cases hbody : a.body? t with
  | none => rfl
  | some body =>
    have hhas := h.founded.has_of_body? hbody
    -- both are looked through for a member that cannot be stored
    have hfind : (((body.map ρ).zip members).find? fun m => !b.isSized m.1) =
        ((body.zip members).find? fun m => !a.isSized m.1).map (Prod.map ρ id) := by
      rw [List.zip_map_left, List.find?_map]
      congr 1
      refine List.find?_congr fun m hm => ?_
      have hm₁ : m.1 ∈ body := (List.of_mem_zip hm).1
      rw [Function.comp_apply, Prod.map_fst, h.carried.isSized (hhas m.1 hm₁)]
    dsimp only [Option.map_some, Option.getD_some]
    rw [hfind]
    cases (body.zip members).find? fun m => !a.isSized m.1 <;> rfl

theorem agrees_layOutInterface (h : Workspace.Renamed old ρ w w') (interface : Option Interface) :
    Agrees (fun made made' => ∃ ρ₁, Workspace.Renamed old ρ₁ made.2 made'.2 ∧
        AreRenamed ρ₁ made.2.arena made.1.toList made'.1.toList)
      (layOutInterface w interface) (layOutInterface w' interface) := by
  cases interface with
  | none => exact .ok ⟨ρ, h, List.forall_mem_nil _, rfl⟩
  | some interface =>
    rw [layOutInterface, layOutInterface]
    refine (h.require interface.node true).bind fun made made' hmade => ?_
    obtain ⟨t, w₁⟩ := made
    obtain ⟨u, w₁'⟩ := made'
    obtain ⟨ρ₁, hrenamed, -, hhas, rfl⟩ := hmade
    dsimp only at hrenamed hhas ⊢
    rw [checkInterface_rename hrenamed.arena hhas]
    refine .bind_same fun _ => ?_
    obtain ⟨ρ₂, harena, hextends, hpointer, heq⟩ := hrenamed.arena.pointer hhas defaultAddressSpace
    refine .ok ⟨ρ₂, hrenamed.withArena harena hextends, ?_, ?_⟩
    · exact List.forall_mem_singleton.mpr hpointer
    · exact congrArg (fun u => [u]) heq

/-! ### Globals -/

theorem Renamed.addGlobal (he : Renamed old ρ e e') (g : ShaderGlobal) :
    Agrees (LaterAlike old e.workspace.arena ρ) (addGlobal d e g)
      (addGlobal { d with workspace := v } e' g) := by
  rw [Emission.addGlobal, Emission.addGlobal,
    he.workspace.bind_node? g.pointerType Node.pointee?_rename]
  split
  · exact .error _
  · rename_i pointee _
    refine (he.workspace.require pointee true).bind fun made made' hmade => ?_
    obtain ⟨t, w₁⟩ := made
    obtain ⟨u, w₁'⟩ := made'
    obtain ⟨ρ₁, hrenamed, hextends, hhas, rfl⟩ := hmade
    have hlater := he.withWorkspace hrenamed hextends
    dsimp only at hhas ⊢
    rw [hrenamed.arena.carried.isSized hhas]
    split
    · exact .error _
    · refine .ok ⟨ρ₁, ⟨hrenamed, hlater.there.addGlobal hhas _ _ _, ?_⟩, hextends⟩
      rw [CodeUnit.rename_addGlobal, ← hlater.unit]
      rfl

theorem LaterAlike.addGlobals {a : TypeArena} (he : LaterAlike old a ρ e e')
    (globals : List ShaderGlobal) :
    Agrees (LaterAlike old a ρ) (globals.foldlM (Emission.addGlobal d) e)
      (globals.foldlM (Emission.addGlobal { d with workspace := v }) e') :=
  .foldlM (fun _ _ he g => he.step fun _ _ _ he => he.addGlobal g) globals he

/-! ### Entry points -/

theorem agrees_addEntryPoints {a : TypeArena} {u : CodeUnit} (hu : u.Has a) (ht : a.Has t)
    (paramNames : List String) (points : List ShaderEntryPoint) :
    Agrees (fun added added' => added'.1 = added.1 ∧ added.2.Has a ∧
        added'.2 = added.2.rename ρ)
      (addEntryPoints d t paramNames u points)
      (addEntryPoints { d with workspace := v } (ρ t) paramNames (u.rename ρ) points) := by
  induction points generalizing u with
  | nil => exact .ok ⟨rfl, hu, rfl⟩
  | cons p points ih =>
    rw [addEntryPoints, addEntryPoints, addEntryPoint, addEntryPoint]
    dsimp only
    split
    · have hlength : (u.rename ρ).functions.length = u.functions.length := List.length_map _
      rw [hlength, ← CodeUnit.rename_addFunction]
      refine (ih (hu.addFunction ht p.name .external paramNames)).bind
        fun added added' hadded => ?_
      obtain ⟨hpoints, hhas, hunit⟩ := hadded
      exact .ok ⟨congrArg (List.cons _) hpoints, hhas, hunit⟩
    · exact .error _

/-! ### Functions -/

theorem findIdx?_congr {α : Type} {p q : α → Bool} {as : List α} (h : ∀ a ∈ as, p a = q a) :
    as.findIdx? p = as.findIdx? q := by
  induction as with
  | nil => rfl
  | cons a as ih =>
    rw [List.findIdx?_cons, List.findIdx?_cons, h a List.mem_cons_self,
      ih fun b hb => h b (List.mem_cons_of_mem _ hb)]

theorem checkFunction_rename {a b : TypeArena} (h : old.Renamed ρ a b) (ht : a.Has t)
    (f : ShaderFunction) : checkFunction b (ρ t) f = checkFunction a t f := by
  obtain ⟨data, hdata⟩ := ht.exists_data?
  have hparts := h.founded.there t data hdata
  rw [checkFunction, checkFunction, hdata, h.data t data hdata]
  cases data with
  | function result params variadic =>
    have hresult := hparts result List.mem_cons_self
    have hvoid : b.data? (ρ result) = some .void ↔ a.data? result = some .void := by
      obtain ⟨e, he⟩ := hresult.exists_data?
      rw [he, h.data result e he]
      cases e <;> simp [TypeData.rename]
    have hfind : ((params.map ρ).findIdx? fun param => !b.isSized param) =
        params.findIdx? fun param => !a.isSized param := by
      rw [List.findIdx?_map]
      refine findIdx?_congr fun param hparam => ?_
      rw [Function.comp_apply, h.carried.isSized (hparts param (List.mem_cons_of_mem _ hparam))]
    dsimp only [TypeData.rename]
    rw [hfind, h.carried.isSized hresult]
    simp only [ne_eq, hvoid]
  | _ => rfl

theorem Renamed.addFunction (he : Renamed old ρ e e') (f : ShaderFunction) :
    Agrees (LaterAlike old e.workspace.arena ρ) (addFunction d e f)
      (addFunction { d with workspace := v } e' f) := by
  refine (he.workspace.require f.type true).bind fun made made' hmade => ?_
  obtain ⟨t, w₁⟩ := made
  obtain ⟨u, w₁'⟩ := made'
  obtain ⟨ρ₁, hrenamed, hextends, hhas, rfl⟩ := hmade
  have hlater := he.withWorkspace hrenamed hextends
  have hargs : ((w₁'.node? f.type).map Node.args).getD [] =
      ((w₁.node? f.type).map Node.args).getD [] := by
    rw [hrenamed.node?, Option.map_map]
    congr 2
    exact funext Node.args_rename
  dsimp only at hhas ⊢
  rw [checkFunction_rename hrenamed.arena hhas, hargs]
  refine .bind_same fun _ => ?_
  split
  · exact .error _
  · refine .ok ⟨ρ₁, ⟨hrenamed, hlater.there.addFunction hhas _ _ _, ?_⟩, hextends⟩
    rw [CodeUnit.rename_addFunction, ← hlater.unit]
    rfl

theorem LaterAlike.addFunctions {a : TypeArena} (he : LaterAlike old a ρ e e')
    (functions : List ShaderFunction) :
    Agrees (LaterAlike old a ρ) (functions.foldlM (Emission.addFunction d) e)
      (functions.foldlM (Emission.addFunction { d with workspace := v }) e') :=
  .foldlM (fun _ _ he f => he.step fun _ _ _ he => he.addFunction f) functions he

end Emission

/-! ### Modules with renamed handles -/

/-- **The second module is the first with its handles renamed.** The types that were there
before the second one are those of `old`. -/
structure LoweredModule.Renamed (old : TypeArena) (ρ : Ty → Ty) (m m' : LoweredModule) : Prop where
  /-- Different types of the first module have different handles in the second. -/
  injective : ∀ t u, m.workspace.arena.Has t → m.workspace.arena.Has u → ρ t = ρ u → t = u
  /-- The types are made alike. -/
  data : ∀ t d, m.workspace.arena.data? t = some d →
    m'.workspace.arena.data? (ρ t) = some (d.rename ρ)
  /-- The new structs are made in the same order. -/
  structs : m'.workspace.arena.structs = old.structs ++ m.workspace.arena.structs.map ρ
  /-- The nodes hold types that are made alike. -/
  nodes : m'.workspace.graph.nodes = m.workspace.graph.nodes.map (Node.rename ρ)
  /-- The globals and functions have types of the first module. -/
  there : m.unit.Has m.workspace.arena
  /-- The globals and functions are the same but for their types. -/
  unit : m'.unit = m.unit.rename ρ
  entryPoints : m'.entryPoints = m.entryPoints
  interfaceStruct : m'.interfaceStruct = m.interfaceStruct
  /-- The types of structs have bodies that are made alike, among them the interface struct. -/
  bodies : ∀ n t, m.workspace.structType? n = some t →
    m'.workspace.structType? n = some (ρ t) ∧
      m'.workspace.arena.body? (ρ t) = (m.workspace.arena.body? t).map (List.map ρ)
  /-- The same types can be stored. -/
  sized : ∀ t, m.workspace.arena.Has t →
    m'.workspace.arena.isSized (ρ t) = m.workspace.arena.isSized t
  /-- The types read the same. -/
  texts : ∀ t, m.workspace.arena.Has t →
    m'.workspace.arena.text (ρ t) = m.workspace.arena.text t
  /-- The globals read the same. -/
  globalTexts : m'.unit.globals.map (GlobalDecl.text m'.workspace.arena) =
    m.unit.globals.map (GlobalDecl.text m.workspace.arena)
  /-- The functions read the same. -/
  functionTexts : m'.unit.functions.map (FunctionDecl.text m'.workspace.arena) =
    m.unit.functions.map (FunctionDecl.text m.workspace.arena)
  /-- The definitions of the new structs read the same. -/
  definitions : (m'.workspace.arena.structs.drop old.structs.length).map
      m'.workspace.arena.definitionText =
    m.workspace.arena.structs.map m.workspace.arena.definitionText

theorem Workspace.Renamed.structType? {old : TypeArena} {ρ : Ty → Ty} {w w' : Workspace}
    (h : Workspace.Renamed old ρ w w') {n : NodeId} {t : Ty} (ht : w.structType? n = some t) :
    w'.structType? n = some (ρ t) ∧ w.arena.Has t := by
  obtain ⟨layout, hs⟩ := structType?_eq_some_iff.mp ht
  obtain ⟨node, hn, hshape⟩ := Option.map_eq_some_iff.mp hs
  refine ⟨structType?_eq_some_iff.mpr ⟨layout, ?_⟩, h.there n node hn t ?_⟩
  · rw [shape?, h.node?, hn, Option.map_some, Option.map_some, Node.rename, hshape]
    rfl
  · rw [hshape]
    exact List.mem_cons_self

/-- Emissions that are alike make modules that are alike. -/
theorem Emission.Renamed.module {old : TypeArena} {ρ : Ty → Ty} {e e' : Emission}
    (he : Renamed old ρ e e') (entryPoints : List EntryPoint) (interfaceStruct : Option NodeId) :
    LoweredModule.Renamed old ρ
      { unit := e.unit, entryPoints, interfaceStruct, workspace := e.workspace.detachAll }
      { unit := e'.unit, entryPoints, interfaceStruct, workspace := e'.workspace.detachAll } := by
  have hw := he.workspace.detachAll
  have harena : old.Renamed ρ e.workspace.arena e'.workspace.arena := he.workspace.arena
  have hstructs (t : Ty) (ht : t ∈ e.workspace.arena.structs) : e.workspace.arena.Has t := by
    obtain ⟨index, hindex, rfl⟩ := List.mem_map.mp (List.mem_of_mem_filter ht)
    exact List.mem_range.mp hindex
  exact
    { injective := harena.injective
      data := harena.data
      structs := harena.structs
      nodes := hw.nodes
      there := he.there
      unit := he.unit
      entryPoints := rfl
      interfaceStruct := rfl
      bodies := fun n t ht => by
        obtain ⟨ht', hhas⟩ := hw.structType? ht
        exact ⟨ht', harena.carried.body? hhas⟩
      sized := fun t ht => harena.carried.isSized ht
      texts := fun t ht => harena.carried.text ht
      globalTexts := by
        dsimp only [Workspace.detachAll]
        rw [he.unit, CodeUnit.rename, List.map_map]
        exact List.map_congr_left fun g hg => g.text_rename harena (he.there.2 g hg)
      functionTexts := by
        dsimp only [Workspace.detachAll]
        rw [he.unit, CodeUnit.rename, List.map_map]
        exact List.map_congr_left fun f hf => f.text_rename harena (he.there.1 f hf)
      definitions := by
        dsimp only [Workspace.detachAll]
        rw [harena.structs, List.drop_left, List.map_map]
        exact List.map_congr_left fun t ht => harena.carried.definitionText (hstructs t ht) }

open Emission in
/-- **What was declared alike is emitted alike.** -/
theorem Declarations.Alike.emit {old : TypeArena} {d d' : Declarations} (h : d.Alike old d')
    (name : String) :
    Agrees (fun m m' => ∃ ρ, Workspace.Renamed old ρ m.workspace m'.workspace ∧
      LoweredModule.Renamed old ρ m m') (d.emit name) (d'.emit name) := by
  obtain ⟨ρ₀, w', h, rfl⟩ := h
  rw [Declarations.emit, Declarations.emit]
  dsimp only
  split
  · exact .error _
  · refine (agrees_layOutInterface h d.interface).bind fun made made' hmade => ?_
    obtain ⟨pointer, w₁⟩ := made
    obtain ⟨pointer', w₁'⟩ := made'
    obtain ⟨ρ₁, hw₁, hpointer⟩ := hmade
    dsimp only at hw₁ hpointer ⊢
    have hstart : Emission.Renamed old ρ₁ { workspace := w₁, unit := { name } }
        { workspace := w₁', unit := { name } } :=
      ⟨hw₁, ⟨List.forall_mem_nil _, List.forall_mem_nil _⟩, rfl⟩
    have hglobals := LaterAlike.addGlobals (d := d) (v := w')
      ⟨ρ₁, hstart, .refl w₁.arena ρ₁⟩ d.globals
    refine hglobals.bind fun e e' hlater => ?_
    obtain ⟨ρ₂, he, hextends₂⟩ := hlater
    -- the types of nothing and of wrappers are made
    obtain ⟨ρ₃, harena₃, hextends₃, hvoid, hvoid'⟩ := he.workspace.arena.void
    have hpointer₃ := (hpointer.extends hextends₂).extends hextends₃
    obtain ⟨ρ₄, harena₄, hextends₄, hwrapper, hwrapper'⟩ :=
      harena₃.function hvoid hpointer₃.1 false
    rw [← hvoid', ← hpointer₃.2] at hwrapper' harena₄
    have hextends := hextends₃.trans hextends₄
    have he₄ := he.withWorkspace (he.workspace.withArena harena₄ hextends) hextends
    have hparamNames : (pointer'.toList.map fun _ => interfaceStructName) =
        pointer.toList.map fun _ => interfaceStructName := by
      rw [hpointer.2, List.map_map]
      rfl
    rw [hparamNames, hwrapper', he₄.unit]
    refine (agrees_addEntryPoints he₄.there hwrapper _ d.entryPoints).bind
      fun added added' hadded => ?_
    obtain ⟨entryPoints, unit⟩ := added
    obtain ⟨entryPoints', unit'⟩ := added'
    obtain ⟨hpoints, hhas, hunit⟩ := hadded
    dsimp only at hpoints hhas hunit ⊢
    rw [hpoints, hunit]
    have hwrappers : Emission.LaterAlike old _ ρ₄ { workspace := _, unit }
        { workspace := _, unit := unit.rename ρ₄ } :=
      ⟨ρ₄, ⟨he₄.workspace, hhas, rfl⟩, .refl _ ρ₄⟩
    refine (hwrappers.addFunctions d.functions).bind fun e₁ e₁' hlater => ?_
    obtain ⟨ρ₅, he₅, -⟩ := hlater
    exact .ok ⟨ρ₅, he₅.workspace.detachAll, he₅.module entryPoints _⟩

/-! ### Arenas that come about -/

/-- **The nodes hold types that are there**, and those of structs hold structs. -/
structure Workspace.Grounded (w : Workspace) : Prop where
  there : ∀ n node, w.node? n = some node → ∀ t ∈ node.shape.types, w.arena.Has t
  struct : ∀ n node t layout, w.node? n = some node → node.shape = .struct t layout →
    ∃ data, w.arena.data? t = some (.struct data)

/-- The types that an action names. -/
def Action.handles : Action → List Ty
  | .arena action => action.handles
  | .addSimple type _ => [type]
  | _ => []

/-- **The arenas that come about**, starting with the empty one: something is asked of the
types themselves, or of nodes that hold them, or a shader is lowered. Only types of the
arena are named. A lowering that fails leaves what the actions it took before have made. -/
inductive TypeArena.Reachable : TypeArena → Prop
  /-- There are no types to begin with. -/
  | empty : Reachable {}
  /-- An action is taken in a workspace. -/
  | acted {w : Workspace} {action : Action} (h : w.arena.Reachable) (hw : w.Grounded)
      (hhandles : ∀ t ∈ action.handles, w.arena.Has t) : (w.perform action).arena.Reachable
  /-- A shader is lowered. -/
  | lowered {a : TypeArena} {shader : ShaderModule} {name : String} {m : LoweredModule}
      (h : a.Reachable) (hm : lower a shader name = .ok m) : m.workspace.arena.Reachable

namespace Workspace

/-- A workspace is its own counterpart. -/
theorem Grounded.renamed {w : Workspace} (hw : w.Grounded) (hfounded : w.arena.Founded)
    (huniqued : w.arena.Uniqued) : Workspace.Renamed {} (fun t => t) w w := by
  have hnode (node : Node) : node.rename (fun t => t) = node := by
    obtain ⟨start, guard, shape⟩ := node
    cases shape <;> simp [Node.rename, Shape.rename]
  refine ⟨⟨hfounded, huniqued, hfounded, huniqued, fun _ _ _ _ h => h, fun t d h => ?_, ?_⟩, ?_,
    hw.there, hw.struct⟩
  · rw [TypeData.rename_id, h]
  · rw [List.map_id']
    rfl
  · rw [funext hnode, Array.map_id']

/-- Actions keep what makes arenas interchangeable. -/
theorem Grounded.sound_perform {w : Workspace} (hw : w.Grounded) (hfounded : w.arena.Founded)
    (huniqued : w.arena.Uniqued) {action : Action}
    (hhandles : ∀ t ∈ action.handles, w.arena.Has t) :
    (w.perform action).arena.Founded ∧ (w.perform action).arena.Uniqued := by
  have hperforms := w.performs action
  generalize w.perform action = w' at hperforms
  rcases hperforms with _ | a | _ | ⟨name, members, start⟩ | _ | _ | ⟨n, complete⟩
  · exact ⟨hfounded, huniqued⟩
  · exact ⟨hfounded.perform hhandles, huniqued.perform a⟩
  · exact ⟨hfounded, huniqued⟩
  · exact ⟨hfounded.push (List.forall_mem_nil _), huniqued.push False.elim⟩
  · exact ⟨hfounded, huniqued⟩
  · exact ⟨hfounded, huniqued⟩
  · obtain ⟨ρ₁, hrenamed, -⟩ := (hw.renamed hfounded huniqued).produce n complete
    exact ⟨hrenamed.arena.founded, hrenamed.arena.uniqued⟩

end Workspace

/-- A shader is lowered alike in an arena whose types are made of earlier ones and unique
where they are structural. -/
theorem agrees_lower {a : TypeArena} (hfounded : a.Founded) (huniqued : a.Uniqued)
    (shader : ShaderModule) (name : String) :
    Agrees (fun m m' => ∃ ρ, Workspace.Renamed a ρ m.workspace m'.workspace ∧
      LoweredModule.Renamed a ρ m m') (lower {} shader name) (lower a shader name) :=
  (Declarations.alike_ofInstructions hfounded huniqued shader.instructions).bind
    fun _ _ h => h.emit name

theorem Workspace.grounded_ofArena (a : TypeArena) : ({ arena := a } : Workspace).Grounded :=
  ⟨fun n node h => by simp [node?] at h, fun n node t layout h => by simp [node?] at h⟩

/-- Something is asked of the types themselves. -/
theorem TypeArena.Reachable.perform {a : TypeArena} (h : a.Reachable) {action : TypeAction}
    (hhandles : ∀ t ∈ action.handles, a.Has t) : (a.perform action).Reachable := by
  have hperform : ({ arena := a } : Workspace).perform (.arena action) =
      { arena := a.perform action } := if_pos (List.forall_mem_nil _)
  have hacted : (({ arena := a } : Workspace).perform (.arena action)).arena.Reachable :=
    .acted h (Workspace.grounded_ofArena a) hhandles
  rwa [hperform] at hacted

/-- **In the arenas that come about** types are made of earlier ones, and structural types
are unique. -/
theorem TypeArena.Reachable.sound {a : TypeArena} (h : a.Reachable) :
    a.Founded ∧ a.Uniqued := by
  induction h with
  | empty => exact ⟨founded_empty, uniqued_empty⟩
  | acted _ hw hhandles ih => exact hw.sound_perform ih.1 ih.2 hhandles
  | @lowered a shader name m _ hm ih =>
    have hagrees := agrees_lower ih.1 ih.2 shader name
    rw [hm] at hagrees
    generalize lower {} shader name = fresh at hagrees
    cases hagrees with
    | ok h =>
      obtain ⟨ρ, hw, -⟩ := h
      exact ⟨hw.arena.founded', hw.arena.uniqued'⟩

/-- **A shader is lowered alike in any arena.** Whatever was done to an arena before, a
shader is lowered in it as in an empty one: the same is reported, or the same is made with
other handles, and reads the same. -/
theorem lower_renamed {a : TypeArena} (ha : a.Reachable) (shader : ShaderModule)
    (name : String) :
    Agrees (fun m m' => ∃ ρ, LoweredModule.Renamed a ρ m m') (lower {} shader name)
      (lower a shader name) :=
  (agrees_lower ha.sound.1 ha.sound.2 shader name).imp fun _ _ h => by
    obtain ⟨ρ, -, hm⟩ := h
    exact ⟨ρ, hm⟩

/-- A shader with an input and a global, lowered where there is a struct and a type that
the shader uses. -/
theorem lower_renamed_used :
    let instructions : List Instruction :=
      [⟨19, [1], 5, 7⟩, ⟨22, [2, 32], 7, 10⟩, ⟨32, [3, 1, 2], 10, 14⟩,
        ⟨32, [4, 6, 2], 14, 18⟩, ⟨59, [3, 5, 1], 18, 22⟩, ⟨59, [4, 6, 6], 22, 26⟩]
    let shader : ShaderModule := ⟨⟨1, 0, 0, 10⟩, instructions⟩
    let used : TypeArena := (({} : TypeArena).perform (.struct "s")).perform (.float 32)
    ∃ m m' ρ, lower {} shader "unit" = .ok m ∧ lower used shader "unit" = .ok m' ∧
      m.unit.globals.map GlobalDecl.type = [⟨1⟩] ∧ LoweredModule.Renamed used ρ m m' := by
  intro instructions shader used
  have hused : used.Reachable :=
    (TypeArena.Reachable.empty.perform (List.forall_mem_nil _)).perform (List.forall_mem_nil _)
  have hglobals : (lower {} shader "unit").toOption.map
      (fun m => m.unit.globals.map GlobalDecl.type) = some [⟨1⟩] := by
    decide +kernel
  have hagrees := lower_renamed hused shader "unit"
  generalize lower {} shader "unit" = fresh at hglobals hagrees ⊢
  generalize lower used shader "unit" = other at hagrees ⊢
  cases hagrees with
  | error d => exact absurd hglobals (by simp [Except.toOption])
  | @ok m m' h =>
    obtain ⟨ρ, hm⟩ := h
    exact ⟨m, m', ρ, rfl, rfl, Option.some.inj hglobals, hm⟩

end ShaderLowering
