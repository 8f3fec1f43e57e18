import ShaderLowering.Proofs.Lowering.Emitted
import ShaderLowering.Proofs.Target.Symbols

/-!
# The symbols of wrappers

A unit is put together by additions in a fixed order: the globals, a wrapper for each
entry point, the functions (`Declarations.PutsTogether`). All of them draw on one record of
symbols. A wrapper asks for the name of its entry point. What can keep the name from it is
only what was added before: wrappers of earlier entry points, and globals, which may be
called like an entry point by a debug name, by the name a global without one gets, or by a
suffix that an earlier clash gave them. Functions come later and make way
(`lower_wrapper_symbol`).
-/

namespace ShaderLowering

variable {d : Declarations}

namespace Emission

variable {e e' : Emission} {type : Ty} {paramNames : List String}

/-- The addition of the wrapper of an entry point. -/
def wrapperAddition (type : Ty) (paramNames : List String) (p : ShaderEntryPoint) : Addition :=
  .function p.name type .external paramNames

/-- The addition is that of a global. -/
def AddsGlobal (d : Declarations) (g : ShaderGlobal) (a : Addition) : Prop :=
  ∃ type, a = .global (d.nameOf g.id s!"global_{g.id}") type defaultAddressSpace
    (globalLinkage g.storage)

/-- The addition is that of a function. -/
def AddsFunction (d : Declarations) (f : ShaderFunction) (a : Addition) : Prop :=
  ∃ type, a = .function (d.nameOf f.id s!"function_{f.id}") type .internal
    (f.parameters.mapIdx fun index id => d.nameOf id s!"param_{index}")

theorem unit_of_addGlobal {g : ShaderGlobal} (h : addGlobal d e g = .ok e') :
    ∃ a, AddsGlobal d g a ∧ e'.unit = e.unit.add a := by
  rw [addGlobal] at h
  split at h
  · exact absurd h (by simp)
  · obtain ⟨⟨t, w⟩, -, h⟩ := of_bind_eq_ok h
    dsimp only at h
    split at h
    · exact absurd h (by simp)
    · rw [← Except.ok.inj h]
      exact ⟨_, ⟨t, rfl⟩, rfl⟩

theorem unit_of_addFunction {f : ShaderFunction} (h : addFunction d e f = .ok e') :
    ∃ a, AddsFunction d f a ∧ e'.unit = e.unit.add a := by
  obtain ⟨⟨t, w⟩, -, h⟩ := of_bind_eq_ok h
  obtain ⟨_, -, h⟩ := of_bind_eq_ok h
  dsimp only at h
  split at h
  · exact absurd h (by simp)
  · rw [← Except.ok.inj h]
    exact ⟨_, ⟨t, rfl⟩, rfl⟩

/-- A fold of steps that add one thing each adds one thing for each member of the list. -/
theorem unit_of_foldlM {α : Type} {step : Emission → α → Except Diagnostic Emission}
    {Adds : α → Addition → Prop} (hstep : ∀ e x e', step e x = .ok e' →
      ∃ a, Adds x a ∧ e'.unit = e.unit.add a)
    {xs : List α} (h : xs.foldlM step e = .ok e') :
    ∃ additions : List Addition, List.Forall₂ Adds xs additions ∧
      e'.unit = e.unit.addAll additions := by
  induction xs generalizing e with
  | nil =>
    rw [List.foldlM_nil] at h
    exact ⟨[], .nil, by rw [← Except.ok.inj h]; rfl⟩
  | cons x xs ih =>
    rw [List.foldlM_cons] at h
    obtain ⟨e₁, hx, hrest⟩ := of_bind_eq_ok h
    obtain ⟨a, ha, hunit₁⟩ := hstep e x e₁ hx
    obtain ⟨additions, hadds, hunit⟩ := ih hrest
    refine ⟨a :: additions, .cons ha hadds, ?_⟩
    rw [hunit, hunit₁]
    rfl

theorem unit_of_addEntryPoints {unit unit' : CodeUnit} {points : List ShaderEntryPoint}
    {entryPoints : List EntryPoint}
    (h : addEntryPoints d type paramNames unit points = .ok (entryPoints, unit')) :
    unit' = unit.addAll (points.map (wrapperAddition type paramNames)) := by
  induction points generalizing unit entryPoints with
  | nil => exact (Prod.mk.inj (Except.ok.inj h)).2.symm
  | cons p points ih =>
    rw [addEntryPoints] at h
    obtain ⟨⟨entryPoint, unit₁⟩, hfirst, h⟩ := of_bind_eq_ok h
    obtain ⟨⟨entryPoints', unit₂⟩, hrest, h⟩ := of_bind_eq_ok h
    obtain ⟨-, rfl⟩ := Prod.mk.inj (Except.ok.inj h)
    rw [Emission.addEntryPoint] at hfirst
    split at hfirst
    · obtain ⟨-, rfl⟩ := Prod.mk.inj (Except.ok.inj hfirst)
      exact ih hrest
    · exact absurd hfirst (by simp)

end Emission

open Emission

/-- There is a pointer to the interface struct if, and only if, there is an interface. -/
theorem isSome_of_layOutInterface {w w' : Workspace} {pointer : Option Ty}
    (h : layOutInterface w d.interface = .ok (pointer, w')) :
    pointer.isSome = d.interface.isSome := by
  cases hf : d.interface with
  | none =>
    rw [hf] at h
    obtain ⟨rfl, -⟩ := Prod.mk.inj (Except.ok.inj h)
    rfl
  | some f =>
    rw [hf] at h
    obtain ⟨⟨t, w₁⟩, -, h⟩ := of_bind_eq_ok h
    obtain ⟨_, -, h⟩ := of_bind_eq_ok h
    obtain ⟨rfl, -⟩ := Prod.mk.inj (Except.ok.inj h)
    rfl

/-- What the parameters of wrappers are called. -/
def Declarations.wrapperParamNames (d : Declarations) : List String :=
  if d.interface.isSome then [interfaceStructName] else []

/-- **The order of the additions**: globals, then the wrappers of the entry points, whose
places are those of their entry points, then functions. -/
structure Declarations.PutsTogether (d : Declarations) (name : String) (unit : CodeUnit)
    (gs ws fs : List Addition) : Prop where
  globals : List.Forall₂ (AddsGlobal d) d.globals gs
  wrappers : ∃ type, ws = d.entryPoints.map (wrapperAddition type d.wrapperParamNames)
  functions : List.Forall₂ (AddsFunction d) d.functions fs
  puts : unit = CodeUnit.addAll { name } (gs ++ (ws ++ fs))

namespace Declarations

variable {name : String} {m : LoweredModule} {unit : CodeUnit}
  {globals wrappers functions : List Addition}

theorem PutsTogether.isGlobal (h : d.PutsTogether name unit globals wrappers functions) :
    ∀ a ∈ globals, a.isGlobal = true := fun a ha => by
  obtain ⟨g, -, type, rfl⟩ := exists_of_forall₂_right h.globals ha
  rfl

theorem PutsTogether.isFunction (h : d.PutsTogether name unit globals wrappers functions) :
    ∀ a ∈ wrappers ++ functions, a.isGlobal = false := fun a ha => by
  rcases List.mem_append.mp ha with ha | ha
  · obtain ⟨type, htype⟩ := h.wrappers
    rw [htype] at ha
    obtain ⟨p, -, rfl⟩ := List.mem_map.mp ha
    rfl
  · obtain ⟨f, -, type, rfl⟩ := exists_of_forall₂_right h.functions ha
    rfl

theorem putsTogether_of_emit (h : d.emit name = .ok m) :
    (∃ globals wrappers functions, d.PutsTogether name m.unit globals wrappers functions) ∧
    List.Forall₂ d.EmitsEntryPoint d.entryPoints m.entryPoints ∧
    ∀ (k : Nat) (e : EntryPoint), m.entryPoints[k]? = some e → e.wrapper = k := by
  rw [Declarations.emit] at h
  split at h
  · exact absurd h (by simp)
  · obtain ⟨⟨pointer, w⟩, hlayout, h⟩ := of_bind_eq_ok h
    obtain ⟨e₁, hglobals, h⟩ := of_bind_eq_ok h
    dsimp only at hglobals h
    obtain ⟨⟨entryPoints, unit⟩, hentries, h⟩ := of_bind_eq_ok h
    obtain ⟨e, hfunctions, h⟩ := of_bind_eq_ok h
    rw [← Except.ok.inj h]
    obtain ⟨globals, hadds, hunit₁⟩ :=
      unit_of_foldlM (fun _ _ _ hstep => unit_of_addGlobal hstep) hglobals
    obtain ⟨functions, hadds', hunit⟩ :=
      unit_of_foldlM (fun _ _ _ hstep => unit_of_addFunction hstep) hfunctions
    obtain ⟨hpoints, hnumbers, -⟩ := of_addEntryPoints hentries
    have hparamNames : (pointer.toList.map fun _ => interfaceStructName) =
        d.wrapperParamNames := by
      rw [wrapperParamNames, ← isSome_of_layOutInterface hlayout]
      cases pointer <;> rfl
    rw [unit_of_addEntryPoints hentries, hunit₁, ← CodeUnit.addAll_append,
      ← CodeUnit.addAll_append, hparamNames] at hunit
    have hputs : d.PutsTogether name e.unit globals _ functions :=
      ⟨hadds, ⟨_, rfl⟩, hadds', hunit⟩
    refine ⟨⟨globals, _, functions, hputs⟩, hpoints, fun k e he => ?_⟩
    rw [hnumbers k e he, hunit₁, (CodeUnit.functions_addAll hputs.isGlobal).1, List.length_nil,
      Nat.zero_add]

/-- A wrapper gets what the name of its entry point gets from the functions before it and the
globals of the unit. -/
theorem exists_wrapper (h : d.emit name = .ok m) {k : Nat} {e : EntryPoint}
    (he : m.entryPoints[k]? = some e) :
    ∃ f, m.unit.functions[k]? = some f ∧ f.linkage = .external ∧
      f.paramNames = d.wrapperParamNames ∧
      IsSymbolFor ((m.unit.functions.take k).map FunctionDecl.name ++
        m.unit.globals.map GlobalDecl.name) e.name f.name := by
  obtain ⟨⟨globals, wrappers, functions, hputs⟩, hpoints, -⟩ := putsTogether_of_emit h
  obtain ⟨type, hwrappers⟩ := hputs.wrappers
  obtain ⟨hk, rfl⟩ := List.getElem?_eq_some_iff.mp he
  have hk' : k < d.entryPoints.length := hpoints.length_eq ▸ hk
  have hname : m.entryPoints[k].name = d.entryPoints[k].name := (hpoints.get hk' hk).name
  have hadded : (wrappers ++ functions)[k]? = some (wrapperAddition type d.wrapperParamNames
      d.entryPoints[k]) := by
    rw [List.getElem?_append_left (by rwa [hwrappers, List.length_map]), hwrappers,
      List.getElem?_map, List.getElem?_eq_getElem hk', Option.map_some]
  obtain ⟨symbol, hf, hsymbol⟩ :=
    CodeUnit.exists_function hputs.isGlobal hputs.isFunction hadded hputs.puts
  exact ⟨_, hf, rfl, rfl, hname ▸ hsymbol⟩

/-- The `k`th global gets what its last name, or else one made of its id, gets from the globals
before it. -/
theorem exists_global (h : d.emit name = .ok m) {k : Nat} {g : ShaderGlobal}
    (hg : d.globals[k]? = some g) :
    ∃ decl, m.unit.globals[k]? = some decl ∧
      IsSymbolFor ((m.unit.globals.take k).map GlobalDecl.name)
        (d.nameOf g.id s!"global_{g.id}") decl.name := by
  obtain ⟨⟨globals, wrappers, functions, hputs⟩, -⟩ := putsTogether_of_emit h
  obtain ⟨a, ha, type, rfl⟩ := exists_getElem?_of_forall₂ hputs.globals hg
  obtain ⟨symbol, hdecl, hsymbol⟩ := CodeUnit.exists_global hputs.isGlobal ha hputs.puts
  exact ⟨_, hdecl, hsymbol⟩

/-- The `k`th function stands behind the wrappers, and gets what its last name, or else one made
of its id, gets from the functions before it and the globals. -/
theorem exists_function (h : d.emit name = .ok m) {k : Nat} {f : ShaderFunction}
    (hf : d.functions[k]? = some f) :
    ∃ decl, m.unit.functions[m.entryPoints.length + k]? = some decl ∧
      IsSymbolFor ((m.unit.functions.take (m.entryPoints.length + k)).map FunctionDecl.name ++
        m.unit.globals.map GlobalDecl.name) (d.nameOf f.id s!"function_{f.id}") decl.name := by
  obtain ⟨⟨globals, wrappers, functions, hputs⟩, hpoints, -⟩ := putsTogether_of_emit h
  obtain ⟨type, hwrappers⟩ := hputs.wrappers
  obtain ⟨a, ha, type', rfl⟩ := exists_getElem?_of_forall₂ hputs.functions hf
  have hlength : wrappers.length = m.entryPoints.length := by
    rw [hwrappers, List.length_map, hpoints.length_eq]
  have hadded : (wrappers ++ functions)[m.entryPoints.length + k]? = functions[k]? := by
    rw [← hlength, List.getElem?_append_right (Nat.le_add_right _ _), Nat.add_sub_cancel_left]
  obtain ⟨symbol, hdecl, hsymbol⟩ :=
    CodeUnit.exists_function hputs.isGlobal hputs.isFunction (hadded.trans ha) hputs.puts
  exact ⟨_, hdecl, hsymbol⟩

end Declarations

/-- **The symbol of a wrapper** is what the name of its entry point gets where the wrappers of
earlier entry points and the globals of the unit are what there is to clash with. So it is
that very name if, and only if, no global and no earlier wrapper is called so. -/
theorem lower_wrapper_symbol {arena : TypeArena} {shader : ShaderModule} {name : String}
    {m : LoweredModule} (h : lower arena shader name = .ok m) {k : Nat} {e : EntryPoint}
    (he : m.entryPoints[k]? = some e) :
    ∃ f, m.unit.functions[e.wrapper]? = some f ∧
      IsSymbolFor ((m.unit.functions.take k).map FunctionDecl.name ++
        m.unit.globals.map GlobalDecl.name) e.name f.name ∧
      (f.name = e.name ↔ (∀ g ∈ m.unit.globals, g.name ≠ e.name) ∧
        ∀ (j : Nat) (e' : EntryPoint) (f' : FunctionDecl), j < k →
          m.entryPoints[j]? = some e' → m.unit.functions[e'.wrapper]? = some f' →
          f'.name ≠ e.name) := by
  obtain ⟨d, -, hemit⟩ := of_bind_eq_ok h
  obtain ⟨-, -, hnumbers⟩ := Declarations.putsTogether_of_emit hemit
  obtain ⟨f, hf, -, -, hsymbol⟩ := Declarations.exists_wrapper hemit he
  refine ⟨f, by rwa [hnumbers k e he], hsymbol, hsymbol.eq_iff.trans ?_⟩
  have hearlier : e.name ∉ (m.unit.functions.take k).map FunctionDecl.name ↔
      ∀ (j : Nat) (e' : EntryPoint) (f' : FunctionDecl), j < k →
        m.entryPoints[j]? = some e' → m.unit.functions[e'.wrapper]? = some f' →
        f'.name ≠ e.name := by
    constructor
    · intro hnot j e' f' hj he' hf' hname
      rw [hnumbers j e' he', ← List.getElem?_take_of_lt hj] at hf'
      exact hnot (List.mem_map.mpr ⟨f', List.mem_of_getElem? hf', hname⟩)
    · intro hnone hmem
      obtain ⟨f', hf', hname⟩ := List.mem_map.mp hmem
      obtain ⟨j, hj⟩ := List.mem_iff_getElem?.mp hf'
      rw [List.getElem?_take] at hj
      split at hj
      · rename_i hjk
        obtain ⟨hk, -⟩ := List.getElem?_eq_some_iff.mp he
        have he' := List.getElem?_eq_getElem (Nat.lt_trans hjk hk)
        exact hnone j _ f' hjk he' (by rwa [hnumbers j _ he']) hname
      · exact nomatch hj
  have hglobals : e.name ∉ m.unit.globals.map GlobalDecl.name ↔
      ∀ g ∈ m.unit.globals, g.name ≠ e.name := by
    simp only [List.mem_map, not_exists, not_and, ne_eq]
  rw [List.mem_append, not_or, hearlier, hglobals, and_comm]

/-- Two entry points called `main`, and a global called `main.1`: the first wrapper is called
`main`, since the global is not. -/
theorem lower_wrapper_symbol_main :
    let instructions : List Instruction :=
      [⟨15, [5, 4, 0x6e69616d, 0], 5, 10⟩, ⟨15, [0, 4, 0x6e69616d, 0], 10, 15⟩,
        ⟨5, [6, 0x6e69616d, 0x312e], 15, 19⟩, ⟨19, [2], 19, 21⟩, ⟨22, [1, 32], 21, 24⟩,
        ⟨32, [5, 6, 1], 24, 28⟩, ⟨59, [5, 6, 6], 28, 32⟩, ⟨33, [3, 2], 32, 35⟩,
        ⟨54, [2, 4, 0, 3], 35, 40⟩, ⟨56, [], 40, 41⟩]
    ∃ m e f, lower {} ⟨⟨1, 0, 0, 10⟩, instructions⟩ "unit" = .ok m ∧
      m.unit.functions.map FunctionDecl.name = ["main", "main.2", "function_4"] ∧
      m.entryPoints[0]? = some e ∧ m.unit.functions[e.wrapper]? = some f ∧ f.name = e.name := by
  intro instructions
  have hrun : (lower {} ⟨⟨1, 0, 0, 10⟩, instructions⟩ "unit").toOption.map
      (fun m => (m.unit.functions.map FunctionDecl.name, m.entryPoints[0]?.map EntryPoint.name,
        m.unit.globals.map GlobalDecl.name)) =
      some (["main", "main.2", "function_4"], some "main", ["main.1"]) := by
    decide +kernel
  obtain ⟨m, h, hm⟩ := of_toOption_map_eq_some hrun
  simp only [Prod.mk.injEq] at hm
  obtain ⟨hfunctions, hentry, hglobals⟩ := hm
  obtain ⟨e, he, hname⟩ := Option.map_eq_some_iff.mp hentry
  obtain ⟨f, hf, -, hiff⟩ := lower_wrapper_symbol h he
  refine ⟨m, e, f, h, hfunctions, he, hf, hiff.mpr ⟨fun g hg => ?_, fun j e' f' hj => nomatch hj⟩⟩
  have hmem := List.mem_map_of_mem (f := GlobalDecl.name) hg
  rw [hglobals, List.mem_singleton] at hmem
  rw [hmem, hname]
  decide

/-- A global called like an entry point is added before the wrapper and keeps the name from
it, though no earlier wrapper has it. -/
theorem lower_wrapper_after_global :
    let instructions : List Instruction :=
      [⟨15, [5, 4, 0x6e69616d, 0], 5, 10⟩, ⟨5, [6, 0x6e69616d, 0], 10, 14⟩, ⟨19, [2], 14, 16⟩,
        ⟨22, [1, 32], 16, 19⟩, ⟨32, [5, 6, 1], 19, 23⟩, ⟨59, [5, 6, 6], 23, 27⟩,
        ⟨33, [3, 2], 27, 30⟩, ⟨54, [2, 4, 0, 3], 30, 35⟩, ⟨56, [], 35, 36⟩]
    ∃ m e f, lower {} ⟨⟨1, 0, 0, 10⟩, instructions⟩ "unit" = .ok m ∧
      m.entryPoints = [e] ∧ m.unit.functions[e.wrapper]? = some f ∧
      e.name = "main" ∧ f.name = "main.1" ∧ m.unit.globals.map GlobalDecl.name = ["main"] := by
  intro instructions
  have hrun : (lower {} ⟨⟨1, 0, 0, 10⟩, instructions⟩ "unit").toOption.map
      (fun m => (m.entryPoints.map fun e => (e.name, m.unit.functions[e.wrapper]?.map
        FunctionDecl.name), m.unit.globals.map GlobalDecl.name)) =
      some ([("main", some "main.1")], ["main"]) := by
    decide +kernel
  obtain ⟨m, h, hm⟩ := of_toOption_map_eq_some hrun
  obtain ⟨hentries, hglobals⟩ := Prod.mk.inj hm
  obtain ⟨e, hm', he⟩ := List.map_eq_singleton_iff.mp hentries
  obtain ⟨hname, hfunction⟩ := Prod.mk.inj he
  obtain ⟨f, hf, hfname⟩ := Option.map_eq_some_iff.mp hfunction
  exact ⟨m, e, f, h, hm', hf, hname, hfname, hglobals⟩

end ShaderLowering
