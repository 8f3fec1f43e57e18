import ShaderLowering.Lowering.InterfaceListing
import ShaderLowering.Proofs.Lowering.WalkEmbedding

/-!
# The unit does not see the numbers of nodes

Declarations that are found in others are emitted like these
(`ShaderLowering.Declarations.Embeds.emit`): either both are refused, or the units are one, and
so are the types made for them. What is left over of the numbers is that the interface struct
goes by the number that stands for its own (`ShaderLowering.LoweredModule.SameUpTo`).
-/

namespace ShaderLowering

/-- The entry point with its interface struct under another number. -/
def EntryPoint.relocate (σ : NodeId → NodeId) (e : EntryPoint) : EntryPoint :=
  { e with interfaceStruct := e.interfaceStruct.map σ }

/-- **Two lowered shaders are the same but for the numbers of their nodes.** -/
structure LoweredModule.SameUpTo (σ : NodeId → NodeId) (m m' : LoweredModule) : Prop where
  injective : Function.Injective σ
  /-- The nodes declare and hold the same. -/
  nodes : ∀ n, Option.Rel (Node.Resembles σ) (m.workspace.node? n) (m'.workspace.node? (σ n))
  /-- The globals and functions, with all their handles. -/
  unit : m'.unit = m.unit
  /-- All types that were made, those of the interface struct and its body among them. -/
  arena : m'.arena = m.arena
  /-- The entry points, in order. -/
  entryPoints : m'.entryPoints = m.entryPoints.map (EntryPoint.relocate σ)
  interfaceStruct : m'.interfaceStruct = m.interfaceStruct.map σ
  /-- The interface struct has the same type, and its members have the same places. -/
  interface : m'.interfaceLayout? =
    m.interfaceLayout?.map fun (type, layout) => (type, layout.relocate σ)

section

variable {σ : NodeId → NodeId} {rest : NodeId → Option Node} {hidden : Id → Prop}
  {shown : Option NodeId} {w w' v : Workspace} {types : List (Id × NodeId)} {d d' : Declarations}

theorem Workspace.Embeds.require (h : Workspace.Embeds σ rest w w') (n : NodeId)
    (complete : Bool) :
    Concurs (fun made made' => made'.1 = made.1 ∧ Workspace.Embeds σ rest made.2 made'.2)
      (w.require n complete) (w'.require (σ n) complete) := by
  obtain ⟨hconcurs, hproduced⟩ := h.produce n complete
  rw [Workspace.require, Workspace.require]
  generalize w.produce n complete = produced at hconcurs hproduced
  generalize w'.produce (σ n) complete = produced' at hconcurs hproduced
  obtain ⟨result, w₁⟩ := produced
  obtain ⟨result', w₁'⟩ := produced'
  dsimp only at hconcurs hproduced
  cases hconcurs with
  | error e e' => exact .error e e'
  | ok heq => exact .ok ⟨heq.symm, hproduced⟩

namespace Emission

/-- One emission is found in the other, and the units are one. -/
structure Embeds (σ : NodeId → NodeId) (rest : NodeId → Option Node) (e e' : Emission) :
    Prop where
  workspace : Workspace.Embeds σ rest e.workspace e'.workspace
  unit : e'.unit = e.unit

theorem concurs_layOutInterface (h : Workspace.Embeds σ rest w w')
    (interface : Option Interface) :
    Concurs (fun made made' => made'.1 = made.1 ∧ Workspace.Embeds σ rest made.2 made'.2)
      (layOutInterface w interface)
      (layOutInterface w' (interface.map (Interface.relocate σ))) := by
  cases interface with
  | none => exact .ok ⟨rfl, h⟩
  | some f =>
    refine (h.require f.node true).bind ?_
    rintro ⟨type, w₁⟩ ⟨_, w₁'⟩ ⟨rfl, hw₁⟩
    dsimp only
    rw [hw₁.arena]
    exact .bind_same fun _ _ => .ok ⟨rfl, hw₁.withArena _⟩

theorem Embeds.addGlobal {e e' : Emission} (h : Embeds σ rest e e') (g : ShaderGlobal) :
    Concurs (Embeds σ rest) (addGlobal d e g)
      (addGlobal (d.placed σ v types) e' (g.relocate σ)) := by
  have hpointee : (e'.workspace.node? (σ g.pointerType)).bind Node.pointee? =
      ((e.workspace.node? g.pointerType).bind Node.pointee?).map σ :=
    h.workspace.bind_node? (fun _ _ hr => hr.pointee?) g.pointerType
  rw [Emission.addGlobal, Emission.addGlobal]
  dsimp only [ShaderGlobal.relocate]
  rw [hpointee]
  cases (e.workspace.node? g.pointerType).bind Node.pointee? with
  | none => exact .error _ _
  | some pointee =>
    refine (h.workspace.require pointee true).bind ?_
    rintro ⟨type, w₁⟩ ⟨_, w₁'⟩ ⟨rfl, hw₁⟩
    dsimp only
    rw [hw₁.arena, h.unit]
    split
    · exact .error _ _
    · exact .ok ⟨hw₁, rfl⟩

theorem concurs_addEntryPoint (wrapperType : Ty) (paramNames : List String) (unit : CodeUnit)
    (p : ShaderEntryPoint) :
    Concurs (fun added added' => added' = (added.1.relocate σ, added.2))
      (addEntryPoint d wrapperType paramNames unit p)
      (addEntryPoint (d.placed σ v types) wrapperType paramNames unit p) := by
  have hany : ((d.placed σ v types).functions.any fun f => f.id = p.function) =
      d.functions.any fun f => f.id = p.function := by
    dsimp only [Declarations.placed]
    rw [List.any_map]
    rfl
  have hmembers : ((d.placed σ v types).interface.bind fun f => f.memberOf? ·) =
      (d.interface.bind fun f => f.memberOf? ·) := by
    funext id
    dsimp only [Declarations.placed]
    cases d.interface <;> rfl
  have hstruct : (d.placed σ v types).interface.map Interface.node =
      (d.interface.map Interface.node).map σ := by
    dsimp only [Declarations.placed]
    rw [Option.map_map, Option.map_map]
    rfl
  rw [addEntryPoint, addEntryPoint, hany]
  split
  · refine .ok ?_
    rw [EntryPoint.relocate, hstruct]
    simp only [funext_iff] at hmembers
    simp only [hmembers]
  · exact .error _ _

theorem concurs_addEntryPoints (wrapperType : Ty) (paramNames : List String) (unit : CodeUnit)
    (ps : List ShaderEntryPoint) :
    Concurs (fun added added' => added' = (added.1.map (EntryPoint.relocate σ), added.2))
      (addEntryPoints d wrapperType paramNames unit ps)
      (addEntryPoints (d.placed σ v types) wrapperType paramNames unit ps) := by
  induction ps generalizing unit with
  | nil => exact .ok rfl
  | cons p ps ih =>
    rw [addEntryPoints, addEntryPoints]
    refine (concurs_addEntryPoint wrapperType paramNames unit p).bind ?_
    rintro ⟨point, unit₁⟩ _ rfl
    refine (ih unit₁).bind ?_
    rintro ⟨points, unit₂⟩ _ rfl
    exact .ok rfl

theorem Embeds.addFunction {e e' : Emission} (h : Embeds σ rest e e') (f : ShaderFunction) :
    Concurs (Embeds σ rest) (addFunction d e f)
      (addFunction (d.placed σ v types) e' (f.relocate σ)) := by
  rw [Emission.addFunction, Emission.addFunction]
  refine (h.workspace.require f.type true).bind ?_
  rintro ⟨type, w₁⟩ ⟨_, w₁'⟩ ⟨rfl, hw₁⟩
  have htaken : (((w₁'.node? (f.relocate σ).type).map Node.args).getD []).length =
      (((w₁.node? f.type).map Node.args).getD []).length := by
    obtain ⟨hn, hn'⟩ | ⟨node, node', hn, hn', hr⟩ := hw₁.node_cases f.type
    · rw [hn, ShaderFunction.relocate, hn']
    · rw [hn, ShaderFunction.relocate, hn', Option.map_some, Option.map_some, Option.getD_some,
        Option.getD_some, hr.args, List.length_map]
  have hparameters : (f.relocate σ).parameters = f.parameters := rfl
  dsimp only
  rw [hw₁.arena, htaken, hparameters, h.unit]
  refine .bind_same fun _ _ => ?_
  split
  · exact .error _ _
  · exact .ok ⟨hw₁, rfl⟩

theorem Embeds.addGlobals {e e' : Emission} (h : Embeds σ rest e e')
    (globals : List ShaderGlobal) :
    Concurs (Embeds σ rest) (globals.foldlM (Emission.addGlobal d) e)
      ((globals.map (ShaderGlobal.relocate σ)).foldlM
        (Emission.addGlobal (d.placed σ v types)) e') := by
  refine .foldlM (T := fun g g' => g' = ShaderGlobal.relocate σ g) ?_
    (List.forall₂_map_right_iff.mpr (List.forall₂_same.mpr fun _ _ => rfl)) h
  rintro e e' g _ rfl he
  exact he.addGlobal g

theorem Embeds.addFunctions {e e' : Emission} (h : Embeds σ rest e e')
    (functions : List ShaderFunction) :
    Concurs (Embeds σ rest) (functions.foldlM (Emission.addFunction d) e)
      ((functions.map (ShaderFunction.relocate σ)).foldlM
        (Emission.addFunction (d.placed σ v types)) e') := by
  refine .foldlM (T := fun f f' => f' = ShaderFunction.relocate σ f) ?_
    (List.forall₂_map_right_iff.mpr (List.forall₂_same.mpr fun _ _ => rfl)) h
  rintro e e' f _ rfl he
  exact he.addFunction f

end Emission

/-- What is listed of the interface is the same. -/
theorem Workspace.Embeds.interfaceLayout? {m m' : LoweredModule}
    (h : Workspace.Embeds σ rest m.workspace m'.workspace)
    (hstruct : m'.interfaceStruct = m.interfaceStruct.map σ) :
    m'.interfaceLayout? =
      m.interfaceLayout?.map fun (type, layout) => (type, layout.relocate σ) := by
  rw [LoweredModule.interfaceLayout?, LoweredModule.interfaceLayout?, hstruct]
  cases m.interfaceStruct with
  | none => rfl
  | some n =>
    rw [Option.map_some, Option.bind_some, Option.bind_some]
    obtain ⟨hn, hn'⟩ | ⟨node, node', hn, hn', hr⟩ := h.node_cases n
    · rw [hn, hn']
      rfl
    · rw [hn, hn', Option.map_some, Option.map_some, hr.shape]
      rcases node.shape with _ | _ | _ <;> rfl

open Emission in
/-- **Declarations that are found in others are emitted like these.** -/
theorem Declarations.Embeds.emit (h : Declarations.Embeds σ rest hidden shown d d')
    (name : String) :
    Concurs (LoweredModule.SameUpTo σ) (d.emit name) (d'.emit name) := by
  obtain ⟨w', types', hw, ht, rfl⟩ := h
  have hopen : (d.placed σ w' types').openFunction =
      d.openFunction.map (ShaderFunction.relocate σ) := rfl
  rw [Declarations.emit, Declarations.emit, hopen]
  cases d.openFunction with
  | some f => exact .error _ _
  | none =>
    refine (concurs_layOutInterface hw d.interface).bind ?_
    rintro ⟨pointer, w₁⟩ ⟨_, w₁'⟩ ⟨rfl, hw₁⟩
    have hstart : Emission.Embeds σ rest { workspace := w₁, unit := { name } }
        { workspace := w₁', unit := { name } } := ⟨hw₁, rfl⟩
    refine (hstart.addGlobals d.globals).bind fun e e' he => ?_
    dsimp only
    rw [he.workspace.arena, he.unit]
    refine (concurs_addEntryPoints _ _ e.unit d.entryPoints).bind ?_
    rintro ⟨points, unit⟩ _ rfl
    have hwrappers (arena : TypeArena) :
        Emission.Embeds σ rest { workspace := { e.workspace with arena }, unit }
          { workspace := { e'.workspace with arena }, unit } :=
      ⟨he.workspace.withArena arena, rfl⟩
    refine ((hwrappers _).addFunctions d.functions).bind fun e₁ e₁' he₁ => ?_
    have hstruct : (d.placed σ w' types').interface.map Interface.node =
        (d.interface.map Interface.node).map σ := by
      dsimp only [Declarations.placed]
      rw [Option.map_map, Option.map_map]
      rfl
    have hdetached := he₁.workspace.detachAll
    exact .ok
      { injective := hw.injective
        nodes := hdetached.node
        unit := he₁.unit
        arena := he₁.workspace.arena
        entryPoints := rfl
        interfaceStruct := hstruct
        interface := hdetached.interfaceLayout? hstruct }

end

end ShaderLowering
