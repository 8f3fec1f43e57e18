import ShaderLowering.Proofs.Lowering.WrapperSymbols

/-!
# Each part of a unit stands for an instruction

A lowered shader has one part for each instruction that calls for one, in the order of the
stream, and no others: a global for each variable outside of functions that is neither an
input nor an output, a wrapper for each entry point, and behind the wrappers a function
for each function. The walk gathers what is to be emitted from the stream, and the emission
goes through what was gathered, so that the correspondence is put together from
`ShaderLowering.Declarations.Walks` and `ShaderLowering.Declarations.Emits`. Two wrappers have
one type, and two functions may have, so that it is their symbols that tell which stands for
which (`ShaderLowering.Declarations.PutsTogether`).

The same two say why some shaders cannot be lowered: what holds of everything that is
emitted holds of nothing that violates it.
-/

namespace ShaderLowering

variable {d : Declarations} {instructions : List Instruction} {arena : TypeArena}
  {shader : ShaderModule} {name : String} {m : LoweredModule}

/-! ### What stands for what -/

/-- **The global stands for the variable** that an instruction declares. It is named by the
type of the variable's pointee. -/
structure GlobalDecl.StandsFor (g : GlobalDecl) (d : Declarations) (w : Workspace)
    (i : Instruction) : Prop where
  type : ∃ pointee, d.variablePointee? i = some pointee ∧ w.handle? pointee = some g.type
  addressSpace : g.addressSpace = 0
  linkage : g.linkage = .internal ↔
    i.storage? = some .privateStorage ∨ i.storage? = some .workgroup

/-- **The function stands for the function** that an instruction begins, and its parameters
are called what the ids of that function's parameters are called last. -/
structure FunctionDecl.StandsFor (f : FunctionDecl) (d : Declarations) (w : Workspace)
    (instructions : List Instruction) (entry : Instruction × List Instruction) : Prop where
  linkage : f.linkage = .internal
  type : ∃ id n, entry.1.operands[3]? = some id ∧ d.types.lookup id = some n ∧
    w.handle? n = some f.type
  paramNames : ∃ ids, List.Forall₂ (fun i id => i.operands[1]? = some id) entry.2 ids ∧
    f.paramNames = ids.mapIdx fun k id => (lastName instructions id).getD s!"param_{k}"

/-- **The entry point stands for the one** that an instruction declares. -/
structure EntryPoint.StandsFor (e : EntryPoint) (i : Instruction) : Prop where
  heading : ∃ heading, i.heading? = some heading ∧ e.name = heading.name ∧
    e.model = heading.model ∧ e.function = heading.function

/-- The function returns nothing, and takes a pointer to the interface struct, or nothing if
there is none. -/
def LoweredModule.TakesInterface (m : LoweredModule) (f : FunctionDecl) : Prop :=
  ∃ void params, m.workspace.arena.data? f.type = some (.function void params false) ∧
    m.workspace.arena.data? void = some .void ∧
    match m.interfaceStruct with
    | none => params = []
    | some n => ∃ pointer t, params = [pointer] ∧ m.workspace.structType? n = some t ∧
        m.workspace.arena.data? pointer = some (.pointer t 0)

/-- **The function wraps the entry point** where the given symbols are taken. Everybody can
see it, it asks for the name of the entry point, and what it takes is called after the
interface struct. -/
structure FunctionDecl.Wraps (f : FunctionDecl) (m : LoweredModule) (taken : List String)
    (e : EntryPoint) : Prop where
  linkage : f.linkage = .external
  symbol : IsSymbolFor taken e.name f.name
  type : m.TakesInterface f
  paramNames : f.paramNames = if m.interfaceStruct.isSome then ["io_struct"] else []

/-- The symbol is what the last name of an id gets, or else a name made from the id, where the
given symbols are taken. -/
def IsNamed (instructions : List Instruction) (made : Id → String) (taken : List String)
    (i : Instruction) (symbol : String) : Prop :=
  ∃ id, i.operands[1]? = some id ∧
    IsSymbolFor taken ((lastName instructions id).getD (made id)) symbol

/-- **The parts of a lowered shader stand for its instructions**, one for each, in their
order. -/
structure LoweredModule.Corresponds (m : LoweredModule) (d : Declarations)
    (instructions : List Instruction) : Prop where
  globals : List.Forall₂ (fun i g => g.StandsFor d m.workspace i)
    ((moduleScope instructions).filter Instruction.isGlobalVariable) m.unit.globals
  entryPoints : List.Forall₂ (fun i e => e.StandsFor i)
    ((moduleScope instructions).filter Instruction.isEntryPoint) m.entryPoints
  wrapper : ∀ (k : Nat) (e : EntryPoint), m.entryPoints[k]? = some e → e.wrapper = k
  functions : ∃ wrappers functions, m.unit.functions = wrappers ++ functions ∧
    wrappers.length = m.entryPoints.length ∧
    (∀ (k : Nat) (e : EntryPoint), m.entryPoints[k]? = some e →
      ∃ f, wrappers[k]? = some f ∧ f.Wraps m
        ((wrappers.take k).map FunctionDecl.name ++ m.unit.globals.map GlobalDecl.name) e) ∧
    List.Forall₂ (fun entry f => f.StandsFor d m.workspace instructions entry)
      (functionsOf instructions) functions
  globalSymbols : ∀ (k : Nat) (i : Instruction),
    ((moduleScope instructions).filter Instruction.isGlobalVariable)[k]? = some i →
    ∃ g, m.unit.globals[k]? = some g ∧
      IsNamed instructions (fun id => s!"global_{id}")
        ((m.unit.globals.take k).map GlobalDecl.name) i g.name
  functionSymbols : ∀ (k : Nat) (entry : Instruction × List Instruction),
    (functionsOf instructions)[k]? = some entry →
    ∃ f, m.unit.functions[m.entryPoints.length + k]? = some f ∧
      IsNamed instructions (fun id => s!"function_{id}")
        ((m.unit.functions.take (m.entryPoints.length + k)).map FunctionDecl.name ++
          m.unit.globals.map GlobalDecl.name) entry.1 f.name

/-! ### The stream and what is emitted -/

/-- Two lists that go with a third go with one another. -/
theorem forall₂_comp {α β γ : Type} {R : α → β → Prop} {S : β → γ → Prop} {T : α → γ → Prop}
    {as : List α} {bs : List β} {cs : List γ} (h : List.Forall₂ R as bs)
    (h' : List.Forall₂ S bs cs) (hcomp : ∀ a b c, R a b → S b c → T a c) :
    List.Forall₂ T as cs := by
  induction h generalizing cs with
  | nil => cases h' with | nil => exact .nil
  | cons hab _ ih => cases h' with | cons hbc hrest => exact .cons (hcomp _ _ _ hab hbc) (ih hrest)

/-- The instructions that begin functions are in the stream. -/
theorem mem_of_mem_functionsOf {entry : Instruction × List Instruction}
    (h : entry ∈ functionsOf instructions) :
    entry.1 ∈ instructions ∧ entry.1.op? = some .function := by
  induction instructions with
  | nil => exact nomatch h
  | cons i is ih =>
    rw [functionsOf] at h
    split at h
    · rename_i hi
      rcases List.mem_cons.mp h with rfl | h
      · exact ⟨List.mem_cons_self, hi⟩
      · exact ⟨List.mem_cons_of_mem _ (ih h).1, (ih h).2⟩
    · exact ⟨List.mem_cons_of_mem _ (ih h).1, (ih h).2⟩

namespace Declarations

/-- Where a private or a workgroup variable is stored nobody else can see it. -/
theorem globalLinkage_eq_internal_iff {storage : StorageClass} :
    Emission.globalLinkage storage = .internal ↔
      storage = .privateStorage ∨ storage = .workgroup := by
  cases storage <;> decide

/-- A shader that is lowered has been walked over, and what was gathered was emitted. -/
theorem exists_of_lower (hu : arena.Uniqued) (h : lower arena shader name = .ok m) :
    ∃ d w, ofInstructions arena shader.instructions = .ok d ∧
      Walks arena { workspace := { arena } } shader.instructions d ∧ d.Emits w m := by
  obtain ⟨d, hd, hemit⟩ := of_bind_eq_ok h
  have hwalks := walks_ofInstructions hd
  obtain ⟨w, hemits⟩ := (sound_ofInstructions hd).emits hu (fun g hg => by
    obtain ⟨i, -, hi⟩ := exists_of_forall₂_right hwalks.globals hg
    exact hi.pointee) hemit
  exact ⟨d, w, hd, hwalks, hemits⟩

variable {w : Workspace}

/-- The entry points that are emitted, each with what it was declared with. -/
theorem Emits.headings (he : d.Emits w m)
    (hwalks : Walks arena { workspace := { arena } } instructions d) :
    List.Forall₂ (fun i e => ∃ p : ShaderEntryPoint, i.heading? = some p.heading ∧
        d.EmitsEntryPoint p e)
      ((moduleScope instructions).filter Instruction.isEntryPoint) m.entryPoints := by
  have hheadings := hwalks.headings
  rw [List.forall₂_map_right_iff] at hheadings
  exact forall₂_comp hheadings he.entryPoints fun i p e hp he => ⟨p, hp, he⟩

/-- The function in the place of an entry point takes the interface. -/
theorem Emits.takesInterface (he : d.Emits w m) {k : Nat} {e : EntryPoint}
    (hk : m.entryPoints[k]? = some e) :
    ∃ f, m.unit.functions[k]? = some f ∧ m.TakesInterface f := by
  obtain ⟨wrappers, functions, heq, hlength, hwrappers, -⟩ := he.functions
  have hlt : k < wrappers.length := by
    rw [hlength, he.entryPoints.length_eq]
    exact (List.getElem?_eq_some_iff.mp hk).1
  refine ⟨wrappers[k], ?_, ?_⟩
  · rw [heq, List.getElem?_append_left hlt, List.getElem?_eq_getElem hlt]
  · obtain ⟨void, params, htype, hvoid, hparams⟩ :=
      (hwrappers wrappers[k] (List.getElem_mem hlt)).2
    refine ⟨void, params, by rw [he.workspace]; exact htype, by rw [he.workspace]; exact hvoid, ?_⟩
    rw [he.interfaceStruct, he.workspace]
    cases hf : d.interface with
    | none =>
      rw [hf] at hparams
      exact hparams
    | some f =>
      rw [hf] at hparams
      obtain ⟨pointer, t, hparams, ht, hpointer⟩ := hparams
      exact ⟨pointer, t, hparams, w.structType?_detachAll ▸ ht, hpointer⟩

/-- Each wrapper wraps the entry point in its place. -/
theorem Emits.wraps (he : d.Emits w m) (hemit : d.emit name = .ok m) {k : Nat} {e : EntryPoint}
    (hk : m.entryPoints[k]? = some e) :
    ∃ f, m.unit.functions[k]? = some f ∧ f.Wraps m
      ((m.unit.functions.take k).map FunctionDecl.name ++ m.unit.globals.map GlobalDecl.name)
      e := by
  obtain ⟨f, hf, htakes⟩ := he.takesInterface hk
  obtain ⟨f', hf', hlinkage, hparamNames, hsymbol⟩ := exists_wrapper hemit hk
  obtain rfl : f = f' := Option.some.inj (hf.symm.trans hf')
  refine ⟨f, hf, hlinkage, hsymbol, htakes, ?_⟩
  rw [hparamNames, wrapperParamNames, he.interfaceStruct, Option.isSome_map]
  rfl

theorem Walks.isNamed (hwalks : Walks arena { workspace := { arena } } instructions d)
    {i : Instruction} {id : Id} (hid : i.operands[1]? = some id) {made : Id → String}
    {taken : List String} {symbol : String}
    (hsymbol : IsSymbolFor taken (d.nameOf id (made id)) symbol) :
    IsNamed instructions made taken i symbol := by
  refine ⟨id, hid, ?_⟩
  rw [← hwalks.lookup_names]
  exact hsymbol

theorem Emits.corresponds (he : d.Emits w m)
    (hwalks : Walks arena { workspace := { arena } } instructions d)
    (hemit : d.emit name = .ok m) : m.Corresponds d instructions := by
  have hhandle : m.workspace.handle? = w.handle? := by
    rw [he.workspace, Workspace.handle?_detachAll]
  have hbegun := hwalks.functions he.openFunction
  refine ⟨?_, ?_, he.wrapper, ?_, fun k i hi => ?_, fun k entry hentry => ?_⟩
  · refine forall₂_comp hwalks.globals he.globals fun i g decl hg hdecl => ?_
    obtain ⟨pointee, hpointee, htype⟩ := hdecl.type
    refine ⟨⟨pointee, ?_, by rw [hhandle]; exact htype⟩, hdecl.addressSpace, ?_⟩
    · rw [variablePointee?, hg.type]
      exact hpointee
    · rw [hdecl.linkage, hg.storage, globalLinkage_eq_internal_iff, Option.some.injEq,
        Option.some.injEq]
  · refine (he.headings hwalks).imp fun i e hentry => ?_
    obtain ⟨p, hp, hentry⟩ := hentry
    exact ⟨p.heading, hp, hentry.name, hentry.model, hentry.function⟩
  · obtain ⟨wrappers, functions, heq, hlength, -, hfunctions⟩ := he.functions
    have hcount : wrappers.length = m.entryPoints.length :=
      hlength.trans he.entryPoints.length_eq
    refine ⟨wrappers, functions, heq, hcount, fun k e hk => ?_, ?_⟩
    · obtain ⟨f, hf, hwraps⟩ := he.wraps hemit hk
      have hlt : k < wrappers.length := hcount ▸ (List.getElem?_eq_some_iff.mp hk).1
      rw [heq, List.getElem?_append_left hlt] at hf
      rw [heq, List.take_append_of_le_length (Nat.le_of_lt hlt)] at hwraps
      exact ⟨f, hf, hwraps⟩
    · refine forall₂_comp hbegun hfunctions fun entry f decl hf hdecl => ?_
      obtain ⟨id, hid, hn⟩ := Option.bind_eq_some_iff.mp hf.type
      refine ⟨hdecl.linkage, ⟨id, f.type, hid, hn, by rw [hhandle]; exact hdecl.type⟩,
        f.parameters, hf.parameters, ?_⟩
      rw [hdecl.paramNames]
      exact congrArg (List.mapIdx · f.parameters) (funext₂ fun k id => by
        rw [hwalks.lookup_names])
  · obtain ⟨g, hg, hof⟩ := exists_getElem?_of_forall₂ hwalks.globals hi
    obtain ⟨decl, hdecl, hsymbol⟩ := exists_global hemit hg
    exact ⟨decl, hdecl, hwalks.isNamed hof.id hsymbol⟩
  · obtain ⟨f, hf, hof⟩ := exists_getElem?_of_forall₂ hbegun hentry
    obtain ⟨decl, hdecl, hsymbol⟩ := exists_function hemit hf
    exact ⟨decl, hdecl, hwalks.isNamed hof.id hsymbol⟩

/-- The function that an entry point names is in the stream. -/
theorem Emits.exists_function (he : d.Emits w m)
    (hwalks : Walks arena { workspace := { arena } } instructions d) {i : Instruction} {id : Id}
    (hi : i ∈ moduleScope instructions) (hentry : i.isEntryPoint = true)
    (hid : i.operands[1]? = some id) :
    ∃ f ∈ instructions, f.op? = some .function ∧ f.operands[1]? = some id := by
  obtain ⟨e, -, p, hp, he'⟩ :=
    exists_of_forall₂_left (he.headings hwalks) (List.mem_filter.mpr ⟨hi, hentry⟩)
  obtain ⟨f, hf, hfunction⟩ := he'.defined
  obtain ⟨entry, hmem, hbegun⟩ :=
    exists_of_forall₂_right (hwalks.functions he.openFunction) hf
  -- the id that the entry point names is the function it was declared with
  have hnamed : p.function = id := by
    rw [Instruction.heading?, hid] at hp
    obtain ⟨model, -, hp⟩ := Option.bind_eq_some_iff.mp hp
    obtain ⟨id', hid', hp⟩ := Option.bind_eq_some_iff.mp hp
    obtain ⟨⟨name, next⟩, -, hp⟩ := Option.bind_eq_some_iff.mp hp
    rw [← Option.some.inj hid'] at hp
    exact (congrArg Heading.function (Option.some.inj hp)).symm
  obtain ⟨hstream, hop⟩ := mem_of_mem_functionsOf hmem
  exact ⟨entry.1, hstream, hop, by rw [hbegun.id, hfunction, hnamed]⟩

/-- A function has as many parameters as its type says. -/
theorem Emits.parameterCount (he : d.Emits w m)
    (hwalks : Walks arena { workspace := { arena } } instructions d) {type : Instruction}
    {entry : Instruction × List Instruction} {id : Id}
    (htype : type ∈ moduleScope instructions) (hop : type.op? = some .typeFunction)
    (hid : type.operands[0]? = some id) (hentry : entry ∈ functionsOf instructions)
    (hid' : entry.1.operands[3]? = some id) :
    entry.2.length = (type.operandsFrom 2).length := by
  obtain ⟨wrappers, functions, -, -, -, hfunctions⟩ := he.functions
  obtain ⟨f, hf, hbegun⟩ :=
    exists_of_forall₂_left (hwalks.functions he.openFunction) hentry
  obtain ⟨decl, -, hdecl⟩ := exists_of_forall₂_left hfunctions hf
  obtain ⟨id', n, hid'', hn, hcount⟩ := hwalks.functionType htype hop
  obtain rfl : id = id' := Option.some.inj (hid.symm.trans hid'')
  have hlookup := hbegun.type
  rw [hid', Option.bind_some, hn, Option.some.injEq] at hlookup
  rw [hbegun.parameters.length_eq, hdecl.count, ← hlookup, hcount]

end Declarations

/-! ### The correspondence -/

/-- **Nothing is lost, added or put out of order.** If a shader is lowered, then the parts
of the unit stand for its instructions, one for each. It is not lowered if an entry point
names a function that the stream does not have, nor if a function has more or fewer
parameters than its type. -/
theorem lower_corresponds {arena : TypeArena} (hu : arena.Uniqued) (shader : ShaderModule)
    (name : String) :
    (∀ m, lower arena shader name = .ok m →
      ∃ d, Declarations.ofInstructions arena shader.instructions = .ok d ∧
        m.Corresponds d shader.instructions) ∧
    (∀ i ∈ moduleScope shader.instructions, ∀ id, i.isEntryPoint = true →
      i.operands[1]? = some id →
      (∀ f ∈ shader.instructions, f.op? = some .function → f.operands[1]? ≠ some id) →
      ∃ e, lower arena shader name = .error e) ∧
    (∀ type ∈ moduleScope shader.instructions, ∀ entry ∈ functionsOf shader.instructions,
      ∀ id, type.op? = some .typeFunction → type.operands[0]? = some id →
      entry.1.operands[3]? = some id → entry.2.length ≠ (type.operandsFrom 2).length →
      ∃ e, lower arena shader name = .error e) := by
  refine ⟨fun m h => ?_, fun i hi id hentry hid hnone => ?_,
    fun type htype entry hentry id hop hid hid' hcount => ?_⟩
  · obtain ⟨d, w, hd, hwalks, he⟩ := Declarations.exists_of_lower hu h
    rw [lower, hd] at h
    exact ⟨d, hd, he.corresponds hwalks h⟩
  · cases h : lower arena shader name with
    | error e => exact ⟨e, rfl⟩
    | ok m =>
      obtain ⟨d, w, hd, hwalks, he⟩ := Declarations.exists_of_lower hu h
      obtain ⟨f, hf, hfop, hfid⟩ := he.exists_function hwalks hi hentry hid
      exact absurd hfid (hnone f hf hfop)
  · cases h : lower arena shader name with
    | error e => exact ⟨e, rfl⟩
    | ok m =>
      obtain ⟨d, w, hd, hwalks, he⟩ := Declarations.exists_of_lower hu h
      exact absurd (he.parameterCount hwalks htype hop hid hentry hid') hcount

/-- A shader with two entry points, whose functions come in the other order, an input, and two
globals, one of which is called like the second entry point and takes the name from it. The
first function has a parameter with a name. -/
theorem lower_corresponds_entry :
    let instructions : List Instruction :=
      [⟨15, [0, 9, 0x62, 20], 5, 10⟩, ⟨15, [4, 8, 0x61, 20], 10, 15⟩, ⟨5, [6, 0x61], 15, 18⟩,
        ⟨5, [12, 0x78], 18, 21⟩, ⟨19, [1], 21, 23⟩, ⟨22, [2, 32], 23, 26⟩,
        ⟨32, [3, 1, 2], 26, 30⟩, ⟨32, [4, 6, 2], 30, 34⟩, ⟨59, [3, 20, 1], 34, 38⟩,
        ⟨59, [4, 5, 6], 38, 42⟩, ⟨59, [4, 6, 6], 42, 46⟩, ⟨33, [7, 1], 46, 49⟩,
        ⟨33, [10, 1, 2], 49, 53⟩, ⟨54, [1, 8, 0, 7], 53, 58⟩, ⟨56, [], 58, 59⟩,
        ⟨54, [1, 9, 0, 10], 59, 64⟩, ⟨55, [2, 12], 64, 67⟩, ⟨56, [], 67, 68⟩]
    ∃ m d, lower {} ⟨⟨1, 0, 0, 21⟩, instructions⟩ "unit" = .ok m ∧
      m.unit.functions.map (fun f => (f.name, f.paramNames)) =
        [("b", ["io_struct"]), ("a.1", ["io_struct"]), ("function_8", []),
          ("function_9", ["x"])] ∧
      m.unit.globals.map GlobalDecl.name = ["global_5", "a"] ∧
      m.Corresponds d instructions := by
  intro instructions
  have hparts : (lower {} ⟨⟨1, 0, 0, 21⟩, instructions⟩ "unit").toOption.map
      (fun m => (m.unit.functions.map fun f => (f.name, f.paramNames),
        m.unit.globals.map GlobalDecl.name)) =
      some ([("b", ["io_struct"]), ("a.1", ["io_struct"]), ("function_8", []),
        ("function_9", ["x"])], ["global_5", "a"]) := by
    decide +kernel
  obtain ⟨m, h, hm⟩ := of_toOption_map_eq_some hparts
  obtain ⟨hfunctions, hglobals⟩ := Prod.mk.inj hm
  obtain ⟨d, -, hd⟩ := (lower_corresponds TypeArena.uniqued_empty _ _).1 m h
  exact ⟨m, d, h, hfunctions, hglobals, hd⟩

end ShaderLowering
