import ShaderLowering.Proofs.Lowering.Correspondence

/-!
# Execution modes

An execution mode is given to a function, and is recorded with the entry points of that
function that have been declared by then. An entry point may share its function with others, and
the modes of several functions may come in any order. So the modes of an entry point are those
instructions after its own that name its function, in the order of the stream, and its workgroup
size is the last that one of them brings (`ShaderLowering.Declarations.Walks.entryPoints`).

A mode has to find an entry point of its function among those before it
(`ShaderLowering.Declarations.exists_of_visit_mode`).
-/

namespace ShaderLowering

namespace Instruction

variable {i : Instruction} {function : Id} {mode : ExecutionMode}

/-- The function that an instruction gives a mode, and the mode, if it is one of those that are
recorded. -/
def mode? (i : Instruction) : Option (Id × ExecutionMode) :=
  if i.op? = some .executionMode then do
    let function ← i.operands[0]?
    let mode ← i.operands[1]?.bind Enumerant.ofWord?
    return (function, mode)
  else none

/-- The workgroup size in the operands after a mode. -/
def size? (i : Instruction) : Option LocalSize := do
  let x ← i.operands[2]?
  let y ← i.operands[3]?
  let z ← i.operands[4]?
  return ⟨x, y, z⟩

/-- The mode that an instruction gives a function. -/
def modeFor? (i : Instruction) (function : Id) : Option ExecutionMode :=
  i.mode?.bind fun given => if given.1 = function then some given.2 else none

/-- The workgroup size that an instruction gives a function. -/
def sizeFor? (i : Instruction) (function : Id) : Option LocalSize :=
  if i.modeFor? function = some .localSize then i.size? else none

theorem mode?_of_op?_ne (h : i.op? ≠ some .executionMode) : i.mode? = none :=
  if_neg h

theorem modeFor?_eq_some_iff :
    i.modeFor? function = some mode ↔ i.mode? = some (function, mode) := by
  rw [modeFor?]
  rcases i.mode? with _ | ⟨function', mode'⟩
  · simp
  · simp [eq_comm]

theorem modeFor?_of_mode? (h : i.mode? = some (function, mode)) (function' : Id) :
    i.modeFor? function' = if function' = function then some mode else none := by
  rw [modeFor?, h, Option.bind_some]
  exact if_congr eq_comm rfl rfl

theorem modeFor?_of_mode?_eq_none (h : i.mode? = none) (function : Id) :
    i.modeFor? function = none := by
  rw [modeFor?, h]
  rfl

end Instruction

/-- The entry points of a stream: for each the instruction that declares it, and those after
it. -/
def entryPointsOf : List Instruction → List (Instruction × List Instruction)
  | [] => []
  | i :: is => if i.isEntryPoint then (i, is) :: entryPointsOf is else entryPointsOf is

/-! ### One entry point -/

namespace ShaderEntryPoint

variable {p : ShaderEntryPoint} {i : Instruction}

/-- The entry point once an instruction has been read that may give its function a mode. -/
def after (p : ShaderEntryPoint) (i : Instruction) : ShaderEntryPoint :=
  { p with
    modes := p.modes ++ (i.modeFor? p.function).toList
    localSize := (i.sizeFor? p.function).or p.localSize }

/-- An instruction that gives no mode leaves entry points as they were. -/
theorem map_after_of_mode?_eq_none (h : i.mode? = none) (points : List ShaderEntryPoint) :
    points.map (·.after i) = points := by
  refine List.map_id'' (fun p => ?_) points
  rw [after, Instruction.sizeFor?, Instruction.modeFor?_of_mode?_eq_none h]
  simp

/-- **What instructions make of an entry point**: their modes come one after another, and of the
sizes the last one counts. -/
theorem foldl_after (p : ShaderEntryPoint) (is : List Instruction) :
    is.foldl after p =
      { p with
        modes := p.modes ++ is.filterMap fun i => i.modeFor? p.function
        localSize := (is.filterMap fun i => i.sizeFor? p.function).getLast?.or p.localSize } := by
  induction is generalizing p with
  | nil => simp
  | cons i is ih =>
    rw [List.foldl_cons, ih]
    have hmodes : (p.after i).modes ++ is.filterMap (fun i => i.modeFor? p.function) =
        p.modes ++ (i :: is).filterMap fun i => i.modeFor? p.function := by
      rw [after]
      cases hmode : i.modeFor? p.function with
      | none => simp [hmode]
      | some mode => simp [hmode]
    have hsize : (is.filterMap fun i => i.sizeFor? p.function).getLast?.or (p.after i).localSize =
        ((i :: is).filterMap fun i => i.sizeFor? p.function).getLast?.or p.localSize := by
      rw [after]
      cases hsize : i.sizeFor? p.function with
      | none => simp [hsize]
      | some size =>
        cases hlast : (is.filterMap fun i => i.sizeFor? p.function).getLast? with
        | none => simp [hsize, List.getLast?_cons, hlast]
        | some last => simp [hsize, List.getLast?_cons, hlast]
    exact congrArg₂ (fun modes localSize => { p with modes, localSize }) hmodes hsize

end ShaderEntryPoint

namespace Declarations

variable {arena : TypeArena} {d d₁ d' : Declarations} {i : Instruction} {is : List Instruction}
  {function : Id} {mode : ExecutionMode} {name : String} {m : LoweredModule}

/-! ### One instruction -/

/-- A size is read if the mode brings one, from the three operands that it is in. -/
theorem of_readLocalSize {size : Option LocalSize} (h : readLocalSize i mode = .ok size) :
    (size = if mode = .localSize then i.size? else none) ∧
      (mode = .localSize → i.size?.isSome) := by
  by_cases hmode : mode = .localSize
  · subst hmode
    obtain ⟨x, hx, h⟩ := of_bind_eq_ok h
    obtain ⟨y, hy, h⟩ := of_bind_eq_ok h
    obtain ⟨z, hz, h⟩ := of_bind_eq_ok h
    have hsize : i.size? = some ⟨x, y, z⟩ := by
      rw [Instruction.size?, Instruction.of_operand hx, Instruction.of_operand hy,
        Instruction.of_operand hz]
      rfl
    rw [if_pos rfl, hsize]
    exact ⟨(Except.ok.inj h).symm, fun _ => rfl⟩
  · rw [if_neg hmode]
    refine ⟨?_, fun h => absurd h hmode⟩
    cases mode with
    | localSize => exact absurd rfl hmode
    | _ => exact (Except.ok.inj h).symm

/-- A mode is recorded with the entry points of its function, and there is one. -/
theorem of_addExecutionMode (hop : i.op? = some .executionMode)
    (h : d.addExecutionMode i = .ok d') :
    d'.entryPoints = d.entryPoints.map (·.after i) ∧
      ∀ function mode, i.mode? = some (function, mode) →
        (∃ p ∈ d.entryPoints, p.function = function) ∧ (mode = .localSize → i.size?.isSome) := by
  obtain ⟨function, hfunction, h⟩ := of_bind_eq_ok h
  obtain ⟨word, hword, h⟩ := of_bind_eq_ok h
  have hgiven : i.mode? =
      (Enumerant.ofWord? word : Option ExecutionMode).map fun mode => (function, mode) := by
    rw [Instruction.mode?, if_pos hop, Instruction.of_operand hfunction,
      Instruction.of_operand hword]
    exact Option.map_eq_bind.symm
  split at h
  · rename_i hnone
    rw [hnone, Option.map_none] at hgiven
    rw [← Except.ok.inj h]
    exact ⟨(ShaderEntryPoint.map_after_of_mode?_eq_none hgiven _).symm,
      fun function mode h => nomatch hgiven.symm.trans h⟩
  · rename_i mode hmode
    rw [hmode, Option.map_some] at hgiven
    obtain ⟨size, hsize, h⟩ := of_bind_eq_ok h
    obtain ⟨rfl, hoperands⟩ := of_readLocalSize hsize
    dsimp only at h
    split at h
    · rename_i hany
      rw [← Except.ok.inj h]
      refine ⟨List.map_congr_left fun p hp => ?_, fun function' mode' hgiven' => ?_⟩
      · rw [ShaderEntryPoint.after, Instruction.sizeFor?, Instruction.modeFor?_of_mode? hgiven]
        by_cases hp : p.function = function
        · simp [hp]
        · simp [hp]
      · obtain ⟨rfl, rfl⟩ := Prod.mk.inj (Option.some.inj (hgiven.symm.trans hgiven'))
        exact ⟨by simpa using hany, hoperands⟩
    · exact absurd h (by simp)

/-- **The entry point is new**: it is what an instruction declares, and has no modes yet. -/
structure IsNew (i : Instruction) (p : ShaderEntryPoint) : Prop where
  heading : i.heading? = some p.heading
  modes : p.modes = []
  localSize : p.localSize = none

theorem of_addEntryPoint (h : d.addEntryPoint i = .ok d') :
    ∃ p, d'.entryPoints = d.entryPoints ++ [p] ∧ IsNew i p := by
  obtain ⟨word, hword, h⟩ := of_bind_eq_ok h
  obtain ⟨model, hmodel, h⟩ := of_bind_eq_ok h
  obtain ⟨function, hfunction, h⟩ := of_bind_eq_ok h
  obtain ⟨⟨name, next⟩, hname, h⟩ := of_bind_eq_ok h
  rw [← Except.ok.inj h]
  refine ⟨_, rfl, ?_, rfl, rfl⟩
  have hmodel' : i.operands[0]?.bind Enumerant.ofWord? = some model := by
    rw [Instruction.of_operand hword]
    exact Enumerant.of_decode hmodel
  rw [Instruction.heading?, hmodel', Instruction.of_operand hfunction, hname]
  rfl

/-- What a new entry point is called and which function it has stays. -/
theorem IsNew.heading_foldl {p : ShaderEntryPoint} (h : IsNew i p) (later : List Instruction) :
    i.heading? = some (later.foldl ShaderEntryPoint.after p).heading := by
  rw [h.heading, ShaderEntryPoint.foldl_after]
  rfl

/-- Other instructions declare no entry points and leave those that there are alone. -/
theorem Reads.entryPoints_eq (h : Reads d i d')
    (hentry : d.openFunction = none → i.op? ≠ some .entryPoint)
    (hmode : d.openFunction = none → i.op? ≠ some .executionMode) :
    d'.entryPoints = d.entryPoints := by
  cases h with
  | entryPoint hopen hop => exact absurd hop (hentry hopen)
  | moded hopen hop => exact absurd hop (hmode hopen)
  | _ => rfl

/-- **An instruction that declares an entry point** adds it to those that there are. -/
theorem of_visit_entryPoint (hopen : d.openFunction = none) (hi : i.isEntryPoint = true)
    (h : d.visit i = .ok d') :
    ∃ p, d'.entryPoints = d.entryPoints.map (·.after i) ++ [p] ∧ IsNew i p := by
  have hop : i.op? = some .entryPoint := beq_iff_eq.mp hi
  have hnone : i.mode? = none := Instruction.mode?_of_op?_ne (by simp [hop])
  rw [visit, hopen, hop] at h
  rw [ShaderEntryPoint.map_after_of_mode?_eq_none hnone]
  exact of_addEntryPoint h

/-- **Any other instruction** gives the entry points that there are the mode it has for their
function, if it has one. -/
theorem of_visit_other (hopen : d.openFunction = none) (hi : ¬i.isEntryPoint = true)
    (h : d.visit i = .ok d') : d'.entryPoints = d.entryPoints.map (·.after i) := by
  have hentry : i.op? ≠ some .entryPoint := mt beq_iff_eq.mpr hi
  by_cases hop : i.op? = some .executionMode
  · rw [visit, hopen, hop] at h
    exact (of_addExecutionMode hop h).1
  · have hnone : i.mode? = none := Instruction.mode?_of_op?_ne hop
    rw [(reads h).entryPoints_eq (fun _ => hentry) fun _ => hop,
      ShaderEntryPoint.map_after_of_mode?_eq_none hnone]

/-! ### A whole walk -/

/-- **The entry points of a walk**: those that there were have the modes of all instructions, and
those that are declared have the modes of the instructions after their own. -/
theorem Walks.entryPoints (h : Walks arena d is d') :
    ∃ points, d'.entryPoints = d.entryPoints.map
        (fun p => (outside d.openFunction.isSome is).foldl ShaderEntryPoint.after p) ++ points ∧
      List.Forall₂
        (fun entry p => ∃ p₀, IsNew entry.1 p₀ ∧ p = entry.2.foldl ShaderEntryPoint.after p₀)
        (entryPointsOf (outside d.openFunction.isSome is)) points := by
  induction h with
  | nil => exact ⟨[], by simp [outside], .nil⟩
  | @cons d d₁ d' i is hd hvisit hvisits hreads hrest ih =>
    obtain ⟨points, hpoints, hnew⟩ := ih
    rw [hreads.outside_cons]
    cases hopen : d.openFunction with
    | some f =>
      have hinside : d.openFunction ≠ none := hopen ▸ Option.some_ne_none f
      rw [heard_of_some hopen, List.nil_append]
      refine ⟨points, ?_, hnew⟩
      rw [hpoints, hreads.entryPoints_eq (absurd · hinside) (absurd · hinside)]
    | none =>
      rw [heard_of_none hopen, List.singleton_append, entryPointsOf]
      by_cases hi : i.isEntryPoint = true
      · obtain ⟨p, hp, hnew₁⟩ := of_visit_entryPoint hopen hi hvisit
        rw [if_pos hi]
        refine ⟨_ :: points, ?_, .cons ⟨p, hnew₁, rfl⟩ hnew⟩
        rw [hpoints, hp, List.map_append, List.map_map, List.append_assoc]
        rfl
      · rw [if_neg hi]
        refine ⟨points, ?_, hnew⟩
        rw [hpoints, of_visit_other hopen hi hvisit, List.map_map]
        rfl

/-- **A mode finds an entry point** of its function among those declared before it. -/
theorem exists_of_visit_mode (hopen : d.openFunction = none)
    (hi : i.mode? = some (function, mode)) (h : d.visit i = .ok d') :
    (∃ p ∈ d.entryPoints, p.function = function) ∧ (mode = .localSize → i.size?.isSome) := by
  have hop : i.op? = some .executionMode := by
    refine Decidable.byContradiction fun hne => ?_
    rw [Instruction.mode?_of_op?_ne hne] at hi
    exact nomatch hi
  rw [visit, hopen, hop] at h
  exact (of_addExecutionMode hop h).2 function mode hi

/-! ### Emission -/

/-- **The entry point is emitted as it was recorded.** -/
structure EmitsAs (p : ShaderEntryPoint) (e : EntryPoint) : Prop where
  name : e.name = p.name
  model : e.model = p.model
  function : e.function = p.function
  modes : e.modes = p.modes
  localSize : e.localSize = p.localSize

theorem emitsAs_of_addEntryPoints {type : Ty} {paramNames : List String}
    {points : List ShaderEntryPoint} {unit unit' : CodeUnit} {entryPoints : List EntryPoint}
    (h : Emission.addEntryPoints d type paramNames unit points = .ok (entryPoints, unit')) :
    List.Forall₂ EmitsAs points entryPoints := by
  induction points generalizing unit entryPoints with
  | nil =>
    rw [Emission.addEntryPoints] at h
    obtain ⟨rfl, -⟩ := Prod.mk.inj (Except.ok.inj h)
    exact .nil
  | cons p points ih =>
    rw [Emission.addEntryPoints] at h
    obtain ⟨⟨entryPoint, unit₁⟩, hfirst, h⟩ := of_bind_eq_ok h
    obtain ⟨⟨entryPoints', unit₂⟩, hrest, h⟩ := of_bind_eq_ok h
    obtain ⟨rfl, rfl⟩ := Prod.mk.inj (Except.ok.inj h)
    rw [Emission.addEntryPoint] at hfirst
    split at hfirst
    · obtain ⟨rfl, rfl⟩ := Prod.mk.inj (Except.ok.inj hfirst)
      exact .cons ⟨rfl, rfl, rfl, rfl, rfl⟩ (ih hrest)
    · exact absurd hfirst (by simp)

theorem emitsAs_of_emit (h : d.emit name = .ok m) :
    List.Forall₂ EmitsAs d.entryPoints m.entryPoints := by
  rw [emit] at h
  split at h
  · exact absurd h (by simp)
  · obtain ⟨⟨pointer, u⟩, -, h⟩ := of_bind_eq_ok h
    obtain ⟨e₁, -, h⟩ := of_bind_eq_ok h
    obtain ⟨⟨entryPoints, unit⟩, hentries, h⟩ := of_bind_eq_ok h
    obtain ⟨e, -, h⟩ := of_bind_eq_ok h
    rw [← Except.ok.inj h]
    exact emitsAs_of_addEntryPoints hentries

end Declarations

/-- **The entry point heeds the modes** that instructions give its function: it has all of them in
their order, and of the workgroup sizes it has the last. -/
structure EntryPoint.Heeds (e : EntryPoint) (later : List Instruction) : Prop where
  modes : e.modes = later.filterMap fun i => i.modeFor? e.function
  localSize : e.localSize = (later.filterMap fun i => i.sizeFor? e.function).getLast?

namespace Declarations

variable {arena : TypeArena} {d : Declarations} {is : List Instruction} {name : String}
  {m : LoweredModule}

/-- The entry points that are emitted, each with what stands after its declaration. -/
theorem Walks.heeds (h : Walks arena { workspace := { arena } } is d)
    (hemit : d.emit name = .ok m) :
    List.Forall₂ (fun entry e => e.StandsFor entry.1 ∧ e.Heeds entry.2)
      (entryPointsOf (moduleScope is)) m.entryPoints := by
  obtain ⟨points, hpoints, hnew⟩ := h.entryPoints
  rw [List.map_nil, List.nil_append] at hpoints
  rw [← hpoints] at hnew
  refine forall₂_comp hnew (emitsAs_of_emit hemit) fun entry p e hp he => ?_
  obtain ⟨p₀, hp₀, rfl⟩ := hp
  refine ⟨⟨_, hp₀.heading_foldl entry.2, he.name, he.model, he.function⟩, ?_⟩
  obtain ⟨-, -, hfunction, hmodes, hsize⟩ := he
  rw [ShaderEntryPoint.foldl_after] at hfunction hmodes hsize
  dsimp only at hfunction hmodes hsize
  refine ⟨?_, ?_⟩
  · rw [hmodes, hfunction, hp₀.modes, List.nil_append]
  · rw [hsize, hfunction, hp₀.localSize, Option.or_none]

/-- **A mode that is read has an entry point before it.** -/
theorem Walks.exists_entryPoint {before after : List Instruction} {i : Instruction}
    {function : Id} {mode : ExecutionMode} (h : Walks arena { workspace := { arena } } is d)
    (hsplit : moduleScope is = before ++ i :: after) (hi : i.mode? = some (function, mode)) :
    ∃ j ∈ before, j.isEntryPoint = true ∧ j.operands[1]? = some function := by
  obtain ⟨d₁, d₂, hby⟩ := h.exists_comesBy hsplit
  obtain ⟨⟨p, hp, hfunction⟩, -⟩ := exists_of_visit_mode hby.closed hi hby.visit
  obtain ⟨is₁, hbefore, hwalks⟩ := hby.earlier
  obtain ⟨j, hj, hheading⟩ := exists_of_forall₂_right hwalks.headings (List.mem_map_of_mem hp)
  obtain ⟨hj, hentry⟩ := List.mem_filter.mp hj
  refine ⟨j, hbefore ▸ hj, hentry, ?_⟩
  rw [Instruction.heading?] at hheading
  obtain ⟨model, -, hheading⟩ := Option.bind_eq_some_iff.mp hheading
  obtain ⟨function', hfunction', hheading⟩ := Option.bind_eq_some_iff.mp hheading
  obtain ⟨_, -, hheading⟩ := Option.bind_eq_some_iff.mp hheading
  have heq : function' = p.function :=
    congrArg Heading.function (Option.some.inj hheading)
  rw [hfunction', heq, hfunction]

end Declarations

/-- **Execution modes reach every entry point of their function.** If a shader is lowered, its
entry points are those of the stream outside of functions. Each has the modes that instructions
after its own give its function, in their order and as often as they are given, and the last of
the workgroup sizes; and no instruction brings the mode of a workgroup size without the three
operands that it is in. A shader is not lowered if a mode names a function that no entry point
before it has. -/
theorem lower_modes (arena : TypeArena) (shader : ShaderModule) (name : String) :
    (∀ m, lower arena shader name = .ok m →
      List.Forall₂ (fun entry e => e.StandsFor entry.1 ∧ e.Heeds entry.2)
        (entryPointsOf (moduleScope shader.instructions)) m.entryPoints ∧
      ∀ i ∈ moduleScope shader.instructions, ∀ function,
        i.modeFor? function = some .localSize → i.size?.isSome) ∧
    ∀ before i after function mode, moduleScope shader.instructions = before ++ i :: after →
      i.modeFor? function = some mode →
      (∀ j ∈ before, j.isEntryPoint = true → j.operands[1]? ≠ some function) →
      ∃ e, lower arena shader name = .error e := by
  refine ⟨fun m h => ?_, fun before i after function mode hsplit hi hnone => ?_⟩
  · obtain ⟨d, hd, hemit⟩ := of_bind_eq_ok h
    have hwalks := Declarations.walks_ofInstructions hd
    refine ⟨hwalks.heeds hemit, fun i hi function hmode => ?_⟩
    obtain ⟨d₁, d₂, hopen, hvisit, -⟩ := hwalks.exists_visit hi
    exact (Declarations.exists_of_visit_mode hopen
      (Instruction.modeFor?_eq_some_iff.mp hmode) hvisit).2 rfl
  · cases h : lower arena shader name with
    | error e => exact ⟨e, rfl⟩
    | ok m =>
      obtain ⟨d, hd, -⟩ := of_bind_eq_ok h
      obtain ⟨j, hj, hentry, hfunction⟩ := (Declarations.walks_ofInstructions hd).exists_entryPoint
        hsplit (Instruction.modeFor?_eq_some_iff.mp hi)
      exact absurd hfunction (hnone j hj hentry)

/-- Two entry points of one function, with a mode between them, and a size that stays when another
mode follows; and a mode that stands before them. -/
theorem lower_modes_shared :
    let instructions : List Instruction :=
      [⟨15, [5, 8, 0x61], 5, 9⟩, ⟨16, [8, 9], 9, 12⟩, ⟨15, [5, 8, 0x62], 12, 16⟩,
        ⟨16, [8, 17, 2, 3, 4], 16, 22⟩, ⟨16, [8, 9], 22, 25⟩, ⟨19, [1], 25, 27⟩,
        ⟨33, [7, 1], 27, 30⟩, ⟨54, [1, 8, 0, 7], 30, 35⟩, ⟨56, [], 35, 36⟩]
    (∃ m, lower {} ⟨⟨1, 0, 0, 10⟩, instructions⟩ "unit" = .ok m ∧
      m.entryPoints.map (fun e => (e.modes, e.localSize)) =
        [([.earlyFragmentTests, .localSize, .earlyFragmentTests], some ⟨2, 3, 4⟩),
          ([.localSize, .earlyFragmentTests], some ⟨2, 3, 4⟩)] ∧
      List.Forall₂ (fun entry e => e.StandsFor entry.1 ∧ e.Heeds entry.2)
        (entryPointsOf (moduleScope instructions)) m.entryPoints) ∧
    let early : Instruction := ⟨16, [8, 9], 2, 5⟩
    ∃ e, lower {} ⟨⟨1, 0, 0, 10⟩, early :: instructions⟩ "unit" = .error e := by
  intro instructions
  have hmodes : (lower {} ⟨⟨1, 0, 0, 10⟩, instructions⟩ "unit").toOption.map
      (fun m => m.entryPoints.map fun e => (e.modes, e.localSize)) =
      some [([.earlyFragmentTests, .localSize, .earlyFragmentTests], some ⟨2, 3, 4⟩),
        ([.localSize, .earlyFragmentTests], some ⟨2, 3, 4⟩)] := by
    decide +kernel
  obtain ⟨m, h, hm⟩ := of_toOption_map_eq_some hmodes
  refine ⟨⟨m, h, hm, ((lower_modes _ _ _).1 m h).1⟩, ?_⟩
  intro early
  refine (lower_modes _ ⟨⟨1, 0, 0, 10⟩, early :: instructions⟩ _).2 [] early
    (moduleScope instructions) 8 .earlyFragmentTests ?_ ?_ (List.forall_mem_nil _)
  · decide +kernel
  · decide +kernel

end ShaderLowering
