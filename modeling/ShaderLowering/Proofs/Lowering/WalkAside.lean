import ShaderLowering.Proofs.Lowering.Outline

/-!
# The walk does not see the globals

The globals that have been declared are a list to which the walk adds, and nothing it does
depends on what is in this list. With any other globals, an instruction that adds none is
refused for the same reason, or it adds what it adds and leaves these globals as they are
(`ShaderLowering.Declarations.visit_withGlobals`).

Each handler commutes with a change of the globals, `ShaderLowering.Declarations.Aside`. A
handler that looks something up before it goes on does so in what is not the globals, which
is why the lookups are compared by computation. Variables are the one place where an
argument is needed: a variable whose storage is an input's or an output's goes to the
interface.
-/

namespace ShaderLowering

namespace Declarations

/-- The declarations with other globals. -/
def withGlobals (d : Declarations) (globals : List ShaderGlobal) : Declarations :=
  { d with globals }

/-- The step adds to the declarations without regard to the globals, which it leaves alone. -/
def Aside (step : Declarations → Except Diagnostic Declarations) : Prop :=
  ∀ d globals, step (d.withGlobals globals) = (step d).map fun d' => d'.withGlobals globals

variable {α : Type} {i : Instruction} {id : Id}

/-! ### Steps put together -/

theorem aside_pure {f : Declarations → Declarations}
    (h : ∀ d globals, f (d.withGlobals globals) = (f d).withGlobals globals) :
    Aside fun d => .ok (f d) :=
  fun d globals => congrArg Except.ok (h d globals)

/-- A step may look something up first. -/
theorem aside_bind {first : Declarations → Except Diagnostic α}
    {next : Declarations → α → Except Diagnostic Declarations}
    (hfirst : ∀ d globals, first (d.withGlobals globals) = first d)
    (hnext : ∀ a, (∃ d, first d = .ok a) → Aside fun d => next d a) :
    Aside fun d => first d >>= next d := by
  intro d globals
  dsimp only
  rw [hfirst]
  cases ha : first d with
  | error e => rfl
  | ok a => exact hnext a ⟨d, ha⟩ d globals

/-- One step after another. -/
theorem Aside.andThen {first next : Declarations → Except Diagnostic Declarations}
    (hfirst : Aside first) (hnext : Aside next) : Aside fun d => first d >>= next := by
  intro d globals
  dsimp only
  rw [hfirst d globals]
  cases hd' : first d with
  | error e => rfl
  | ok d' => exact hnext d' globals

/-- A type is declared, unless its id is taken. -/
theorem aside_define {added : Declarations → NodeId × Workspace}
    (hadded : ∀ d globals, added (d.withGlobals globals) = added d) :
    Aside fun d => d.define i id (added d) := by
  intro d globals
  simp only [define, hadded]
  rcases hid : d.types.lookup id with _ | n
  · simp only [withGlobals, hid]
    rfl
  · simp only [withGlobals, hid]
    rfl

/-! ### Names, decorations, entry points and constants -/

theorem aside_addName : Aside fun d => d.addName i :=
  aside_bind (fun _ _ => rfl) fun _ _ => aside_bind (fun _ _ => rfl) fun _ _ =>
    aside_pure fun _ _ => rfl

theorem aside_addDecoration (target : DecorationTarget) (index : Nat) :
    Aside fun d => d.addDecoration i target index := by
  refine aside_bind (fun _ _ => rfl) fun decoration _ => ?_
  cases decoration with
  | none => exact aside_pure fun _ _ => rfl
  | some decoration => exact aside_pure fun _ _ => rfl

theorem aside_decorate : Aside fun d => d.decorate i :=
  aside_bind (fun _ _ => rfl) fun _ _ => aside_addDecoration _ _

theorem aside_decorateMember : Aside fun d => d.decorateMember i :=
  aside_bind (fun _ _ => rfl) fun _ _ => aside_bind (fun _ _ => rfl) fun _ _ =>
    aside_addDecoration _ _

theorem aside_addEntryPoint : Aside fun d => d.addEntryPoint i := by
  refine aside_bind (fun _ _ => rfl) fun _ _ => aside_bind (fun _ _ => rfl) fun _ _ => ?_
  refine aside_bind (fun _ _ => rfl) fun _ _ => aside_bind (fun _ _ => rfl) fun _ _ => ?_
  exact aside_pure fun _ _ => rfl

theorem aside_addExecutionMode : Aside fun d => d.addExecutionMode i := by
  refine aside_bind (fun _ _ => rfl) fun function _ => aside_bind (fun _ _ => rfl) fun word _ => ?_
  cases Enumerant.ofWord? (α := ExecutionMode) word with
  | none => exact aside_pure fun _ _ => rfl
  | some mode =>
    refine aside_bind (fun _ _ => rfl) fun size _ => fun d globals => ?_
    dsimp only [withGlobals]
    split
    · rfl
    · rfl

theorem aside_addConstant : Aside fun d => d.addConstant i := by
  refine aside_bind (fun _ _ => rfl) fun _ _ => aside_bind (fun _ _ => rfl) fun _ _ => ?_
  exact aside_bind (fun _ _ => rfl) fun _ _ => aside_pure fun _ _ => rfl

/-! ### Functions -/

theorem aside_beginFunction : Aside fun d => d.beginFunction i := by
  refine aside_bind (fun _ _ => rfl) fun _ _ => aside_bind (fun _ _ => rfl) fun _ _ => ?_
  refine aside_bind (fun _ _ => rfl) fun _ _ => aside_bind (fun _ _ => rfl) fun _ _ => ?_
  refine aside_bind (fun _ _ => rfl) fun _ _ => fun d globals => ?_
  dsimp only [withGlobals]
  split
  · rfl
  · split
    · rfl
    · rfl

theorem aside_visitInside (f : ShaderFunction) : Aside fun d => d.visitInside f i := by
  intro d globals
  dsimp only [visitInside]
  split
  · cases i.operand 1 with
    | error e => rfl
    | ok id => rfl
  · rfl
  · rfl
  · rfl

/-! ### Variables of the interface -/

theorem aside_addInterfaceVariable (pointee : NodeId) :
    Aside fun d => d.addInterfaceVariable i id pointee := by
  intro d globals
  have hopened : (d.withGlobals globals).openInterface i.start = d.openInterface i.start := rfl
  have hdecorations : (d.withGlobals globals).decorationsOf (.object id) =
      d.decorationsOf (.object id) := rfl
  dsimp only [addInterfaceVariable]
  rw [hopened, hdecorations]
  split
  · rename_i grown _
    cases grown with
    | error e => rfl
    | ok w => rfl
  · rfl

/-- A variable that becomes no global leaves the globals alone. -/
theorem aside_addVariable (hop : i.op? = some .variableOp) (hi : ¬i.isGlobalVariable = true) :
    Aside fun d => d.addVariable i := by
  refine aside_bind (fun _ _ => rfl) fun typeId _ => ?_
  refine aside_bind (fun _ _ => rfl) fun pointerType _ => ?_
  refine aside_bind (fun _ _ => rfl) fun id _ => ?_
  refine aside_bind (fun _ _ => rfl) fun word hword => ?_
  refine aside_bind (fun _ _ => rfl) fun storage hstorage => ?_
  obtain ⟨-, hword⟩ := hword
  obtain ⟨-, hstorage⟩ := hstorage
  have hinterface : storage.isInterface = true := by
    rw [Instruction.isGlobalVariable, hop, Instruction.storage?_of_decode hword hstorage] at hi
    simpa using hi
  intro d globals
  dsimp only [withGlobals]
  split
  · rfl
  · split
    -- only the interface can be meant: the branch that adds a global is closed by `hinterface`
    · exact aside_addInterfaceVariable _ d globals
    · rfl
    · rfl

/-! ### Types -/

theorem aside_defineSimple (made : Ty × TypeArena) :
    Aside fun d => d.defineSimple i id made :=
  aside_define fun _ _ => rfl

theorem aside_defineFormed (former : Former) : Aside fun d => d.defineFormed i id former :=
  aside_define fun _ _ => rfl

theorem aside_declareScalar {make : Nat → Except TypeFault (Ty × TypeArena)} :
    Aside fun d => d.declareScalar i id make := by
  refine aside_bind (fun _ _ => rfl) fun width _ => aside_bind (fun _ _ => rfl) fun made _ => ?_
  exact (aside_defineSimple made).andThen (aside_pure fun _ _ => rfl)

theorem aside_declareVector
    {make : TypeArena → Ty → Nat → Except TypeFault (Ty × TypeArena)} :
    Aside fun d => d.declareVector i id make := by
  refine aside_bind (fun _ _ => rfl) fun typeId _ => ?_
  refine aside_bind (fun _ _ => rfl) fun component _ => ?_
  refine aside_bind (fun _ _ => rfl) fun count _ => fun d globals => ?_
  have hmake (t : Ty) : Aside fun d =>
      madeFor i (make d.workspace.arena t count.toNat) >>= d.defineSimple i id :=
    aside_bind (fun _ _ => rfl) fun made _ => aside_defineSimple made
  dsimp only [withGlobals]
  obtain ⟨made, w⟩ := d.workspace.produce component true
  cases made with
  | error e => rfl
  | ok t => exact hmake t { d with workspace := w } globals

theorem aside_declareArray : Aside fun d => d.declareArray i id := by
  refine aside_bind (fun _ _ => rfl) fun typeId _ => ?_
  refine aside_bind (fun _ _ => rfl) fun element _ => ?_
  refine aside_bind (fun _ _ => rfl) fun length _ => fun d globals => ?_
  dsimp only [withGlobals]
  split
  · exact aside_defineFormed _ d globals
  · rfl

theorem aside_declareRuntimeArray : Aside fun d => d.declareRuntimeArray i id :=
  aside_bind (fun _ _ => rfl) fun _ _ => aside_bind (fun _ _ => rfl) fun _ _ =>
    aside_defineFormed _

theorem aside_declareStruct : Aside fun d => d.declareStruct i id :=
  aside_bind (fun _ _ => rfl) fun _ _ => aside_define fun _ _ => rfl

theorem aside_declareForwardPointer : Aside fun d => d.declareForwardPointer i id :=
  aside_bind (fun _ _ => rfl) fun _ _ => aside_bind (fun _ _ => rfl) fun _ _ =>
    aside_defineFormed _

theorem aside_declarePointer : Aside fun d => d.declarePointer i id := by
  refine aside_bind (fun _ _ => rfl) fun word _ => ?_
  refine aside_bind (fun _ _ => rfl) fun storage _ => ?_
  refine aside_bind (fun _ _ => rfl) fun typeId _ => ?_
  refine aside_bind (fun _ _ => rfl) fun pointee _ => fun d globals => ?_
  dsimp only [withGlobals]
  split
  · exact aside_defineFormed _ d globals
  · split
    · split
      · rfl
      · split
        · rename_i bound _
          cases bound with
          | error e => rfl
          | ok w => rfl
        · rfl
    · rfl

theorem aside_declareFunctionType : Aside fun d => d.declareFunctionType i id := by
  refine aside_bind (fun _ _ => rfl) fun typeId _ => ?_
  refine aside_bind (fun _ _ => rfl) fun result _ => ?_
  exact aside_bind (fun _ _ => rfl) fun args _ => aside_defineFormed _

theorem aside_declareType (op : Opcode) : Aside fun d => d.declareType op i := by
  refine aside_bind (fun _ _ => rfl) fun id _ => fun d globals => ?_
  dsimp only
  split
  · exact aside_defineSimple d.workspace.arena.void d globals
  · exact aside_defineSimple d.workspace.arena.bool d globals
  · exact aside_declareScalar d globals
  · exact aside_declareScalar d globals
  · exact aside_declareVector d globals
  · exact aside_declareVector d globals
  · exact aside_declareArray d globals
  · exact aside_declareRuntimeArray d globals
  · exact aside_declareStruct d globals
  · exact aside_declareForwardPointer d globals
  · exact aside_declarePointer d globals
  · exact aside_declareFunctionType d globals
  · rfl

/-! ### Every other instruction -/

theorem aside_visitOutside {op : Opcode} (hop : i.op? = some op)
    (hi : ¬i.isGlobalVariable = true) : Aside fun d => d.visitOutside op i := by
  intro d globals
  dsimp only
  rw [visitOutside.eq_def, visitOutside.eq_def]
  split
  · exact aside_addName d globals
  · exact aside_decorate d globals
  · exact aside_decorateMember d globals
  · rfl
  · rfl
  · rfl
  · exact aside_addEntryPoint d globals
  · exact aside_addExecutionMode d globals
  · exact aside_addConstant d globals
  · exact aside_addConstant d globals
  · exact aside_addVariable hop hi d globals
  · exact aside_beginFunction d globals
  · rfl
  · rfl
  · split
    · exact aside_declareType op d globals
    · rfl

/-- **An instruction that adds no global is read without regard to the globals.** -/
theorem visit_withGlobals (d : Declarations) (globals : List ShaderGlobal)
    (hi : d.openFunction = none → ¬i.isGlobalVariable = true) :
    (d.withGlobals globals).visit i = (d.visit i).map fun d' => d'.withGlobals globals := by
  have hopen : (d.withGlobals globals).openFunction = d.openFunction := rfl
  rw [visit, visit, hopen]
  cases hf : d.openFunction with
  | some f => exact aside_visitInside f d globals
  | none =>
    cases hop : i.op? with
    | none => rfl
    | some op => exact aside_visitOutside hop (hi hf) d globals

end Declarations

end ShaderLowering
