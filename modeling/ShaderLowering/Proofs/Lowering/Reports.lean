import ShaderLowering.Proofs.Lowering.Emission
import ShaderLowering.Proofs.Lowering.Outline
import ShaderLowering.Proofs.Operand.LiteralValues

/-!
# What can be reported

A lowering that ends with a report ends with one of few kinds. Most are about an
instruction and are worded where it is read, and those that are put together later point
to an instruction that was noted. The others come out of the type graph: a struct that
refuses another member, and a production that was asked for. Only these can have one of
the causes that nodes report (`ShaderLowering.Cause.isOfGraph`).

Some causes are for what should never be (`ShaderLowering.Cause.isInternal`). Each kind of
report that could have one of them says what would have to be true for it to be made.

Each function that may report is gone through once. What it reports is of a kind
(`ShaderLowering.Reports`) if what is reported by its parts is, whichever of them ends it.
-/

namespace ShaderLowering

/-- The cause is one that the nodes of a type graph report. -/
def Cause.isOfGraph : Cause → Bool
  | .tooManyRecursions | .unboundPointer | .alreadyBound | .layoutComplete | .unknownNode _ => true
  | _ => false

/-- **The cause lies in the lowering**, not in the shader: something is not as the lowering
itself has left it. -/
def Cause.isInternal : Cause → Bool
  | .unknownNode _ | .layoutComplete | .alreadyBound | .refusedType (.bodyAlreadySet _)
  | .refusedType (.notAStruct _) | .lostPointee | .interfaceNotAStruct | .unexpectedLiteral
  | .notALiteral _ _ | .literalTooWide _ => true
  | _ => false

/-- The cause is found in what an instruction says. -/
def Cause.isOrdinary (cause : Cause) : Bool :=
  !cause.isOfGraph && !cause.isInternal

namespace TypeArena

variable {a : TypeArena} {bits count : Nat} {t : Ty} {fault : TypeFault}

/-! ### Types that are refused -/

theorem isOrdinary_of_int (h : a.int bits = .error fault) :
    (Cause.refusedType fault).isOrdinary = true := by
  rw [int] at h
  split at h
  · exact absurd h (by simp)
  · rw [← Except.error.inj h]
    rfl

theorem isOrdinary_of_float (h : a.float bits = .error fault) :
    (Cause.refusedType fault).isOrdinary = true := by
  rw [float] at h
  split at h
  · exact absurd h (by simp)
  · rw [← Except.error.inj h]
    rfl

theorem isOrdinary_of_vector (h : a.vector t count = .error fault) :
    (Cause.refusedType fault).isOrdinary = true := by
  rw [vector] at h
  split at h
  · rw [← Except.error.inj h]
    rfl
  · exact absurd h (by simp)

end TypeArena

/-- Whatever the work reports is of a kind. -/
def Reports {α : Type} (P : Diagnostic → Prop) (work : Except Diagnostic α) : Prop :=
  ∀ e, work = .error e → P e

/-! ### Work put together -/

namespace Reports

variable {α β σ : Type} {P : Diagnostic → Prop} {e : Diagnostic}

theorem ok (a : α) : Reports P (.ok a) := nofun

theorem error (h : P e) : Reports (α := α) P (.error e) := by
  intro e' he'
  rwa [← Except.error.inj he']

theorem bind {first : Except Diagnostic α} {next : α → Except Diagnostic β}
    (hfirst : Reports P first) (hnext : ∀ a, first = .ok a → Reports P (next a)) :
    Reports P (first >>= next) := by
  cases first with
  | error d => exact error (hfirst d rfl)
  | ok a => exact hnext a rfl

theorem mapM {f : α → Except Diagnostic β} (h : ∀ a, Reports P (f a)) (as : List α) :
    Reports P (as.mapM f) := by
  induction as with
  | nil => exact ok []
  | cons a as ih =>
    rw [List.mapM_cons]
    exact (h a).bind fun b _ => ih.bind fun bs _ => ok (b :: bs)

/-- What each step of a fold reports is of a kind as long as something is kept. -/
theorem foldlM {step : σ → α → Except Diagnostic σ} {I : σ → Prop} {as : List α}
    (hstep : ∀ s, ∀ a ∈ as, I s → Reports P (step s a))
    (hkeeps : ∀ s, ∀ a ∈ as, ∀ s', step s a = .ok s' → I s → I s') {s : σ} (hs : I s) :
    Reports P (as.foldlM step s) := by
  induction as generalizing s with
  | nil => exact ok s
  | cons a as ih =>
    rw [List.foldlM_cons]
    exact (hstep s a List.mem_cons_self hs).bind fun s' hs' =>
      ih (fun s b hb => hstep s b (List.mem_cons_of_mem _ hb))
        (fun s b hb => hkeeps s b (List.mem_cons_of_mem _ hb))
        (hkeeps s a List.mem_cons_self s' hs' hs)

end Reports

/-- A fold that ends with a report has got as far as the step that reports. -/
theorem exists_of_foldlM_eq_error {ε σ α : Type} {step : σ → α → Except ε σ} {as : List α} {s : σ}
    {e : ε} (h : as.foldlM step s = .error e) :
    ∃ before a after s', as = before ++ a :: after ∧ before.foldlM step s = .ok s' ∧
      step s' a = .error e := by
  induction as generalizing s with
  | nil => exact nomatch h
  | cons a as ih =>
    rw [List.foldlM_cons] at h
    cases hs : step s a with
    | error d =>
      rw [hs] at h
      exact ⟨[], a, as, s, rfl, rfl, hs.trans h⟩
    | ok s₁ =>
      rw [hs] at h
      obtain ⟨before, b, after, s', rfl, hbefore, hstep⟩ := ih h
      refine ⟨a :: before, b, after, s', rfl, ?_, hstep⟩
      rw [List.foldlM_cons, hs]
      exact hbefore

/-! ### While instructions are read -/

namespace Workspace

variable {w : Workspace} {n : NodeId}

/-- A pointer that was declared without its pointee can be given one. -/
theorem exists_bind? {storage : StorageClass}
    (h : (w.node? n).bind Node.former? = some (.pointer none storage)) (pointee : NodeId) :
    ∃ w', w.bind? n pointee = some (.ok w') := by
  obtain ⟨node, hn, hformer⟩ := Option.bind_eq_some_iff.mp h
  obtain ⟨start, guard, shape⟩ := node
  cases shape with
  | formed former made =>
    obtain rfl : former = .pointer none storage := Option.some.inj hformer
    exact ⟨_, by rw [bind?, hn]; rfl⟩
  | simple | struct => exact absurd hformer (by simp [Node.former?])

end Workspace

namespace Declarations

open Workspace

/-- **What can be reported when an instruction is read.** -/
inductive ReportsAt (d : Declarations) (i : Instruction) : Diagnostic → Prop
  /-- Something about the instruction as a whole. -/
  | whole {cause : Cause} (hc : cause.isOrdinary = true) : ReportsAt d i (i.diagnose cause)
  /-- Something that points to where it begins. -/
  | opening {cause : Cause} (hc : cause.isOrdinary = true) :
    ReportsAt d i (.pointing i.start cause)
  /-- The type of a constant is too wide for a literal. -/
  | tooWide {type : Id} {width : Nat} (h : d.scalarWidths.lookup type = some width)
      (hwide : 2 < literalWordCount width) : ReportsAt d i (i.diagnose (.literalTooWide width))
  /-- What the interface struct reports that is given a member. -/
  | member {m : Member} {e : Diagnostic}
      (h : (d.openInterface i.start).2.addMember? (d.openInterface i.start).1.node m =
        some (.error e)) : ReportsAt d i e
  /-- The interface struct is none. -/
  | notAStruct {m : Member}
      (h : (d.openInterface i.start).2.addMember? (d.openInterface i.start).1.node m = none) :
    ReportsAt d i (i.diagnose .interfaceNotAStruct)
  /-- What is reported by the production of a component. -/
  | produced {id : Id} {component : NodeId} {w : Workspace} {e : Diagnostic}
      (hid : d.types.lookup id = some component)
      (h : Produced ⟨component, true⟩ d.workspace (.error e) w) : ReportsAt d i e

section Reading

variable {α : Type} (d d' : Declarations) (i : Instruction) (id : Id)

theorem reports_operand (index : Nat) : Reports (d.ReportsAt i) (i.operand index) := by
  rw [Instruction.operand]
  split
  · exact .ok _
  · exact .error (.whole rfl)

theorem reports_decode [Enumerant α] (word : Word) :
    Reports (d.ReportsAt i) (Enumerant.decode (α := α) word i.start) := by
  rw [Enumerant.decode]
  split
  · exact .ok _
  · exact .error (.opening rfl)

theorem reports_literalString (index : Nat) :
    Reports (d.ReportsAt i) (i.literalString index) := by
  rw [Instruction.literalString]
  split
  · exact .ok _
  · exact .error (.whole rfl)

theorem reports_literalOfWidth (index width : Nat)
    (hwide : 2 < literalWordCount width → d.ReportsAt i (i.diagnose (.literalTooWide width))) :
    Reports (d.ReportsAt i) (i.literalOfWidth index width) := by
  rw [Instruction.literalOfWidth]
  split
  · rename_i hcount
    exact .error (hwide hcount)
  · split
    · exact .error (.whole rfl)
    · exact .ok _

/-- A literal that is as wide as the result of its instruction. -/
theorem reports_literalNumber {index : Nat} (hshape : i.shape index = some .ofResultType)
    {widthOf : LiteralWidth → Except Diagnostic Nat}
    (hwidth : Reports (d.ReportsAt i) (widthOf .ofResultType))
    (hwide : ∀ width, widthOf .ofResultType = .ok width → 2 < literalWordCount width →
      d.ReportsAt i (i.diagnose (.literalTooWide width))) :
    Reports (d.ReportsAt i) (i.literalNumber index widthOf) := by
  have hasked : i.askedShape? index = some .ofResultType :=
    Instruction.askedShape?_eq_some_iff.mpr ⟨hshape, nofun⟩
  rw [Instruction.literalNumber_of_asked hasked]
  exact hwidth.bind fun width hw => reports_literalOfWidth d i index width (hwide width hw)

theorem reports_typeNode : Reports (d.ReportsAt i) (d'.typeNode i id) := by
  rw [typeNode]
  split
  · exact .ok _
  · exact .error (.whole rfl)

theorem reports_define (added : NodeId × Workspace) :
    Reports (d.ReportsAt i) (d'.define i id added) := by
  rw [define]
  split
  · exact .error (.whole rfl)
  · exact .ok _

theorem reports_madeFor (made : Except TypeFault α)
    (hmade : ∀ fault, made = .error fault → (Cause.refusedType fault).isOrdinary = true) :
    Reports (d.ReportsAt i) (madeFor i made) := by
  cases made with
  | error fault => exact .error (.whole (hmade fault rfl))
  | ok a => exact .ok a

theorem reports_addName : Reports (d.ReportsAt i) (d.addName i) :=
  (reports_operand d i 0).bind fun _ _ => (reports_literalString d i 1).bind fun _ _ => .ok _

theorem reports_addDecoration (target : DecorationTarget) (index : Nat) :
    Reports (d.ReportsAt i) (d.addDecoration i target index) := by
  refine .bind ?_ fun decoration _ => ?_
  · exact (reports_operand d i index).bind fun _ _ => .ok _
  · cases decoration with
    | none => exact .ok _
    | some decoration => exact .ok _

theorem reports_decorate : Reports (d.ReportsAt i) (d.decorate i) :=
  (reports_operand d i 0).bind fun _ _ => reports_addDecoration d i _ _

theorem reports_decorateMember : Reports (d.ReportsAt i) (d.decorateMember i) :=
  (reports_operand d i 0).bind fun _ _ => (reports_operand d i 1).bind fun _ _ =>
    reports_addDecoration d i _ _

theorem reports_addEntryPoint : Reports (d.ReportsAt i) (d.addEntryPoint i) := by
  refine (reports_operand d i 0).bind fun word _ => (reports_decode d i word).bind fun _ _ => ?_
  exact (reports_operand d i 1).bind fun _ _ => (reports_literalString d i 2).bind fun _ _ => .ok _

theorem reports_readLocalSize (mode : ExecutionMode) :
    Reports (d.ReportsAt i) (readLocalSize i mode) := by
  cases mode with
  | localSize =>
    exact (reports_operand d i 2).bind fun _ _ => (reports_operand d i 3).bind fun _ _ =>
      (reports_operand d i 4).bind fun _ _ => .ok _
  | _ => exact .ok _

theorem reports_addExecutionMode : Reports (d.ReportsAt i) (d.addExecutionMode i) := by
  refine (reports_operand d i 0).bind fun function _ => ?_
  refine (reports_operand d i 1).bind fun word _ => ?_
  split
  · exact .ok _
  · refine (reports_readLocalSize d i _).bind fun size _ => ?_
    split
    · exact .ok _
    · exact .error (.whole rfl)

theorem reports_addConstant (hshape : i.shape 2 = some .ofResultType) :
    Reports (d.ReportsAt i) (d.addConstant i) := by
  refine (reports_operand d i 0).bind fun type _ => (reports_operand d i 1).bind fun id _ => ?_
  refine (reports_literalNumber d i hshape ?_ fun width hwidth hwide => ?_).bind fun _ _ => .ok _
  · dsimp only
    split
    · exact .ok _
    · exact .error (.whole rfl)
  · dsimp only at hwidth
    split at hwidth
    · rename_i hlookup
      exact .tooWide (Except.ok.inj hwidth ▸ hlookup) hwide
    · exact absurd hwidth (by simp)

theorem reports_addInterfaceVariable (pointee : NodeId) :
    Reports (d.ReportsAt i) (d.addInterfaceVariable i id pointee) := by
  rw [addInterfaceVariable]
  dsimp only
  split
  · rename_i grown hgrown
    cases grown with
    | error e => exact .error (.member hgrown)
    | ok w => exact .ok _
  · rename_i hnone
    exact .error (.notAStruct hnone)

theorem reports_addVariable : Reports (d.ReportsAt i) (d.addVariable i) := by
  refine (reports_operand d i 0).bind fun typeId _ => (reports_typeNode d d i typeId).bind
    fun pointerType _ => ?_
  refine (reports_operand d i 1).bind fun id _ => (reports_operand d i 2).bind fun word _ => ?_
  refine (reports_decode d i word).bind fun storage _ => ?_
  split
  · exact .error (.whole rfl)
  · split
    · split
      · exact reports_addInterfaceVariable d i id _
      · exact .ok _
    · exact .error (.whole rfl)
    · exact .error (.whole rfl)

theorem reports_beginFunction : Reports (d.ReportsAt i) (d.beginFunction i) := by
  refine (reports_operand d i 0).bind fun resultType _ => (reports_operand d i 1).bind
    fun id _ => ?_
  refine (reports_operand d i 2).bind fun control _ => (reports_operand d i 3).bind
    fun typeId _ => ?_
  refine (reports_typeNode d d i typeId).bind fun type _ => ?_
  split
  · exact .error (.whole rfl)
  · split
    · exact .error (.whole rfl)
    · exact .ok _

/-! ### Type declarations -/

theorem reports_declareScalar {make : Nat → Except TypeFault (Ty × TypeArena)}
    (hmake : ∀ bits fault, make bits = .error fault →
      (Cause.refusedType fault).isOrdinary = true) :
    Reports (d.ReportsAt i) (d.declareScalar i id make) :=
  (reports_operand d i 1).bind fun _ _ => (reports_madeFor d i _ (hmake _)).bind fun _ _ =>
    (reports_define d d i id _).bind fun _ _ => .ok _

theorem reports_declareVector {make : TypeArena → Ty → Nat → Except TypeFault (Ty × TypeArena)}
    (hmake : ∀ (arena : TypeArena) t count fault, make arena t count = .error fault →
      (Cause.refusedType fault).isOrdinary = true) :
    Reports (d.ReportsAt i) (d.declareVector i id make) := by
  refine (reports_operand d i 1).bind fun typeId _ => (reports_typeNode d d i typeId).bind
    fun component hcomponent => ?_
  refine (reports_operand d i 2).bind fun count _ => ?_
  have hproduced := d.workspace.produced component true
  dsimp only
  refine .bind ?_ fun type _ => (reports_madeFor d i _ (hmake _ _ _)).bind fun made _ =>
    reports_define d _ i id _
  intro e he
  rw [he] at hproduced
  exact .produced (lookup_of_typeNode hcomponent) hproduced

theorem reports_declareArray : Reports (d.ReportsAt i) (d.declareArray i id) := by
  refine (reports_operand d i 1).bind fun typeId _ => (reports_typeNode d d i typeId).bind
    fun element _ => ?_
  refine (reports_operand d i 2).bind fun length _ => ?_
  split
  · exact reports_define d d i id _
  · exact .error (.whole rfl)

theorem reports_declareRuntimeArray : Reports (d.ReportsAt i) (d.declareRuntimeArray i id) :=
  (reports_operand d i 1).bind fun typeId _ => (reports_typeNode d d i typeId).bind
    fun _ _ => reports_define d d i id _

theorem reports_declareStruct : Reports (d.ReportsAt i) (d.declareStruct i id) :=
  (Reports.mapM (reports_typeNode d d i) _).bind fun _ _ => reports_define d d i id _

theorem reports_declareForwardPointer :
    Reports (d.ReportsAt i) (d.declareForwardPointer i id) :=
  (reports_operand d i 1).bind fun word _ => (reports_decode d i word).bind fun _ _ =>
    reports_define d d i id _

theorem reports_declarePointer : Reports (d.ReportsAt i) (d.declarePointer i id) := by
  refine (reports_operand d i 1).bind fun word _ => (reports_decode d i word).bind
    fun storage _ => ?_
  refine (reports_operand d i 2).bind fun pointeeId _ => (reports_typeNode d d i pointeeId).bind
    fun pointee _ => ?_
  split
  · exact reports_define d d i id _
  · split
    · rename_i hforward
      split
      · exact .error (.whole rfl)
      · -- a pointer without a pointee takes one
        obtain ⟨w, hbound⟩ := exists_bind? hforward pointee
        rw [hbound]
        exact .ok _
    · exact .error (.whole rfl)

theorem reports_declareFunctionType :
    Reports (d.ReportsAt i) (d.declareFunctionType i id) :=
  (reports_operand d i 1).bind fun resultId _ => (reports_typeNode d d i resultId).bind
    fun _ _ => (Reports.mapM (reports_typeNode d d i) _).bind fun _ _ => reports_define d d i id _

theorem reports_declareType (op : Opcode) : Reports (d.ReportsAt i) (d.declareType op i) := by
  refine (reports_operand d i 0).bind fun id _ => ?_
  dsimp only
  split
  · exact reports_define d d i id _
  · exact reports_define d d i id _
  · exact reports_declareScalar d i id fun _ _ => TypeArena.isOrdinary_of_int
  · exact reports_declareScalar d i id fun _ _ => TypeArena.isOrdinary_of_float
  · exact reports_declareVector d i id fun _ _ _ _ => TypeArena.isOrdinary_of_vector
  · exact reports_declareVector d i id nofun
  · exact reports_declareArray d i id
  · exact reports_declareRuntimeArray d i id
  · exact reports_declareStruct d i id
  · exact reports_declareForwardPointer d i id
  · exact reports_declarePointer d i id
  · exact reports_declareFunctionType d i id
  · exact .error (.whole rfl)

/-! ### Any instruction -/

theorem reports_visitInside (f : ShaderFunction) :
    Reports (d.ReportsAt i) (d.visitInside f i) := by
  rw [visitInside]
  split
  · exact (reports_operand d i 1).bind fun _ _ => .ok _
  · exact .ok _
  · exact .error (.whole rfl)
  · exact .ok _

theorem reports_visitOutside {op : Opcode} (hi : i.op? = some op) :
    Reports (d.ReportsAt i) (d.visitOutside op i) := by
  have hshape : i.shape 2 = op.operandShape 2 := by rw [Instruction.shape, hi, Option.bind_some]
  rw [visitOutside.eq_def]
  split
  · exact reports_addName d i
  · exact reports_decorate d i
  · exact reports_decorateMember d i
  · exact .error (.whole rfl)
  · exact .error (.whole rfl)
  · exact .error (.whole rfl)
  · exact reports_addEntryPoint d i
  · exact reports_addExecutionMode d i
  · exact reports_addConstant d i (hshape.trans rfl)
  · exact reports_addConstant d i (hshape.trans rfl)
  · exact reports_addVariable d i
  · exact reports_beginFunction d i
  · exact .error (.whole rfl)
  · exact .error (.whole rfl)
  · split
    · exact reports_declareType d i op
    · exact .ok _

/-- **What is reported when an instruction is read is of these kinds.** -/
theorem reports_visit : Reports (d.ReportsAt i) (d.visit i) := by
  rw [visit]
  split
  · exact reports_visitInside d i _
  · rename_i hi
    exact reports_visitOutside d i hi
  · exact .ok _

end Reading

end Declarations

/-! ### While a unit is put together -/

namespace Workspace

variable {w w' : Workspace} {n : NodeId} {t : Ty} {complete : Bool}

/-- Types of the target are made without naming a node. -/
theorem becomes_arena {allowed : Action → Prop} (w : Workspace) {a : TypeAction}
    (ha : allowed (.arena a)) : w.Becomes allowed (w.act (.arena a)) :=
  .act ha (List.forall_mem_nil _)

/-- What cannot be required cannot be produced. -/
theorem of_require_eq_error {e : Diagnostic} (h : w.require n complete = .error e) :
    ∃ w', Produced ⟨n, complete⟩ w (.error e) w' := by
  rw [require] at h
  split at h
  · exact absurd h (by simp)
  · rename_i d produced heq
    obtain rfl := Except.error.inj h
    have hproduced := w.produced n complete
    rw [heq] at hproduced
    exact ⟨_, hproduced⟩

end Workspace

namespace Declarations

open Workspace Emission

/-- Something that is to be emitted was declared at the given place. -/
inductive Notes (d : Declarations) : Nat → Prop
  /-- An interface variable. -/
  | interfaceVariable {f : Interface} {v : InterfaceVariable} (hf : d.interface = some f)
      (hv : v ∈ f.members) : Notes d v.start
  /-- A global. -/
  | global {g : ShaderGlobal} (hg : g ∈ d.globals) : Notes d g.start
  /-- An entry point. -/
  | entryPoint {p : ShaderEntryPoint} (hp : p ∈ d.entryPoints) : Notes d p.start
  /-- A function that has ended. -/
  | function {f : ShaderFunction} (hf : f ∈ d.functions) : Notes d f.start
  /-- A function that has not. -/
  | openFunction {f : ShaderFunction} (hf : d.openFunction = some f) : Notes d f.start

/-- The type of the node is asked for when a unit is put together. -/
inductive Wants (d : Declarations) (w : Workspace) : NodeId → Prop
  /-- It is the interface struct. -/
  | interface {f : Interface} (hf : d.interface = some f) : Wants d w f.node
  /-- It is what a global is a place for. -/
  | global {g : ShaderGlobal} {n : NodeId} (hg : g ∈ d.globals)
      (hn : w.pointee? g.pointerType = some n) : Wants d w n
  /-- It is the type of a function. -/
  | function {f : ShaderFunction} (hf : f ∈ d.functions) : Wants d w f.type

/-- What is done when a unit is put together: types are made for pointers, for functions and for
having no value, and of the nodes only those are asked for their types that are wanted. -/
def Asking (d : Declarations) : Action → Prop
  | .produce n _ => d.Wants d.workspace n
  | .arena .void | .arena (.pointer _ _) | .arena (.function _ _ _) => True
  | _ => False

/-- **What can be reported when a unit is put together.** -/
inductive ReportsEmitting (d : Declarations) : Diagnostic → Prop
  /-- Something that points to what was noted. -/
  | noted {start : Nat} {cause : Cause} (h : d.Notes start) (hc : cause.isOrdinary = true) :
    ReportsEmitting d (.pointing start cause)
  /-- The pointer type of a global has no pointee. -/
  | lostPointee {g : ShaderGlobal} {w : Workspace} (hg : g ∈ d.globals)
      (hw : d.workspace.Becomes Action.Asking w) (hnone : w.pointee? g.pointerType = none) :
    ReportsEmitting d (.pointing g.start .lostPointee)
  /-- What is reported by the production of a type, after others have been made. -/
  | produced {w w' : Workspace} {n : NodeId} {e : Diagnostic}
      (hw : d.workspace.Becomes Action.Asking w) (hn : d.Wants w n)
      (h : Produced ⟨n, true⟩ w (.error e) w') : ReportsEmitting d e

variable {d : Declarations} {w w' : Workspace} {e e' : Emission} {n : NodeId} {t : Ty}

/-- What is wanted does not change while types are asked for. -/
theorem Wants.congr (h : d.Wants w n) (hw : w'.skeleton = w.skeleton) : d.Wants w' n := by
  cases h with
  | interface hf => exact .interface hf
  | global hg hn => exact .global hg ((pointee?_congr hw).trans hn)
  | function hf => exact .function hf

/-- Nothing is declared when a unit is put together. -/
theorem becomes_asking (hw : d.workspace.Becomes d.Asking w) :
    d.workspace.Becomes Action.Asking w := by
  refine hw.imp fun action haction => ?_
  unfold Asking at haction
  split at haction
  · trivial
  · trivial
  · trivial
  · trivial
  · exact haction.elim

theorem reports_require (hw : d.workspace.Becomes d.Asking w) (hn : d.Wants w n) :
    Reports d.ReportsEmitting (w.require n true) := by
  intro e he
  obtain ⟨w', h⟩ := of_require_eq_error he
  exact .produced (becomes_asking hw) hn h

theorem asking_of_require (hw : d.workspace.Becomes d.Asking w) (hn : d.Wants w n)
    (h : w.require n true = .ok (t, w')) : d.workspace.Becomes d.Asking w' :=
  hw.trans (becomes_of_require (hn.congr (becomes_asking hw).skeleton_eq.symm) h)

theorem reports_checkInterface {f : Interface} (hf : d.interface = some f) (arena : TypeArena)
    (t : Ty) : Reports d.ReportsEmitting (checkInterface arena t f.members) := by
  rw [checkInterface]
  split
  · rename_i type v hfound
    have hv : v ∈ f.members := (List.of_mem_zip (List.mem_of_find?_eq_some hfound)).2
    exact .error (.noted (.interfaceVariable hf hv) rfl)
  · exact .ok _

theorem reports_layOutInterface :
    Reports d.ReportsEmitting (layOutInterface d.workspace d.interface) := by
  cases hf : d.interface with
  | none => exact .ok _
  | some f =>
    refine (reports_require (.refl _) (.interface hf)).bind fun made _ => ?_
    exact (reports_checkInterface hf _ _).bind fun _ _ => .ok _

theorem asking_of_layOutInterface {pointer : Option Ty}
    (h : layOutInterface d.workspace d.interface = .ok (pointer, w)) :
    d.workspace.Becomes d.Asking w := by
  cases hf : d.interface with
  | none =>
    rw [hf] at h
    obtain ⟨-, rfl⟩ := Prod.mk.inj (Except.ok.inj h)
    exact .refl _
  | some f =>
    rw [hf] at h
    obtain ⟨⟨t, w₁⟩, hrequire, h⟩ := of_bind_eq_ok h
    obtain ⟨_, -, h⟩ := of_bind_eq_ok h
    obtain ⟨-, rfl⟩ := Prod.mk.inj (Except.ok.inj h)
    exact (asking_of_require (.refl _) (.interface hf) hrequire).trans
      (w₁.becomes_arena (a := .pointer t defaultAddressSpace) trivial)

theorem reports_addGlobal {g : ShaderGlobal} (hg : g ∈ d.globals)
    (he : d.workspace.Becomes d.Asking e.workspace) :
    Reports d.ReportsEmitting (addGlobal d e g) := by
  rw [addGlobal]
  split
  · rename_i hnone
    exact .error (.lostPointee hg (becomes_asking he) hnone)
  · rename_i pointee hpointee
    refine (reports_require he (.global hg hpointee)).bind fun made _ => ?_
    dsimp only
    split
    · exact .error (.noted (.global hg) rfl)
    · exact .ok _

theorem asking_of_addGlobal {g : ShaderGlobal} (hg : g ∈ d.globals)
    (he : d.workspace.Becomes d.Asking e.workspace) (h : addGlobal d e g = .ok e') :
    d.workspace.Becomes d.Asking e'.workspace := by
  rw [addGlobal] at h
  split at h
  · exact absurd h (by simp)
  · rename_i pointee hpointee
    obtain ⟨⟨t, w⟩, hrequire, h⟩ := of_bind_eq_ok h
    dsimp only at h
    split at h
    · exact absurd h (by simp)
    · rw [← Except.ok.inj h]
      exact asking_of_require he (.global hg hpointee) hrequire

theorem reports_addEntryPoints {wrapperType : Ty} {paramNames : List String} {unit : CodeUnit}
    {points : List ShaderEntryPoint} (hpoints : ∀ p ∈ points, p ∈ d.entryPoints) :
    Reports d.ReportsEmitting (addEntryPoints d wrapperType paramNames unit points) := by
  induction points generalizing unit with
  | nil => exact .ok _
  | cons p points ih =>
    obtain ⟨hp, hrest⟩ := List.forall_mem_cons.mp hpoints
    rw [addEntryPoints]
    refine .bind ?_ fun first _ => (ih hrest).bind fun others _ => .ok _
    rw [Emission.addEntryPoint]
    split
    · exact .ok _
    · exact .error (.noted (.entryPoint hp) rfl)

theorem reports_checkFunction {f : ShaderFunction} (hf : f ∈ d.functions) (arena : TypeArena)
    (t : Ty) : Reports d.ReportsEmitting (checkFunction arena t f) := by
  rw [checkFunction]
  split
  · split
    · exact .error (.noted (.function hf) rfl)
    · split
      · exact .error (.noted (.function hf) rfl)
      · exact .ok _
  · exact .ok _

theorem reports_addFunction {f : ShaderFunction} (hf : f ∈ d.functions)
    (he : d.workspace.Becomes d.Asking e.workspace) :
    Reports d.ReportsEmitting (addFunction d e f) := by
  rw [addFunction]
  refine (reports_require he (.function hf)).bind fun made _ =>
    (reports_checkFunction hf _ _).bind fun _ _ => ?_
  dsimp only
  split
  · exact .error (.noted (.function hf) rfl)
  · exact .ok _

theorem asking_of_addFunction {f : ShaderFunction} (hf : f ∈ d.functions)
    (he : d.workspace.Becomes d.Asking e.workspace) (h : addFunction d e f = .ok e') :
    d.workspace.Becomes d.Asking e'.workspace := by
  rw [addFunction] at h
  obtain ⟨⟨t, w⟩, hrequire, h⟩ := of_bind_eq_ok h
  obtain ⟨_, -, h⟩ := of_bind_eq_ok h
  dsimp only at h
  split at h
  · exact absurd h (by simp)
  · rw [← Except.ok.inj h]
    exact asking_of_require he (.function hf) hrequire

theorem asking_foldlM_addGlobal (he : d.workspace.Becomes d.Asking e.workspace)
    (h : d.globals.foldlM (addGlobal d) e = .ok e') :
    d.workspace.Becomes d.Asking e'.workspace :=
  foldlM_keeps (P := fun e => d.workspace.Becomes d.Asking e.workspace)
    (fun _ _ hg _ hstep he => asking_of_addGlobal hg he hstep) he h

/-- The types of wrappers are asked for between the globals and the functions. -/
theorem asking_wrapper (he : d.workspace.Becomes d.Asking w) (params : List Ty) :
    d.workspace.Becomes d.Asking
      ((w.act (.arena .void)).act (.arena (.function w.arena.void.1 params false))) :=
  (he.trans (w.becomes_arena (a := .void) trivial)).trans
    (becomes_arena _ (a := .function w.arena.void.1 params false) trivial)

/-- **What is reported when a unit is put together is of these kinds.** -/
theorem reports_emit (name : String) : Reports d.ReportsEmitting (d.emit name) := by
  rw [emit]
  split
  · rename_i f hf
    exact .error (.noted (.openFunction hf) rfl)
  · refine reports_layOutInterface.bind fun opened hopened => ?_
    obtain ⟨pointer, w⟩ := opened
    have hw := asking_of_layOutInterface hopened
    refine (Reports.foldlM (I := fun e => d.workspace.Becomes d.Asking e.workspace)
      (fun e g hg he => reports_addGlobal hg he)
      (fun e g hg e' hstep he => asking_of_addGlobal hg he hstep) hw).bind fun e he => ?_
    dsimp only
    refine (reports_addEntryPoints fun p hp => hp).bind fun wrapped _ => ?_
    exact (Reports.foldlM (I := fun e => d.workspace.Becomes d.Asking e.workspace)
      (fun e f hf he => reports_addFunction hf he)
      (fun e f hf e' hstep he => asking_of_addFunction hf he hstep)
      (asking_wrapper (asking_foldlM_addGlobal hw he) pointer.toList)).bind fun _ _ => .ok _

/-- A unit is put together only when all functions have ended. -/
theorem openFunction_of_emit {name : String} {m : LoweredModule} (h : d.emit name = .ok m) :
    d.openFunction = none := by
  rw [emit] at h
  split at h
  · exact absurd h (by simp)
  · assumption

/-- **A unit that is put together leaves a workspace of which only the types were asked for that
are wanted.** -/
theorem becomes_of_emit {name : String} {m : LoweredModule} (h : d.emit name = .ok m) :
    ∃ w, d.workspace.Becomes d.Asking w ∧ m.workspace = w.detachAll := by
  rw [emit] at h
  split at h
  · exact absurd h (by simp)
  · obtain ⟨⟨pointer, w⟩, hinterface, h⟩ := of_bind_eq_ok h
    obtain ⟨e₁, hglobals, h⟩ := of_bind_eq_ok h
    dsimp only at hglobals h
    obtain ⟨⟨entryPoints, unit⟩, -, h⟩ := of_bind_eq_ok h
    obtain ⟨e, hfunctions, h⟩ := of_bind_eq_ok h
    have he₁ := asking_foldlM_addGlobal (asking_of_layOutInterface hinterface) hglobals
    refine ⟨e.workspace, ?_, (congrArg LoweredModule.workspace (Except.ok.inj h)).symm⟩
    exact foldlM_keeps (P := fun e => d.workspace.Becomes d.Asking e.workspace)
      (fun _ _ hf _ hstep he => asking_of_addFunction hf he hstep)
      (asking_wrapper he₁ pointer.toList) hfunctions

theorem asking_of_emit {name : String} {m : LoweredModule} (h : d.emit name = .ok m) :
    ∃ w, d.workspace.Becomes Action.Asking w ∧ m.workspace = w.detachAll := by
  obtain ⟨w, hw, heq⟩ := becomes_of_emit h
  exact ⟨w, becomes_asking hw, heq⟩

/-- **What is reported of a shader** is reported when one of its instructions is read, or
when the unit is put together. -/
theorem of_lower_eq_error {arena : TypeArena} {shader : ShaderModule} {name : String}
    {e : Diagnostic} (h : lower arena shader name = .error e) :
    (∃ before i after d, shader.instructions = before ++ i :: after ∧
      ofInstructions arena before = .ok d ∧ d.ReportsAt i e) ∨
      ∃ d, ofInstructions arena shader.instructions = .ok d ∧ d.ReportsEmitting e := by
  rw [lower] at h
  cases hd : ofInstructions arena shader.instructions with
  | error d =>
    rw [hd] at h
    obtain rfl := Except.error.inj h
    obtain ⟨before, i, after, d, heq, hbefore, hi⟩ := exists_of_foldlM_eq_error hd
    exact Or.inl ⟨before, i, after, d, heq, hbefore, reports_visit d i _ hi⟩
  | ok d =>
    rw [hd] at h
    exact Or.inr ⟨d, rfl, reports_emit name e h⟩

end Declarations

end ShaderLowering
