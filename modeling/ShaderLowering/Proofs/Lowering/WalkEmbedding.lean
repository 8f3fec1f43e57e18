import ShaderLowering.Lowering.Walk
import ShaderLowering.Proofs.TypeGraph.Embedding

/-!
# The walk does not see the numbers of nodes

The declarations of a shader may be found in others that have their nodes under other numbers,
and a node and an id besides (`ShaderLowering.Declarations.Embeds`). An instruction that does
not mention the id besides does the same to both: it is refused in both, or the ones are found
in the others as before, and the id besides still stands for what it stood for
(`ShaderLowering.Declarations.Embeds.visit`).

Each handler is compared with itself. What it reads of its instruction is the same for both,
and the types it looks up stand for one another because the ids it looks up are among the
operands.
-/

namespace ShaderLowering

/-- The global with its type under another number. -/
def ShaderGlobal.relocate (σ : NodeId → NodeId) (g : ShaderGlobal) : ShaderGlobal :=
  { g with pointerType := σ g.pointerType }

/-- The function with its type under another number. -/
def ShaderFunction.relocate (σ : NodeId → NodeId) (f : ShaderFunction) : ShaderFunction :=
  { f with type := σ f.type }

/-- The interface with its struct under another number. -/
def Interface.relocate (σ : NodeId → NodeId) (f : Interface) : Interface :=
  { f with node := σ f.node }

namespace Declarations

/-- The declarations with their nodes under other numbers, in another workspace and with other
ids of types. -/
def placed (σ : NodeId → NodeId) (d : Declarations) (workspace : Workspace)
    (types : List (Id × NodeId)) : Declarations :=
  { d with
    workspace
    types
    globals := d.globals.map (ShaderGlobal.relocate σ)
    functions := d.functions.map (ShaderFunction.relocate σ)
    openFunction := d.openFunction.map (ShaderFunction.relocate σ)
    interface := d.interface.map (Interface.relocate σ) }

/-- The ids of types stand for one another, but for those that are hidden: the first know
nothing of them, and in the second they stand for `shown`. -/
structure TypesEmbed (σ : NodeId → NodeId) (hidden : Id → Prop) (shown : Option NodeId)
    (types types' : List (Id × NodeId)) : Prop where
  lookup : ∀ id, ¬hidden id → types'.lookup id = (types.lookup id).map σ
  hidden : ∀ id, hidden id → types.lookup id = none ∧ types'.lookup id = shown

/-- **The declarations are found in others**, with their nodes under the numbers that `σ` gives
them. -/
def Embeds (σ : NodeId → NodeId) (rest : NodeId → Option Node) (hidden : Id → Prop)
    (shown : Option NodeId) (d d' : Declarations) : Prop :=
  ∃ w' types', Workspace.Embeds σ rest d.workspace w' ∧
    TypesEmbed σ hidden shown d.types types' ∧ d' = d.placed σ w' types'

variable {σ : NodeId → NodeId} {rest : NodeId → Option Node} {hidden : Id → Prop}
  {shown : Option NodeId} {d : Declarations} {v w w' : Workspace}
  {types types' : List (Id × NodeId)} {i : Instruction} {id : Id}

/-! ### What is read and looked up -/

/-- The same operand goes on to work that concurs, and it is one of the operands. -/
theorem concurs_operand {α β : Type} {S : α → β → Prop} {index : Nat}
    {next : Word → Except Diagnostic α} {next' : Word → Except Diagnostic β}
    (hnext : ∀ word ∈ i.operands, Concurs S (next word) (next' word)) :
    Concurs S (i.operand index >>= next) (i.operand index >>= next') := by
  refine .bind_same fun word hword => hnext word ?_
  rw [Instruction.operand] at hword
  split at hword
  · rename_i w hw
    obtain rfl := Except.ok.inj hword
    exact List.mem_of_getElem? hw
  · exact absurd hword (by simp)

/-- Types that are looked up stand for one another. -/
theorem concurs_typeNode (ht : TypesEmbed σ hidden shown d.types types') (hid : ¬hidden id) :
    Concurs (fun n n' => n' = σ n) (d.typeNode i id) ((d.placed σ w' types').typeNode i id) := by
  have hlookup : (d.placed σ w' types').types.lookup id = (d.types.lookup id).map σ :=
    ht.lookup id hid
  rw [typeNode, typeNode, hlookup]
  cases d.types.lookup id with
  | none => exact .error _ _
  | some n => exact .ok rfl

theorem concurs_typeNodes (ht : TypesEmbed σ hidden shown d.types types') {ids : List Id}
    (hids : ∀ id ∈ ids, ¬hidden id) :
    Concurs (fun ns ns' => ns' = ns.map σ) (ids.mapM (d.typeNode i))
      (ids.mapM ((d.placed σ w' types').typeNode i)) := by
  induction ids with
  | nil => exact .ok rfl
  | cons id ids ih =>
    obtain ⟨hid, hids⟩ := List.forall_mem_cons.mp hids
    rw [List.mapM_cons, List.mapM_cons]
    refine (concurs_typeNode ht hid).bind ?_
    rintro n _ rfl
    refine (ih hids).bind ?_
    rintro ns _ rfl
    exact .ok rfl

theorem not_hidden_of_mem_operandsFrom (hi : ∀ word ∈ i.operands, ¬hidden word) (index : Nat) :
    ∀ word ∈ i.operandsFrom index, ¬hidden word :=
  fun word hword => hi word (List.mem_of_mem_drop hword)

/-! ### Type declarations -/

/-- A type is declared for a node that is added to both. -/
theorem concurs_define (ht : TypesEmbed σ hidden shown d.types types') (hid : ¬hidden id)
    {n n' : NodeId} (h : Workspace.Embeds σ rest w w' ∧ n' = σ n) :
    Concurs (Embeds σ rest hidden shown) (d.define i id (n, w))
      ((d.placed σ v types').define i id (n', w')) := by
  obtain ⟨hw, rfl⟩ := h
  have hlookup : (d.placed σ v types').types.lookup id = (d.types.lookup id).map σ :=
    ht.lookup id hid
  rw [define, define, hlookup]
  cases hfound : d.types.lookup id with
  | some n => exact .error _ _
  | none =>
    refine .ok ⟨w', (id, σ n) :: types', hw, ⟨fun id' hid' => ?_, fun id' hid' => ?_⟩, rfl⟩
    · rw [List.lookup_cons, List.lookup_cons]
      cases id' == id with
      | true => rfl
      | false => exact ht.lookup id' hid'
    · have hne : (id' == id) = false := by
        rw [beq_eq_false_iff_ne]
        rintro rfl
        exact hid hid'
      rw [List.lookup_cons, List.lookup_cons, hne]
      exact ht.hidden id' hid'

theorem concurs_defineSimple (hw : Workspace.Embeds σ rest d.workspace w')
    (ht : TypesEmbed σ hidden shown d.types types') (hid : ¬hidden id) (made : Ty × TypeArena) :
    Concurs (Embeds σ rest hidden shown) (d.defineSimple i id made)
      ((d.placed σ w' types').defineSimple i id made) :=
  concurs_define ht hid ((hw.withArena made.2).add ⟨rfl, rfl⟩)

theorem concurs_defineFormed (hw : Workspace.Embeds σ rest d.workspace w')
    (ht : TypesEmbed σ hidden shown d.types types') (hid : ¬hidden id) (former : Former) :
    Concurs (Embeds σ rest hidden shown) (d.defineFormed i id former)
      ((d.placed σ w' types').defineFormed i id (former.relocate σ)) :=
  concurs_define ht hid (hw.add ⟨rfl, rfl⟩)

theorem concurs_declareScalar (hw : Workspace.Embeds σ rest d.workspace w')
    (ht : TypesEmbed σ hidden shown d.types types') (hid : ¬hidden id)
    (make : Nat → Except TypeFault (Ty × TypeArena)) :
    Concurs (Embeds σ rest hidden shown) (d.declareScalar i id make)
      ((d.placed σ w' types').declareScalar i id make) := by
  refine .bind_same fun width _ => .bind_same fun made _ => ?_
  refine (concurs_defineSimple hw ht hid made).bind fun d₁ d₁' hd => ?_
  obtain ⟨w₁', types₁', hw₁, ht₁, rfl⟩ := hd
  exact .ok ⟨w₁', types₁', hw₁, ht₁, rfl⟩

theorem concurs_declareVector (hw : Workspace.Embeds σ rest d.workspace w')
    (ht : TypesEmbed σ hidden shown d.types types') (hid : ¬hidden id)
    (hi : ∀ word ∈ i.operands, ¬hidden word)
    (make : TypeArena → Ty → Nat → Except TypeFault (Ty × TypeArena)) :
    Concurs (Embeds σ rest hidden shown) (d.declareVector i id make)
      ((d.placed σ w' types').declareVector i id make) := by
  refine concurs_operand fun componentId hmem => (concurs_typeNode ht (hi _ hmem)).bind ?_
  rintro component _ rfl
  refine .bind_same fun count _ => ?_
  obtain ⟨hconcurs, hproduced⟩ := hw.produce component true
  have harena := hproduced.arena
  dsimp only [placed]
  generalize d.workspace.produce component true = produced at hconcurs hproduced harena
  generalize w'.produce (σ component) true = produced' at hconcurs hproduced harena
  refine hconcurs.bind ?_
  rintro t _ rfl
  rw [harena]
  exact .bind_same fun made _ => concurs_defineSimple (d := { d with workspace := produced.2 })
    hproduced ht hid made

theorem concurs_declareArray (hw : Workspace.Embeds σ rest d.workspace w')
    (ht : TypesEmbed σ hidden shown d.types types') (hid : ¬hidden id)
    (hi : ∀ word ∈ i.operands, ¬hidden word) :
    Concurs (Embeds σ rest hidden shown) (d.declareArray i id)
      ((d.placed σ w' types').declareArray i id) := by
  refine concurs_operand fun elementId hmem => (concurs_typeNode ht (hi _ hmem)).bind ?_
  rintro element _ rfl
  refine .bind_same fun length _ => ?_
  dsimp only [placed]
  split
  · exact concurs_defineFormed hw ht hid _
  · exact .error _ _

theorem concurs_declareRuntimeArray (hw : Workspace.Embeds σ rest d.workspace w')
    (ht : TypesEmbed σ hidden shown d.types types') (hid : ¬hidden id)
    (hi : ∀ word ∈ i.operands, ¬hidden word) :
    Concurs (Embeds σ rest hidden shown) (d.declareRuntimeArray i id)
      ((d.placed σ w' types').declareRuntimeArray i id) := by
  refine concurs_operand fun elementId hmem => (concurs_typeNode ht (hi _ hmem)).bind ?_
  rintro element _ rfl
  exact concurs_defineFormed hw ht hid _

theorem concurs_declareStruct (hw : Workspace.Embeds σ rest d.workspace w')
    (ht : TypesEmbed σ hidden shown d.types types') (hid : ¬hidden id)
    (hi : ∀ word ∈ i.operands, ¬hidden word) :
    Concurs (Embeds σ rest hidden shown) (d.declareStruct i id)
      ((d.placed σ w' types').declareStruct i id) := by
  refine (concurs_typeNodes ht (not_hidden_of_mem_operandsFrom hi 1)).bind ?_
  rintro types _ rfl
  have hmembers : (types.map σ).mapIdx (fun index type =>
        { decorations := d.decorationsOf (.member id index), type : Member }) =
      (types.mapIdx fun index type =>
        { decorations := d.decorationsOf (.member id index), type : Member }).map
          (Member.relocate σ) := by
    apply List.ext_getElem?
    intro k
    simp [Function.comp_def, Member.relocate]
  have hadded := hw.addStruct (d.nameOf id s!"struct_{id}")
    (types.mapIdx fun index type =>
      { decorations := d.decorationsOf (.member id index), type : Member }) i.start
  rw [← hmembers] at hadded
  exact concurs_define ht hid hadded

theorem concurs_declareForwardPointer (hw : Workspace.Embeds σ rest d.workspace w')
    (ht : TypesEmbed σ hidden shown d.types types') (hid : ¬hidden id) :
    Concurs (Embeds σ rest hidden shown) (d.declareForwardPointer i id)
      ((d.placed σ w' types').declareForwardPointer i id) :=
  .bind_same fun _ _ => .bind_same fun _ _ => concurs_defineFormed hw ht hid _

theorem concurs_declarePointer (hw : Workspace.Embeds σ rest d.workspace w')
    (ht : TypesEmbed σ hidden shown d.types types') (hid : ¬hidden id)
    (hi : ∀ word ∈ i.operands, ¬hidden word) :
    Concurs (Embeds σ rest hidden shown) (d.declarePointer i id)
      ((d.placed σ w' types').declarePointer i id) := by
  refine .bind_same fun word _ => .bind_same fun storage _ =>
    concurs_operand fun pointeeId hmem => (concurs_typeNode ht (hi _ hmem)).bind ?_
  rintro pointee _ rfl
  have hlookup : (d.placed σ w' types').types.lookup id = (d.types.lookup id).map σ :=
    ht.lookup id hid
  rw [hlookup]
  cases d.types.lookup id with
  | none => exact concurs_defineFormed hw ht hid (.pointer (some pointee) storage)
  | some forward =>
    have hformer : ((d.placed σ w' types').workspace.node? (σ forward)).bind Node.former? =
        ((d.workspace.node? forward).bind Node.former?).map (Former.relocate σ) :=
      hw.bind_node? (fun _ _ hr => hr.former?) forward
    dsimp only [Option.map_some]
    rw [hformer]
    rcases (d.workspace.node? forward).bind Node.former? with
      _ | ⟨_ | bound, declared⟩ | ⟨result, args, variadic⟩ | ⟨element, count⟩
    · exact .error _ _
    · dsimp only [Option.map_some, Former.relocate, Option.map_none]
      split
      · exact .error _ _
      · have hbind := hw.bind? forward pointee
        change Option.Rel _ _ ((d.placed σ w' types').workspace.bind? _ _) at hbind
        generalize d.workspace.bind? forward pointee = bound at hbind
        generalize (d.placed σ w' types').workspace.bind? (σ forward) (σ pointee) = bound' at hbind
        cases hbind with
        | none => exact .error _ _
        | some hconcurs =>
          exact hconcurs.bind fun w₁ w₁' hw₁ => .ok ⟨w₁', types', hw₁, ht, rfl⟩
    · exact .error _ _
    · exact .error _ _
    · exact .error _ _

theorem concurs_declareFunctionType (hw : Workspace.Embeds σ rest d.workspace w')
    (ht : TypesEmbed σ hidden shown d.types types') (hid : ¬hidden id)
    (hi : ∀ word ∈ i.operands, ¬hidden word) :
    Concurs (Embeds σ rest hidden shown) (d.declareFunctionType i id)
      ((d.placed σ w' types').declareFunctionType i id) := by
  refine concurs_operand fun resultId hmem => (concurs_typeNode ht (hi _ hmem)).bind ?_
  rintro result _ rfl
  refine (concurs_typeNodes ht (not_hidden_of_mem_operandsFrom hi 2)).bind ?_
  rintro args _ rfl
  exact concurs_defineFormed hw ht hid _

theorem concurs_declareType (hw : Workspace.Embeds σ rest d.workspace w')
    (ht : TypesEmbed σ hidden shown d.types types') (hi : ∀ word ∈ i.operands, ¬hidden word)
    (op : Opcode) :
    Concurs (Embeds σ rest hidden shown) (d.declareType op i)
      ((d.placed σ w' types').declareType op i) := by
  refine concurs_operand fun id hmem => ?_
  have hid := hi id hmem
  have harena : (d.placed σ w' types').workspace.arena = d.workspace.arena := hw.arena
  dsimp only
  rw [harena]
  split
  · exact concurs_defineSimple hw ht hid _
  · exact concurs_defineSimple hw ht hid _
  · exact concurs_declareScalar hw ht hid _
  · exact concurs_declareScalar hw ht hid _
  · exact concurs_declareVector hw ht hid hi _
  · exact concurs_declareVector hw ht hid hi _
  · exact concurs_declareArray hw ht hid hi
  · exact concurs_declareRuntimeArray hw ht hid hi
  · exact concurs_declareStruct hw ht hid hi
  · exact concurs_declareForwardPointer hw ht hid
  · exact concurs_declarePointer hw ht hid hi
  · exact concurs_declareFunctionType hw ht hid hi
  · exact .error _ _

/-! ### Other instructions -/

theorem concurs_addName (hw : Workspace.Embeds σ rest d.workspace w')
    (ht : TypesEmbed σ hidden shown d.types types') :
    Concurs (Embeds σ rest hidden shown) (d.addName i) ((d.placed σ w' types').addName i) :=
  .bind_same fun _ _ => .bind_same fun _ _ => .ok ⟨w', types', hw, ht, rfl⟩

theorem concurs_addDecoration (hw : Workspace.Embeds σ rest d.workspace w')
    (ht : TypesEmbed σ hidden shown d.types types') (target : DecorationTarget) (index : Nat) :
    Concurs (Embeds σ rest hidden shown) (d.addDecoration i target index)
      ((d.placed σ w' types').addDecoration i target index) := by
  refine .bind_same fun decoration _ => ?_
  cases decoration with
  | none => exact .ok ⟨w', types', hw, ht, rfl⟩
  | some decoration => exact .ok ⟨w', types', hw, ht, rfl⟩

theorem concurs_addEntryPoint (hw : Workspace.Embeds σ rest d.workspace w')
    (ht : TypesEmbed σ hidden shown d.types types') :
    Concurs (Embeds σ rest hidden shown) (d.addEntryPoint i)
      ((d.placed σ w' types').addEntryPoint i) :=
  .bind_same fun _ _ => .bind_same fun _ _ => .bind_same fun _ _ => .bind_same fun _ _ =>
    .ok ⟨w', types', hw, ht, rfl⟩

theorem concurs_addExecutionMode (hw : Workspace.Embeds σ rest d.workspace w')
    (ht : TypesEmbed σ hidden shown d.types types') :
    Concurs (Embeds σ rest hidden shown) (d.addExecutionMode i)
      ((d.placed σ w' types').addExecutionMode i) := by
  refine .bind_same fun function _ => .bind_same fun word _ => ?_
  split
  · exact .ok ⟨w', types', hw, ht, rfl⟩
  · refine .bind_same fun size _ => ?_
    have hentries : (d.placed σ w' types').entryPoints = d.entryPoints := rfl
    rw [hentries]
    split
    · exact .ok ⟨w', types', hw, ht, rfl⟩
    · exact .error _ _

theorem concurs_addConstant (hw : Workspace.Embeds σ rest d.workspace w')
    (ht : TypesEmbed σ hidden shown d.types types') :
    Concurs (Embeds σ rest hidden shown) (d.addConstant i)
      ((d.placed σ w' types').addConstant i) :=
  .bind_same fun _ _ => .bind_same fun _ _ => .bind_same fun _ _ => .ok ⟨w', types', hw, ht, rfl⟩

/-- The interface is opened in both workspaces. -/
theorem embeds_openInterface (hw : Workspace.Embeds σ rest d.workspace w')
    (types' : List (Id × NodeId)) (start : Nat) :
    Workspace.Embeds σ rest (d.openInterface start).2
        ((d.placed σ w' types').openInterface start).2 ∧
      ((d.placed σ w' types').openInterface start).1 =
        (d.openInterface start).1.relocate σ := by
  rw [openInterface, openInterface]
  dsimp only [placed]
  cases d.interface with
  | some interface => exact ⟨hw, rfl⟩
  | none =>
    obtain ⟨hadded, heq⟩ := hw.addStruct interfaceStructName [] start
    exact ⟨hadded, congrArg (fun node => ({ node } : Interface)) heq⟩

theorem concurs_addInterfaceVariable (hw : Workspace.Embeds σ rest d.workspace w')
    (ht : TypesEmbed σ hidden shown d.types types') (pointee : NodeId) :
    Concurs (Embeds σ rest hidden shown) (d.addInterfaceVariable i id pointee)
      ((d.placed σ w' types').addInterfaceVariable i id (σ pointee)) := by
  obtain ⟨hopened, heq⟩ := embeds_openInterface hw types' i.start
  have hadded := hopened.addMember? (d.openInterface i.start).1.node
    { decorations := d.decorationsOf (.object id), type := pointee }
  have hdecorations : (d.placed σ w' types').decorationsOf (.object id) =
      d.decorationsOf (.object id) := rfl
  rw [addInterfaceVariable, addInterfaceVariable]
  dsimp only
  rw [heq, hdecorations]
  change Option.Rel _ _ (Workspace.addMember? _ ((d.openInterface i.start).1.relocate σ).node
    { decorations := d.decorationsOf (.object id), type := σ pointee }) at hadded
  generalize Workspace.addMember? (d.openInterface i.start).2 _ _ = grown at hadded
  generalize Workspace.addMember? _ _ _ = grown' at hadded
  cases hadded with
  | none => exact .error _ _
  | some hconcurs => exact hconcurs.bind fun w₁ w₁' hw₁ => .ok ⟨w₁', types', hw₁, ht, rfl⟩

theorem concurs_addVariable (hw : Workspace.Embeds σ rest d.workspace w')
    (ht : TypesEmbed σ hidden shown d.types types') (hi : ∀ word ∈ i.operands, ¬hidden word) :
    Concurs (Embeds σ rest hidden shown) (d.addVariable i)
      ((d.placed σ w' types').addVariable i) := by
  refine concurs_operand fun typeId hmem => (concurs_typeNode ht (hi _ hmem)).bind ?_
  rintro pointerType _ rfl
  refine .bind_same fun id _ => .bind_same fun word _ => .bind_same fun storage _ => ?_
  have hformer : ((d.placed σ w' types').workspace.node? (σ pointerType)).bind Node.former? =
      ((d.workspace.node? pointerType).bind Node.former?).map (Former.relocate σ) :=
    hw.bind_node? (fun _ _ hr => hr.former?) pointerType
  dsimp only
  rw [hformer]
  split
  · exact .error _ _
  · rcases (d.workspace.node? pointerType).bind Node.former? with
      _ | ⟨_ | pointee, declared⟩ | ⟨result, args, variadic⟩ | ⟨element, count⟩
    · exact .error _ _
    · exact .error _ _
    · dsimp only [Option.map_some, Former.relocate]
      split
      · exact concurs_addInterfaceVariable hw ht pointee
      · refine .ok ⟨w', types', hw, ht, ?_⟩
        simp only [placed, List.map_append, List.map_cons, List.map_nil, ShaderGlobal.relocate]
    · exact .error _ _
    · exact .error _ _

theorem concurs_beginFunction (hw : Workspace.Embeds σ rest d.workspace w')
    (ht : TypesEmbed σ hidden shown d.types types') (hi : ∀ word ∈ i.operands, ¬hidden word) :
    Concurs (Embeds σ rest hidden shown) (d.beginFunction i)
      ((d.placed σ w' types').beginFunction i) := by
  refine concurs_operand fun resultType hresult => .bind_same fun id _ => .bind_same fun word _ =>
    concurs_operand fun typeId hmem => (concurs_typeNode ht (hi _ hmem)).bind ?_
  rintro type _ rfl
  have hfunction : ((d.placed σ w' types').workspace.node? (σ type)).any Node.isFunction =
      (d.workspace.node? type).any Node.isFunction :=
    hw.any_isFunction type
  have hlookup : (d.placed σ w' types').types.lookup resultType =
      (d.types.lookup resultType).map σ :=
    ht.lookup resultType (hi _ hresult)
  rw [hfunction, hlookup, Option.isNone_map]
  split
  · exact .error _ _
  · split
    · exact .error _ _
    · exact .ok ⟨w', types', hw, ht, rfl⟩

theorem concurs_visitInside (hw : Workspace.Embeds σ rest d.workspace w')
    (ht : TypesEmbed σ hidden shown d.types types') (f : ShaderFunction) :
    Concurs (Embeds σ rest hidden shown) (d.visitInside f i)
      ((d.placed σ w' types').visitInside (f.relocate σ) i) := by
  rw [visitInside, visitInside]
  split
  · exact .bind_same fun _ _ => .ok ⟨w', types', hw, ht, rfl⟩
  · refine .ok ⟨w', types', hw, ht, ?_⟩
    simp only [placed, List.map_append, List.map_cons, List.map_nil, Option.map_none]
  · exact .error _ _
  · exact .ok ⟨w', types', hw, ht, rfl⟩

theorem concurs_visitOutside (hw : Workspace.Embeds σ rest d.workspace w')
    (ht : TypesEmbed σ hidden shown d.types types') (hi : ∀ word ∈ i.operands, ¬hidden word)
    (op : Opcode) :
    Concurs (Embeds σ rest hidden shown) (d.visitOutside op i)
      ((d.placed σ w' types').visitOutside op i) := by
  rw [visitOutside.eq_def, visitOutside.eq_def]
  split
  · exact concurs_addName hw ht
  · exact .bind_same fun id _ => concurs_addDecoration hw ht (.object id) 1
  · exact .bind_same fun struct _ => .bind_same fun index _ =>
      concurs_addDecoration hw ht (.member struct index.toNat) 2
  · exact .error _ _
  · exact .error _ _
  · exact .error _ _
  · exact concurs_addEntryPoint hw ht
  · exact concurs_addExecutionMode hw ht
  · exact concurs_addConstant hw ht
  · exact concurs_addConstant hw ht
  · exact concurs_addVariable hw ht hi
  · exact concurs_beginFunction hw ht hi
  · exact .error _ _
  · exact .error _ _
  · split
    · exact concurs_declareType hw ht hi op
    · exact .ok ⟨w', types', hw, ht, rfl⟩

/-- **An instruction does the same to both**, if it does not mention what is hidden. -/
theorem Embeds.visit {d d' : Declarations} (h : Embeds σ rest hidden shown d d')
    (hi : ∀ word ∈ i.operands, ¬hidden word) :
    Concurs (Embeds σ rest hidden shown) (d.visit i) (d'.visit i) := by
  obtain ⟨w', types', hw, ht, rfl⟩ := h
  have hopen : (d.placed σ w' types').openFunction =
      d.openFunction.map (ShaderFunction.relocate σ) := rfl
  rw [Declarations.visit, Declarations.visit, hopen]
  cases d.openFunction with
  | some f => exact concurs_visitInside hw ht f
  | none =>
    cases i.op? with
    | some op => exact concurs_visitOutside hw ht hi op
    | none => exact .ok ⟨w', types', hw, ht, rfl⟩

/-- **Instructions do the same to both**, if none of them mentions what is hidden. -/
theorem Embeds.foldlM {d d' : Declarations} (h : Embeds σ rest hidden shown d d')
    {instructions : List Instruction} (hi : ∀ i ∈ instructions, ∀ word ∈ i.operands, ¬hidden word) :
    Concurs (Embeds σ rest hidden shown) (instructions.foldlM Declarations.visit d)
      (instructions.foldlM Declarations.visit d') := by
  refine Concurs.foldlM (T := fun i i' => i' = i ∧ ∀ word ∈ i.operands, ¬hidden word) ?_
    (List.forall₂_same.mpr fun i hmem => ⟨rfl, hi i hmem⟩) h
  rintro d d' i _ ⟨rfl, hi⟩ h
  exact h.visit hi

end Declarations

end ShaderLowering
