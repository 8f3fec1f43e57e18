import ShaderLowering.Lowering.Walk
import ShaderLowering.Proofs.TypeGraph.Renaming

/-!
# The walk does not see handles

The declarations of a shader hold types in one place only, their workspace. Read from an
arena that holds types already, the instructions of a shader are refused as they would be
otherwise, or they declare the same with other handles
(`ShaderLowering.Declarations.alike_ofInstructions`).

Each handler is compared with itself on declarations that are
`ShaderLowering.Declarations.Alike`. What it reads of its instruction is the same for
both, and so is what it looks up; the steps that make types or nodes are those of
`ShaderLowering.TypeArena.Renamed` and `ShaderLowering.Workspace.Renamed`.
-/

namespace ShaderLowering

open TypeArena (Extends IsRenamed)

/-! ### Types that are asked for -/

/-- Two arenas answer alike, and are alike afterwards. -/
def TypeArena.MadeAlike (old : TypeArena) (ρ : Ty → Ty) (a : TypeArena)
    (made made' : Ty × TypeArena) : Prop :=
  ∃ ρ₁, TypeArena.Renamed old ρ₁ made.2 made'.2 ∧ Extends a ρ made.2 ρ₁ ∧
    IsRenamed ρ₁ made.2 made.1 made'.1

namespace TypeArena.Renamed

variable {old a b : TypeArena} {ρ : Ty → Ty} {d : TypeData} {t : Ty}

theorem madeAlike_intern (h : Renamed old ρ a b) (hd : d.IsStructural)
    (hparts : ∀ part ∈ d.parts, a.Has part) :
    MadeAlike old ρ a (a.intern d) (b.intern (d.rename ρ)) := by
  obtain ⟨ρ₁, hrenamed, hextends, hhas, heq⟩ := h.intern hd hparts
  exact ⟨ρ₁, hrenamed, hextends, hhas, heq⟩

theorem void (h : Renamed old ρ a b) : MadeAlike old ρ a a.void b.void :=
  h.madeAlike_intern (d := .void) trivial (List.forall_mem_nil _)

theorem bool (h : Renamed old ρ a b) : MadeAlike old ρ a a.bool b.bool :=
  h.madeAlike_intern (d := .int 1) trivial (List.forall_mem_nil _)

theorem int (h : Renamed old ρ a b) (bits : Nat) :
    Agrees (MadeAlike old ρ a) (a.int bits) (b.int bits) := by
  rw [TypeArena.int, TypeArena.int]
  split
  · exact .ok (h.madeAlike_intern (d := .int bits) trivial (List.forall_mem_nil _))
  · exact .error _

theorem float (h : Renamed old ρ a b) (bits : Nat) :
    Agrees (MadeAlike old ρ a) (a.float bits) (b.float bits) := by
  rw [TypeArena.float, TypeArena.float]
  split
  · exact .ok (h.madeAlike_intern (d := .float bits) trivial (List.forall_mem_nil _))
  · exact .error _

theorem vector (h : Renamed old ρ a b) (ht : a.Has t) (count : Nat) :
    Agrees (MadeAlike old ρ a) (a.vector t count) (b.vector (ρ t) count) := by
  rw [TypeArena.vector, TypeArena.vector]
  split
  · exact .error _
  · exact .ok (h.madeAlike_intern (d := .vector t count) trivial (List.forall_mem_singleton.mpr ht))

theorem array (h : Renamed old ρ a b) (ht : a.Has t) (count : Nat) :
    MadeAlike old ρ a (a.array t count) (b.array (ρ t) count) :=
  h.madeAlike_intern (d := .array t count) trivial (List.forall_mem_singleton.mpr ht)

theorem pointer (h : Renamed old ρ a b) (ht : a.Has t) (addressSpace : Nat) :
    MadeAlike old ρ a (a.pointer t addressSpace) (b.pointer (ρ t) addressSpace) :=
  h.madeAlike_intern (d := .pointer t addressSpace) trivial (List.forall_mem_singleton.mpr ht)

theorem function {params : List Ty} (h : Renamed old ρ a b) (ht : a.Has t)
    (hparams : ∀ param ∈ params, a.Has param) (variadic : Bool) :
    MadeAlike old ρ a (a.function t params variadic)
      (b.function (ρ t) (params.map ρ) variadic) :=
  h.madeAlike_intern (d := .function t params variadic) trivial
    (List.forall_mem_cons.mpr ⟨ht, hparams⟩)

end TypeArena.Renamed

/-! ### Nodes that are looked up and added -/

namespace Node

variable {ρ : Ty → Ty}

@[simp] theorem former?_rename (node : Node) : (node.rename ρ).former? = node.former? := by
  obtain ⟨start, guard, shape⟩ := node
  cases shape <;> rfl

@[simp] theorem isFunction_rename (node : Node) :
    (node.rename ρ).isFunction = node.isFunction := by
  rw [isFunction, isFunction, former?_rename]

@[simp] theorem pointee?_rename (node : Node) : (node.rename ρ).pointee? = node.pointee? := by
  rw [pointee?, pointee?, former?_rename]

@[simp] theorem args_rename (node : Node) : (node.rename ρ).args = node.args := by
  rw [args, args, former?_rename]

theorem bind?_rename (node : Node) (pointee : NodeId) :
    (node.rename ρ).bind? pointee =
      (node.bind? pointee).map fun result => result.map (Node.rename ρ) := by
  obtain ⟨start, guard, _ | ⟨⟨_ | _, _⟩ | _ | _, made⟩ | _⟩ := node
  all_goals rfl

theorem addMember?_rename (node : Node) (m : Member) :
    (node.rename ρ).addMember? m =
      (node.addMember? m).map fun result => result.map (Node.rename ρ) := by
  obtain ⟨start, guard, _ | _ | ⟨type, layout⟩⟩ := node
  · rfl
  · rfl
  · simp only [addMember?, rename, Shape.rename]
    split <;> rfl

/-- The changed node holds the types that the node holds, and is a struct only if it is. -/
def Keeps (node changed : Node) : Prop :=
  changed.shape.types = node.shape.types ∧
    ∀ t layout, changed.shape = .struct t layout → ∃ layout', node.shape = .struct t layout'

theorem keeps_of_bind? {node bound : Node} {pointee : NodeId}
    (h : node.bind? pointee = some (.ok bound)) : node.Keeps bound := by
  obtain ⟨start, guard, _ | ⟨⟨_ | _, _⟩ | _ | _, made⟩ | _⟩ := node
  all_goals simp only [bind?, Option.some.injEq, Except.ok.injEq, reduceCtorEq] at h
  subst h
  exact ⟨rfl, fun _ _ h => absurd h (by simp)⟩

theorem keeps_of_addMember? {node grown : Node} {m : Member}
    (h : node.addMember? m = some (.ok grown)) : node.Keeps grown := by
  obtain ⟨start, guard, _ | _ | ⟨type, layout⟩⟩ := node
  · exact absurd h (by simp [addMember?])
  · exact absurd h (by simp [addMember?])
  · rw [addMember?] at h
    dsimp only at h
    split at h
    · exact absurd h (by simp)
    · obtain rfl := Except.ok.inj (Option.some.inj h)
      refine ⟨rfl, fun t layout' hs => ?_⟩
      cases hs
      exact ⟨layout, rfl⟩

end Node

namespace Workspace.Renamed

variable {old : TypeArena} {ρ : Ty → Ty} {w w' : Workspace} {t u : Ty}

/-- What is asked about a node, unless it is about the types it holds, is answered alike. -/
theorem bind_node? {α : Type} (h : Workspace.Renamed old ρ w w') (n : NodeId)
    {f : Node → Option α} (hf : ∀ node, f (node.rename ρ) = f node) :
    (w'.node? n).bind f = (w.node? n).bind f := by
  rw [h.node?]
  cases w.node? n with
  | none => rfl
  | some node => exact hf node

theorem any_isFunction (h : Workspace.Renamed old ρ w w') (n : NodeId) :
    (w'.node? n).any Node.isFunction = (w.node? n).any Node.isFunction := by
  rw [h.node?, Option.any_map]
  congr 1
  exact funext Node.isFunction_rename

/-- A node for a type that refers to no other is added. -/
theorem addSimple (h : Workspace.Renamed old ρ w w') (ht : IsRenamed ρ w.arena t u)
    (start : Nat) :
    Workspace.Renamed old ρ (w.add (.simple t start)).2
        (w'.add (.simple u start)).2 ∧
      (w'.add (.simple u start)).1 = (w.add (.simple t start)).1 := by
  obtain ⟨hhas, rfl⟩ := ht
  exact h.add (.simple t start) (List.forall_mem_singleton.mpr hhas)
    fun _ _ hs => absurd hs (by simp [Node.simple])

/-- A node for a formed type is added. -/
theorem addFormed (h : Workspace.Renamed old ρ w w') (former : Former) (start : Nat) :
    Workspace.Renamed old ρ (w.add (.formed former start)).2 (w'.add (.formed former start)).2 ∧
      (w'.add (.formed former start)).1 = (w.add (.formed former start)).1 :=
  h.add (.formed former start) (List.forall_mem_nil _)
    fun _ _ hs => absurd hs (by simp [Node.formed])

/-- A struct is added along with its type. -/
theorem addStruct (h : Workspace.Renamed old ρ w w') (name : String) (members : List Member)
    (start : Nat) :
    ∃ ρ', Workspace.Renamed old ρ' (w.addStruct name members start).2
        (w'.addStruct name members start).2 ∧
      (w'.addStruct name members start).1 = (w.addStruct name members start).1 := by
  obtain ⟨ρ', harena, hextends, hhas, heq⟩ := h.arena.struct name
  have hadd := (h.withArena harena hextends).add
    ({ start, shape := .struct (w.arena.struct name).1 (.ofMembers members) })
    (List.forall_mem_singleton.mpr hhas) fun t layout hs => by
      obtain ⟨rfl, rfl⟩ := Shape.struct.inj hs
      exact ⟨_, w.arena.data?_push_self _⟩
  refine ⟨ρ', ?_⟩
  rw [Workspace.addStruct, Workspace.addStruct]
  dsimp only
  rw [heq]
  exact hadd

/-- A change of a node that may be refused, or may not apply to it. -/
theorem change? (h : Workspace.Renamed old ρ w w')
    {change : Node → Option (Except Diagnostic Node)}
    (hrename : ∀ node, change (node.rename ρ) =
      (change node).map fun result => result.map (Node.rename ρ))
    (hkeeps : ∀ node changed, change node = some (.ok changed) → node.Keeps changed) (n : NodeId) :
    Option.Rel (Agrees (Workspace.Renamed old ρ))
      ((w.node? n).bind fun node => (change node).map fun result =>
        result.map fun changed => w.modify n fun _ => changed)
      ((w'.node? n).bind fun node => (change node).map fun result =>
        result.map fun changed => w'.modify n fun _ => changed) := by
  rw [h.node?]
  cases hn : w.node? n with
  | none => exact .none
  | some node =>
    dsimp only [Option.map_some, Option.bind_some]
    rw [hrename]
    cases hc : change node with
    | none => exact .none
    | some result =>
      cases result with
      | error d => exact .some (.error d)
      | ok changed =>
        obtain ⟨htypes, hstruct⟩ := hkeeps node changed hc
        have hself (before : Node) (hbefore : w.node? n = some before) : before = node :=
          Option.some.inj (hbefore.symm.trans hn)
        refine .some (.ok (h.modify (fun _ _ => rfl) (fun before hbefore t ht => ?_)
          fun before t layout hbefore hs => ?_))
        · exact h.there n node hn t (htypes ▸ ht)
        · rw [hself before hbefore]
          exact hstruct t layout hs

theorem bind? (h : Workspace.Renamed old ρ w w') (n pointee : NodeId) :
    Option.Rel (Agrees (Workspace.Renamed old ρ)) (w.bind? n pointee) (w'.bind? n pointee) :=
  h.change? (fun node => node.bind?_rename pointee) (fun _ _ => Node.keeps_of_bind?) n

theorem addMember? (h : Workspace.Renamed old ρ w w') (n : NodeId) (m : Member) :
    Option.Rel (Agrees (Workspace.Renamed old ρ)) (w.addMember? n m) (w'.addMember? n m) :=
  h.change? (fun node => node.addMember?_rename m) (fun _ _ => Node.keeps_of_addMember?) n

end Workspace.Renamed

namespace Declarations

variable {old : TypeArena} {ρ : Ty → Ty} {d : Declarations} {v w w' : Workspace}
  {i : Instruction} {id : Id}

/-! ### Declarations that differ in handles -/

/-- **The declarations differ in the handles of their types only.** -/
def Alike (old : TypeArena) (d d' : Declarations) : Prop :=
  ∃ ρ w', Workspace.Renamed old ρ d.workspace w' ∧ d' = { d with workspace := w' }

/-! ### Type declarations -/

theorem agrees_madeFor {α β : Type} {R : α → β → Prop} {made : Except TypeFault α}
    {made' : Except TypeFault β} (h : Agrees R made made') :
    Agrees R (madeFor i made) (madeFor i made') := by
  cases h with
  | error fault => exact .error _
  | ok hab => exact .ok hab

theorem alike_define {n n' : NodeId} (h : Workspace.Renamed old ρ w w' ∧ n' = n) :
    Agrees (Alike old) (d.define i id (n, w))
      (({ d with workspace := v } : Declarations).define i id (n', w')) := by
  obtain ⟨h, rfl⟩ := h
  rw [define, define]
  dsimp only
  split
  · exact .error _
  · exact .ok ⟨ρ, w', h, rfl⟩

theorem alike_defineSimple (h : Workspace.Renamed old ρ w w') {made made' : Ty × TypeArena}
    (hmade : TypeArena.MadeAlike old ρ w.arena made made') :
    Agrees (Alike old) (({ d with workspace := w } : Declarations).defineSimple i id made)
      (({ d with workspace := w' } : Declarations).defineSimple i id made') := by
  obtain ⟨ρ₁, harena, hextends, ht⟩ := hmade
  exact alike_define ((h.withArena harena hextends).addSimple ht i.start)

theorem alike_defineFormed (h : Workspace.Renamed old ρ d.workspace w') (former : Former) :
    Agrees (Alike old) (d.defineFormed i id former)
      (({ d with workspace := w' } : Declarations).defineFormed i id former) :=
  alike_define (h.addFormed former i.start)

theorem alike_declareScalar (h : Workspace.Renamed old ρ d.workspace w')
    {make make' : Nat → Except TypeFault (Ty × TypeArena)}
    (hmake : ∀ bits,
      Agrees (TypeArena.MadeAlike old ρ d.workspace.arena) (make bits) (make' bits)) :
    Agrees (Alike old) (d.declareScalar i id make)
      (({ d with workspace := w' } : Declarations).declareScalar i id make') := by
  refine .bind_same fun width =>
    (agrees_madeFor (hmake width.toNat)).bind fun made made' hmade => ?_
  refine (alike_defineSimple h hmade).bind fun d₁ d₁' hd => ?_
  obtain ⟨ρ₁, w₁', hrenamed, rfl⟩ := hd
  exact .ok ⟨ρ₁, w₁', hrenamed, rfl⟩

theorem alike_declareVector (h : Workspace.Renamed old ρ d.workspace w')
    {make : TypeArena → Ty → Nat → Except TypeFault (Ty × TypeArena)}
    (hmake : ∀ {ρ a b t} count, TypeArena.Renamed old ρ a b → a.Has t →
      Agrees (TypeArena.MadeAlike old ρ a) (make a t count) (make b (ρ t) count)) :
    Agrees (Alike old) (d.declareVector i id make)
      (({ d with workspace := w' } : Declarations).declareVector i id make) := by
  refine .bind_same fun componentId => .bind_same fun component => .bind_same fun count => ?_
  obtain ⟨ρ₁, hrenamed, -, hagrees⟩ := h.produce component true
  dsimp only
  generalize d.workspace.produce component true = produced at hrenamed hagrees
  generalize w'.produce component true = produced' at hrenamed hagrees
  refine hagrees.bind fun t u ht => ?_
  obtain ⟨hhas, rfl⟩ := ht
  refine (agrees_madeFor (hmake count.toNat hrenamed.arena hhas)).bind fun made made' hmade => ?_
  exact alike_defineSimple hrenamed hmade

theorem alike_declareArray (h : Workspace.Renamed old ρ d.workspace w') :
    Agrees (Alike old) (d.declareArray i id)
      (({ d with workspace := w' } : Declarations).declareArray i id) := by
  refine .bind_same fun elementId => .bind_same fun element => .bind_same fun length => ?_
  dsimp only
  split
  · exact alike_defineFormed h _
  · exact .error _

theorem alike_declareRuntimeArray (h : Workspace.Renamed old ρ d.workspace w') :
    Agrees (Alike old) (d.declareRuntimeArray i id)
      (({ d with workspace := w' } : Declarations).declareRuntimeArray i id) :=
  .bind_same fun _ => .bind_same fun _ => alike_defineFormed h _

theorem alike_declareStruct (h : Workspace.Renamed old ρ d.workspace w') :
    Agrees (Alike old) (d.declareStruct i id)
      (({ d with workspace := w' } : Declarations).declareStruct i id) := by
  refine .bind_same fun types => ?_
  obtain ⟨ρ₁, hadded⟩ := h.addStruct (d.nameOf id s!"struct_{id}")
    (types.mapIdx fun index type =>
      { decorations := d.decorationsOf (.member id index), type : Member }) i.start
  exact alike_define hadded

theorem alike_declareForwardPointer (h : Workspace.Renamed old ρ d.workspace w') :
    Agrees (Alike old) (d.declareForwardPointer i id)
      (({ d with workspace := w' } : Declarations).declareForwardPointer i id) :=
  .bind_same fun _ => .bind_same fun _ => alike_defineFormed h _

theorem alike_declarePointer (h : Workspace.Renamed old ρ d.workspace w') :
    Agrees (Alike old) (d.declarePointer i id)
      (({ d with workspace := w' } : Declarations).declarePointer i id) := by
  refine .bind_same fun word => .bind_same fun storage => .bind_same fun pointeeId =>
    .bind_same fun pointee => ?_
  dsimp only
  split
  · exact alike_defineFormed h _
  · rename_i forward hforward
    rw [h.bind_node? forward Node.former?_rename]
    split
    · split
      · exact .error _
      · have hbind := h.bind? forward pointee
        generalize d.workspace.bind? forward pointee = bound at hbind
        generalize w'.bind? forward pointee = bound' at hbind
        cases hbind with
        | none => exact .error _
        | some hagrees => exact hagrees.bind fun w₁ w₁' hrenamed => .ok ⟨ρ, w₁', hrenamed, rfl⟩
    · exact .error _

theorem alike_declareFunctionType (h : Workspace.Renamed old ρ d.workspace w') :
    Agrees (Alike old) (d.declareFunctionType i id)
      (({ d with workspace := w' } : Declarations).declareFunctionType i id) :=
  .bind_same fun _ => .bind_same fun _ => .bind_same fun _ => alike_defineFormed h _

theorem alike_declareType (h : Workspace.Renamed old ρ d.workspace w') (op : Opcode) :
    Agrees (Alike old) (d.declareType op i)
      (({ d with workspace := w' } : Declarations).declareType op i) := by
  refine .bind_same fun id => ?_
  dsimp only
  split
  · exact alike_defineSimple h h.arena.void
  · exact alike_defineSimple h h.arena.bool
  · exact alike_declareScalar h h.arena.int
  · exact alike_declareScalar h h.arena.float
  · exact alike_declareVector h fun count harena ht => harena.vector ht count
  · exact alike_declareVector h fun count harena ht => .ok (harena.array ht count)
  · exact alike_declareArray h
  · exact alike_declareRuntimeArray h
  · exact alike_declareStruct h
  · exact alike_declareForwardPointer h
  · exact alike_declarePointer h
  · exact alike_declareFunctionType h
  · exact .error _

/-! ### Other instructions -/

theorem alike_addName (h : Workspace.Renamed old ρ d.workspace w') :
    Agrees (Alike old) (d.addName i) (({ d with workspace := w' } : Declarations).addName i) :=
  .bind_same fun _ => .bind_same fun _ => .ok ⟨ρ, w', h, rfl⟩

theorem alike_addDecoration (h : Workspace.Renamed old ρ d.workspace w')
    (target : DecorationTarget) (index : Nat) :
    Agrees (Alike old) (d.addDecoration i target index)
      (({ d with workspace := w' } : Declarations).addDecoration i target index) := by
  refine .bind_same fun decoration => ?_
  cases decoration with
  | none => exact .ok ⟨ρ, w', h, rfl⟩
  | some decoration => exact .ok ⟨ρ, w', h, rfl⟩

theorem alike_addEntryPoint (h : Workspace.Renamed old ρ d.workspace w') :
    Agrees (Alike old) (d.addEntryPoint i)
      (({ d with workspace := w' } : Declarations).addEntryPoint i) :=
  .bind_same fun _ => .bind_same fun _ => .bind_same fun _ => .bind_same fun _ =>
    .ok ⟨ρ, w', h, rfl⟩

theorem alike_addExecutionMode (h : Workspace.Renamed old ρ d.workspace w') :
    Agrees (Alike old) (d.addExecutionMode i)
      (({ d with workspace := w' } : Declarations).addExecutionMode i) := by
  refine .bind_same fun function => .bind_same fun word => ?_
  split
  · exact .ok ⟨ρ, w', h, rfl⟩
  · refine .bind_same fun size => ?_
    dsimp only
    split
    · exact .ok ⟨ρ, w', h, rfl⟩
    · exact .error _

theorem alike_addConstant (h : Workspace.Renamed old ρ d.workspace w') :
    Agrees (Alike old) (d.addConstant i)
      (({ d with workspace := w' } : Declarations).addConstant i) :=
  .bind_same fun _ => .bind_same fun _ => .bind_same fun _ => .ok ⟨ρ, w', h, rfl⟩

/-- The interface is opened in both workspaces. -/
theorem renamed_openInterface (h : Workspace.Renamed old ρ d.workspace w') (start : Nat) :
    ∃ ρ₁, Workspace.Renamed old ρ₁ (d.openInterface start).2
        (({ d with workspace := w' } : Declarations).openInterface start).2 ∧
      (({ d with workspace := w' } : Declarations).openInterface start).1 =
        (d.openInterface start).1 := by
  rw [openInterface, openInterface]
  dsimp only
  split
  · exact ⟨ρ, h, rfl⟩
  · obtain ⟨ρ₁, hrenamed, heq⟩ := h.addStruct interfaceStructName [] start
    exact ⟨ρ₁, hrenamed, congrArg (fun node => ({ node } : Interface)) heq⟩

theorem alike_addInterfaceVariable (h : Workspace.Renamed old ρ d.workspace w')
    (pointee : NodeId) :
    Agrees (Alike old) (d.addInterfaceVariable i id pointee)
      (({ d with workspace := w' } : Declarations).addInterfaceVariable i id pointee) := by
  obtain ⟨ρ₁, hopened, heq⟩ := renamed_openInterface h i.start
  have hdecorations : ({ d with workspace := w' } : Declarations).decorationsOf (.object id) =
      d.decorationsOf (.object id) := rfl
  have hadded := hopened.addMember? (d.openInterface i.start).1.node
    { decorations := d.decorationsOf (.object id), type := pointee }
  rw [addInterfaceVariable, addInterfaceVariable]
  dsimp only
  rw [heq, hdecorations]
  generalize Workspace.addMember? (d.openInterface i.start).2 _ _ = grown at hadded
  generalize Workspace.addMember? _ _ _ = grown' at hadded
  cases hadded with
  | none => exact .error _
  | some hagrees => exact hagrees.bind fun w₁ w₁' hrenamed => .ok ⟨ρ₁, w₁', hrenamed, rfl⟩

theorem alike_addVariable (h : Workspace.Renamed old ρ d.workspace w') :
    Agrees (Alike old) (d.addVariable i)
      (({ d with workspace := w' } : Declarations).addVariable i) := by
  refine .bind_same fun typeId => .bind_same fun pointerType => .bind_same fun id =>
    .bind_same fun word => .bind_same fun storage => ?_
  dsimp only
  rw [h.bind_node? pointerType Node.former?_rename]
  split
  · exact .error _
  · split
    · split
      · exact alike_addInterfaceVariable h _
      · exact .ok ⟨ρ, w', h, rfl⟩
    · exact .error _
    · exact .error _

theorem alike_beginFunction (h : Workspace.Renamed old ρ d.workspace w') :
    Agrees (Alike old) (d.beginFunction i)
      (({ d with workspace := w' } : Declarations).beginFunction i) := by
  refine .bind_same fun resultType => .bind_same fun id => .bind_same fun word =>
    .bind_same fun typeId => .bind_same fun type => ?_
  dsimp only
  rw [h.any_isFunction type]
  split
  · exact .error _
  · split
    · exact .error _
    · exact .ok ⟨ρ, w', h, rfl⟩

theorem alike_visitInside (h : Workspace.Renamed old ρ d.workspace w') (f : ShaderFunction) :
    Agrees (Alike old) (d.visitInside f i)
      (({ d with workspace := w' } : Declarations).visitInside f i) := by
  rw [visitInside, visitInside]
  split
  · exact .bind_same fun _ => .ok ⟨ρ, w', h, rfl⟩
  · exact .ok ⟨ρ, w', h, rfl⟩
  · exact .error _
  · exact .ok ⟨ρ, w', h, rfl⟩

theorem alike_visitOutside (h : Workspace.Renamed old ρ d.workspace w') (op : Opcode) :
    Agrees (Alike old) (d.visitOutside op i)
      (({ d with workspace := w' } : Declarations).visitOutside op i) := by
  rw [visitOutside.eq_def, visitOutside.eq_def]
  split
  · exact alike_addName h
  · exact .bind_same fun id => alike_addDecoration h (.object id) 1
  · exact .bind_same fun struct => .bind_same fun index =>
      alike_addDecoration h (.member struct index.toNat) 2
  · exact .error _
  · exact .error _
  · exact .error _
  · exact alike_addEntryPoint h
  · exact alike_addExecutionMode h
  · exact alike_addConstant h
  · exact alike_addConstant h
  · exact alike_addVariable h
  · exact alike_beginFunction h
  · exact .error _
  · exact .error _
  · split
    · exact alike_declareType h op
    · exact .ok ⟨ρ, w', h, rfl⟩

/-- **An instruction is read alike.** -/
theorem Alike.visit {d d' : Declarations} (h : Alike old d d') (i : Instruction) :
    Agrees (Alike old) (d.visit i) (d'.visit i) := by
  obtain ⟨ρ, w', h, rfl⟩ := h
  rw [Declarations.visit, Declarations.visit]
  dsimp only
  split
  · exact alike_visitInside h _
  · exact alike_visitOutside h _
  · exact .ok ⟨ρ, w', h, rfl⟩

/-- **The instructions of a shader are read alike**, whether the arena is empty or holds
types already. -/
theorem alike_ofInstructions (hfounded : old.Founded) (huniqued : old.Uniqued)
    (instructions : List Instruction) :
    Agrees (Alike old) (ofInstructions {} instructions) (ofInstructions old instructions) :=
  .foldlM (fun _ _ h i => h.visit i) instructions
    ⟨fun t => t, _, Workspace.renamed_empty hfounded huniqued _, rfl⟩

end Declarations

end ShaderLowering
