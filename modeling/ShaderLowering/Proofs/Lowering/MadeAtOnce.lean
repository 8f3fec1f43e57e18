import ShaderLowering.Proofs.Lowering.OpaqueStructs
import ShaderLowering.Proofs.TypeGraph.Stability

/-!
# Types that are made at once

Most types are made when somebody asks for them. A type that refers to no other is made when the
instruction is read that declares it, and so are vectors and matrices; their nodes are simple from
the start. What an instruction settles in this way is said by
`ShaderLowering.Declarations.Settles`: the type of the node, the data of the type, and that what
the data names is the type of the component that the instruction names.

It can be read in three directions at the end of a walk. Each instruction that declares such a
type has settled it (`ShaderLowering.Declarations.Walks.settles`); the type of each simple node
was settled by an instruction with the node's id
(`ShaderLowering.Declarations.Walks.exists_settles_of_lookup`); and each vector is the type that
some instruction settled (`ShaderLowering.Declarations.Walks.exists_settles_of_vector`). The last
rests on production making no vectors, as types are formed for pointers, functions and arrays
only.
-/

namespace ShaderLowering

/-! ### Kinds of data -/

namespace TypeData

variable {data : TypeData} {op : Opcode}

/-- The data is that of a vector. -/
def IsVector : TypeData → Prop
  | .vector _ _ => True
  | _ => False

/-- The data is that of a pointer. -/
def IsPointer : TypeData → Prop
  | .pointer _ _ => True
  | _ => False

/-- The data is of a kind that is made for formed nodes. -/
def IsFormed : TypeData → Prop
  | .pointer _ _ | .function _ _ _ | .array _ _ => True
  | _ => False

/-- No vector is made for a formed node. -/
theorem IsFormed.not_isVector (h : data.IsFormed) : ¬data.IsVector := by
  cases data with
  | pointer | function | array => exact id
  | _ => exact h.elim

theorem IsVector.isStructural (h : data.IsVector) : data.IsStructural := by
  cases data with
  | struct => exact h
  | _ => trivial

theorem IsPointer.isStructural (h : data.IsPointer) : data.IsStructural := by
  cases data with
  | struct => exact h
  | _ => trivial

/-- What is made at once is no struct. -/
theorem isStructural_of_mem_opcodes (h : op ∈ data.opcodes) : data.IsStructural := by
  cases data with
  | struct s => exact nomatch h
  | _ => trivial

/-- What is made at once is no pointer. -/
theorem not_isPointer_of_mem_opcodes (h : op ∈ data.opcodes) : ¬data.IsPointer := by
  cases data with
  | pointer => exact nomatch h
  | _ => exact id

end TypeData

/-- The instruction declares a type that is made at once. -/
def Opcode.isMadeAtOnce (op : Opcode) : Bool :=
  op ∈ [.typeVoid, .typeBool, .typeInt, .typeFloat, .typeVector, .typeMatrix]

namespace Former

variable {former : Former} {types : List Ty} {data : TypeData} {handle : NodeId → Option Ty}
  {op : Opcode}

theorem isFormed_of_data? (h : former.data? types = some data) : data.IsFormed := by
  unfold data? at h
  split at h
  · exact Option.some.inj h ▸ trivial
  · exact Option.some.inj h ▸ trivial
  · exact Option.some.inj h ▸ trivial
  · exact nomatch h

theorem Image.isFormed (h : former.Image handle data) : data.IsFormed := by
  cases h with
  | pointer | function | array => trivial

/-- Types that are formed are not made at once. -/
theorem isMadeAtOnce_eq_false (h : op ∈ former.opcodes) : op.isMadeAtOnce = false := by
  cases former with
  | pointer =>
    rcases List.mem_pair.mp h with rfl | rfl
    · rfl
    · rfl
  | function =>
    obtain rfl := List.mem_singleton.mp h
    rfl
  | array =>
    rcases List.mem_pair.mp h with rfl | rfl
    · rfl
    · rfl

end Former

namespace TypeArena

variable {a b c : TypeArena} {kind : TypeData → Prop} {s t : Ty} {data new : TypeData}

/-! ### Types of a kind -/

/-- **No type of a kind is added**: those of the second arena are those of the first. -/
def AddsNo (kind : TypeData → Prop) (a b : TypeArena) : Prop :=
  ∀ t data, kind data → b.data? t = some data → a.data? t = some data

theorem AddsNo.refl (a : TypeArena) : a.AddsNo kind a :=
  fun _ _ _ h => h

theorem AddsNo.trans (h : a.AddsNo kind b) (h' : b.AddsNo kind c) : a.AddsNo kind c :=
  fun t data hkind ht => h t data hkind (h' t data hkind ht)

theorem addsNo_push (a : TypeArena) (hnew : ¬kind new) : a.AddsNo kind (a.push new).2 := by
  intro t data hkind ht
  rw [data?_push] at ht
  split at ht
  · rw [Option.some.injEq] at ht
    exact absurd (ht ▸ hkind) hnew
  · exact ht

/-- A type that is there after another was asked for was there before, or is the other. -/
theorem of_data?_intern (h : (a.intern new).2.data? t = some data) :
    a.data? t = some data ∨ t = (a.intern new).1 := by
  rcases a.intern_cases new with ⟨-, heq⟩ | ⟨-, heq⟩
  · rw [heq] at h
    exact Or.inl h
  · rw [heq, data?_push] at h
    rw [heq]
    split at h
    · rename_i hindex
      exact Or.inr (congrArg Ty.mk hindex)
    · exact Or.inl h

theorem addsNo_intern (a : TypeArena) (hnew : ¬kind new) : a.AddsNo kind (a.intern new).2 := by
  intro t data hkind ht
  rcases of_data?_intern ht with hold | rfl
  · exact hold
  · rw [data?_intern, Option.some.injEq] at ht
    exact absurd (ht ▸ hkind) hnew

theorem addsNo_setBody {members : List Ty} {packed : Bool} (hstruct : ∀ s, ¬kind (.struct s))
    (h : a.setBody s members packed = .ok b) : a.AddsNo kind b := by
  obtain ⟨_, _, -, hdata⟩ := data?_setBody h
  intro t data hkind ht
  rw [hdata] at ht
  split at ht
  · rw [Option.some.injEq] at ht
    exact absurd (ht ▸ hkind) (hstruct _)
  · exact ht

end TypeArena

namespace Workspace

variable {w w' : Workspace} {n : NodeId} {t : Ty} {data : TypeData}

/-! ### Production makes no vectors -/

/-- What is formed is no vector. -/
theorem Works.addsNo_vector (h : w.Works w') : w.arena.AddsNo TypeData.IsVector w'.arena := by
  cases h with
  | enter | leave | looped => exact .refl _
  | form hs hd => exact w.arena.addsNo_intern (Former.isFormed_of_data? hd).not_isVector
  | layOut hs hb => exact TypeArena.addsNo_setBody (fun _ => id) hb

/-! ### Simple nodes -/

/-- A simple node stays as it is. -/
theorem GraphGrows.simple (h : w.GraphGrows w') (hs : w.shape? n = some (.simple t)) :
    w'.shape? n = some (.simple t) := by
  obtain ⟨s', hs', hgrows⟩ := h n _ hs
  cases hgrows with
  | simple => exact hs'

/-- No node comes to be simple. -/
theorem GraphGrows.of_simple (h : w.GraphGrows w') (hn : (w.node? n).isSome)
    (hs : w'.shape? n = some (.simple t)) : w.shape? n = some (.simple t) := by
  obtain ⟨node, hnode⟩ := Option.isSome_iff_exists.mp hn
  have hshape := shape?_eq hnode
  obtain ⟨s', hs', hgrows⟩ := h n _ hshape
  obtain rfl := Option.some.inj (hs'.symm.trans hs)
  generalize node.shape = s at hshape hgrows
  cases hgrows with
  | simple => exact hshape

/-- A type of data that is made for no formed node and no struct is that of a simple node. -/
theorem Faithful.simple_of_handle? (hw : w.Faithful) (hn : w.handle? n = some t)
    (ht : w.arena.data? t = some data) (hdata : data.IsStructural) (hformed : ¬data.IsFormed) :
    w.shape? n = some (.simple t) := by
  obtain ⟨shape, hs, hhandle⟩ := Option.bind_eq_some_iff.mp hn
  cases shape with
  | simple type =>
    obtain rfl := Option.some.inj hhandle
    exact hs
  | formed former made =>
    obtain rfl : made = some t := hhandle
    obtain ⟨data', hdata', himage⟩ := hw.formed n former t hs
    obtain rfl := Option.some.inj (ht.symm.trans hdata')
    exact absurd himage.isFormed hformed
  | struct type layout =>
    obtain rfl := Option.some.inj hhandle
    obtain ⟨s, hs', -⟩ := hw.struct n type layout hs
    obtain rfl := Option.some.inj (ht.symm.trans hs')
    exact hdata.elim

/-- The complete type of a simple node is known. -/
theorem produced_simple {complete : Bool} {result : Except Diagnostic Ty}
    (h : Produced ⟨n, complete⟩ w result w') (hs : w.shape? n = some (.simple t)) : w' = w := by
  obtain ⟨node, hn, hshape⟩ := Option.map_eq_some_iff.mp hs
  have hknown : node.known? complete = some t := by rw [Node.known?, hshape]
  exact (h.of_known? hn hknown).2

end Workspace

/-- **Production makes no vectors.** -/
theorem Produced.addsNo_vector {r : Request} {w w' : Workspace} {result : Except Diagnostic Ty}
    (h : Produced r w result w') : w.arena.AddsNo TypeData.IsVector w'.arena :=
  h.keeps (R := fun w w' => w.arena.AddsNo TypeData.IsVector w'.arena) (fun w => .refl w.arena)
    TypeArena.AddsNo.trans Workspace.Works.addsNo_vector

namespace Declarations

open Workspace

variable {d d₁ d' : Declarations} {arena : TypeArena} {i : Instruction} {is : List Instruction}
  {id : Id} {n : NodeId} {t : Ty} {data : TypeData} {shape : Shape} {w : Workspace} {op : Opcode}
  {kind : TypeData → Prop}

/-! ### What an instruction adds to the arena -/

/-- What is made for a node takes no type away. -/
theorem Makes.keeps (h : d.Makes i shape w) (hw : d.workspace.Faithful) :
    d.workspace.Keeps w := by
  cases h with
  | formed => exact .refl _
  | simple => exact d.workspace.keeps_intern _
  | composite _ h => exact (h.imaged hw).2.1.trans (keeps_intern _ _)
  | struct name => exact d.workspace.keeps_struct name

/-- An instruction takes no type away. -/
theorem Extends.keeps (h : Extends d i d') (hw : d.workspace.Faithful) :
    d.workspace.Keeps d'.workspace := by
  cases h with
  | nothing heq => exact heq ▸ .refl _
  | type hmade hadd => exact hadd ▸ (hmade.keeps hw).trans (keeps_add _ _)
  | pointee hs _ heq => exact heq ▸ keeps_reshape hs rfl
  | interfaceVariable _ hadded =>
    obtain ⟨t, layout, hs, -, heq⟩ := of_addMember? hadded
    have hopened := (d.openInterface_becomes i.start).keeps hw
    exact heq ▸ hopened.trans (keeps_reshape hs rfl)

/-- **A walk takes no type away.** -/
theorem Walks.keeps (h : Walks arena d is d') (hu : arena.Uniqued) :
    d.workspace.Keeps d'.workspace := by
  induction h with
  | nil => exact .refl _
  | cons hd hvisit _ _ _ ih => exact ((extends_visit hvisit).keeps (hd.faithful hu)).trans ih

/-- **The instruction declares a type**: a node is added, for which types may have been made. -/
structure Adds (d : Declarations) (i : Instruction) (d' : Declarations) (id : Id) (node : Node)
    (w : Workspace) : Prop where
  made : d.Makes i node.shape w
  workspace : d'.workspace = (w.add node).2
  types : d'.types = (id, (w.add node).1) :: d.types
  declares : d.Declares i id node

/-- The struct of the interface is all that is made for an interface. -/
theorem addsNo_openInterface (hkind : ∀ s, ¬kind (.struct s)) (d : Declarations) (start : Nat) :
    d.workspace.arena.AddsNo kind (d.openInterface start).2.arena := by
  rw [openInterface]
  split
  · exact .refl _
  · exact d.workspace.arena.addsNo_push (hkind _)

/-- Types other than structs are added by instructions that declare types. -/
theorem Extends.data?_cases (h : Extends d i d') (hdata : data.IsStructural)
    (ht : d'.workspace.arena.data? t = some data) :
    d.workspace.arena.data? t = some data ∨
      ∃ id node w, d.Adds i d' id node w ∧ w.arena.data? t = some data := by
  cases h with
  | nothing heq => exact Or.inl (heq ▸ ht)
  | @type id node w hmade hadd htypes _ hnode =>
    rw [hadd] at ht
    exact Or.inr ⟨id, node, w, ⟨hmade, hadd, htypes, hnode⟩, ht⟩
  | pointee _ _ heq =>
    rw [heq] at ht
    exact Or.inl ht
  | interfaceVariable _ hadded =>
    obtain ⟨t', layout, -, -, heq⟩ := of_addMember? hadded
    rw [heq] at ht
    exact Or.inl (addsNo_openInterface (fun _ => id) d i.start t data hdata ht)

/-- A vector that is made for a node is the type of the node. -/
theorem Makes.vector (h : d.Makes i shape w) (hdata : data.IsVector)
    (ht : w.arena.data? t = some data) :
    d.workspace.arena.data? t = some data ∨ shape = .simple t := by
  cases h with
  | formed => exact Or.inl ht
  | simple =>
    rcases TypeArena.of_data?_intern ht with hold | rfl
    · exact Or.inl hold
    · exact Or.inr rfl
  | composite _ h =>
    rcases TypeArena.of_data?_intern ht with hold | rfl
    · exact Or.inl (h.addsNo_vector t data hdata hold)
    · exact Or.inr rfl
  | struct name => exact Or.inl (d.workspace.arena.addsNo_push id t data hdata ht)

/-- A pointer is made for a node only if its component is not simple. -/
theorem Makes.pointer (h : d.Makes i shape w) (hdata : data.IsPointer)
    (ht : w.arena.data? t = some data) :
    d.workspace.arena.data? t = some data ∨ ∃ component, d.componentType? i = some component ∧
      ∀ u, d.workspace.shape? component ≠ some (.simple u) := by
  cases h with
  | formed => exact Or.inl ht
  | simple _ _ hop =>
    obtain ⟨op, hop, -⟩ := hop
    have hnew := TypeData.not_isPointer_of_mem_opcodes hop
    exact Or.inl (d.workspace.arena.addsNo_intern hnew t data hdata ht)
  | @composite component _ _ _ hcomponent h _ _ hop =>
    obtain ⟨op, hop, -⟩ := hop
    by_cases hsimple : ∃ u, d.workspace.shape? component = some (.simple u)
    · obtain ⟨u, hs⟩ := hsimple
      obtain rfl := produced_simple h hs
      have hnew := TypeData.not_isPointer_of_mem_opcodes hop
      exact Or.inl (d.workspace.arena.addsNo_intern hnew t data hdata ht)
    · exact Or.inr ⟨component, hcomponent, not_exists.mp hsimple⟩
  | struct name => exact Or.inl (d.workspace.arena.addsNo_push id t data hdata ht)

/-- **An instruction adds a pointer only if its component is not simple.** -/
theorem Extends.pointer (h : Extends d i d') (hdata : data.IsPointer)
    (ht : d'.workspace.arena.data? t = some data) :
    d.workspace.arena.data? t = some data ∨ ∃ component, d.componentType? i = some component ∧
      ∀ u, d.workspace.shape? component ≠ some (.simple u) := by
  rcases h.data?_cases hdata.isStructural ht with hold | ⟨id, node, w, hadds, hnew⟩
  · exact Or.inl hold
  · exact hadds.made.pointer hdata hnew

/-- Inside of a function no type is declared. -/
theorem Reads.types_eq (h : Reads d i d') {f : ShaderFunction}
    (hopen : d.openFunction = some f) : d'.types = d.types := by
  cases h with
  | other hnone => exact nomatch hopen.symm.trans hnone
  | _ => rfl

/-! ### Types that are settled -/

/-- **An instruction settles a type**: it declares a node, which has this type, and the type has
this data, which is of the instruction's kind. What the data names is the type of the component
that the instruction names. -/
structure Settles (d : Declarations) (i : Instruction) (id : Id) (t : Ty) (data : TypeData) :
    Prop where
  node : ∃ n, d.types.lookup id = some n ∧ d.workspace.shape? n = some (.simple t)
  opcode : ∃ op ∈ data.opcodes, i.op? = some op
  parts : ∀ u ∈ data.parts, ∃ component, d.componentType? i = some component ∧
    d.workspace.handle? component = some u
  id : i.operands[0]? = some id
  data : d.workspace.arena.data? t = some data

/-- What is settled stays settled. -/
theorem Settles.later (h : d.Settles i id t data) (hp : d.Persists d')
    (hk : d.workspace.Keeps d'.workspace) : d'.Settles i id t data := by
  obtain ⟨n, hn, hs⟩ := h.node
  obtain ⟨op, hop, hi⟩ := h.opcode
  refine ⟨⟨n, hp.types id n hn, hp.graph.simple hs⟩, ⟨op, hop, hi⟩, fun u hu => ?_, h.id,
    hk.1.data? h.data (TypeData.isStructural_of_mem_opcodes hop)⟩
  obtain ⟨component, hcomponent, hu⟩ := h.parts u hu
  exact ⟨component, hp.componentType? hcomponent, hk.2 component u hu⟩

/-- What is made for a simple node. -/
theorem Makes.exists_data (h : d.Makes i (.simple t) w) (hw : d.workspace.Faithful) :
    ∃ data, w.arena.data? t = some data ∧ (∃ op ∈ data.opcodes, i.op? = some op) ∧
      ∀ u ∈ data.parts, ∃ component, d.componentType? i = some component ∧
        w.handle? component = some u := by
  cases h with
  | @simple data _ hparts hop =>
    refine ⟨data, TypeArena.data?_intern _ data, hop, ?_⟩
    rw [hparts]
    exact List.forall_mem_nil _
  | @composite component u w₁ data hcomponent h _ hparts hop =>
    refine ⟨data, TypeArena.data?_intern _ data, hop, ?_⟩
    rw [hparts]
    exact List.forall_mem_singleton.mpr ⟨component, hcomponent, (h.imaged hw).2.2 u rfl⟩

/-- **An instruction that adds a simple node settles its type.** -/
theorem Adds.settles {node : Node} (h : d.Adds i d' id node w) (hw : d.workspace.Faithful)
    (hp : d.Persists d') (hs : node.shape = .simple t) : ∃ data, d'.Settles i id t data := by
  obtain ⟨data, hdata, hop, hparts⟩ := Makes.exists_data (hs ▸ h.made) hw
  have hk : w.Keeps d'.workspace := h.workspace ▸ w.keeps_add node
  refine ⟨data, ⟨(w.add node).1, ?_, ?_⟩, hop, fun u hu => ?_, h.declares.id, ?_⟩
  · rw [h.types, List.lookup_cons_self]
  · rw [h.workspace, shape?_eq (w.node?_add_self node), hs]
  · obtain ⟨component, hcomponent, hu⟩ := hparts u hu
    exact ⟨component, hp.componentType? hcomponent, hk.2 component u hu⟩
  · rw [h.workspace]
    exact hdata

/-- A node whose id is new has been added. -/
theorem Extends.lookup_cases (h : Extends d i d') (hn : d'.types.lookup id = some n) :
    d.types.lookup id = some n ∨
      ∃ node w, d.Adds i d' id node w ∧ d'.workspace.shape? n = some node.shape := by
  cases h with
  | nothing _ htypes | pointee _ _ _ htypes | interfaceVariable _ _ htypes =>
    exact Or.inl (htypes ▸ hn)
  | @type id' node w hmade hadd htypes _ hnode =>
    rw [htypes, List.lookup_cons] at hn
    split at hn
    · rename_i heq
      obtain rfl := eq_of_beq heq
      obtain rfl := Option.some.inj hn
      refine Or.inr ⟨node, w, ⟨hmade, hadd, htypes, hnode⟩, ?_⟩
      rw [hadd, shape?_eq (w.node?_add_self node)]
    · exact Or.inl hn

/-- A simple node that has an id was there before, or its type is settled by the instruction. -/
theorem settles_of_lookup (hd : d.Sound arena) (hu : arena.Uniqued) (hvisit : d.visit i = .ok d')
    (hn : d'.types.lookup id = some n) (hs : d'.workspace.shape? n = some (.simple t)) :
    (d.types.lookup id = some n ∧ d.workspace.shape? n = some (.simple t)) ∨
      ∃ data, d'.Settles i id t data := by
  have hp := (visits hd.types hd.closed hvisit).persists
  rcases (extends_visit hvisit).lookup_cases hn with hold | ⟨node, w, hadds, hshape⟩
  · exact Or.inl ⟨hold, hp.graph.of_simple (isSome_of_lookup hd.types hold) hs⟩
  · exact Or.inr (hadds.settles (hd.faithful hu) hp (Option.some.inj (hshape.symm.trans hs)))

/-- A vector was there before, or it is settled by the instruction. -/
theorem settles_of_vector (hd : d.Sound arena) (hu : arena.Uniqued) (hvisit : d.visit i = .ok d')
    (hdata : data.IsVector) (ht : d'.workspace.arena.data? t = some data) :
    d.workspace.arena.data? t = some data ∨ ∃ id, d'.Settles i id t data := by
  rcases (extends_visit hvisit).data?_cases hdata.isStructural ht with
    hold | ⟨id, node, w, hadds, hnew⟩
  · exact Or.inl hold
  · rcases hadds.made.vector hdata hnew with hold | hs
    · exact Or.inl hold
    · have hp := (visits hd.types hd.closed hvisit).persists
      obtain ⟨data', hsettles⟩ := hadds.settles (hd.faithful hu) hp hs
      obtain rfl := Option.some.inj (hsettles.data.symm.trans ht)
      exact Or.inr ⟨id, hsettles⟩

theorem types_of_defineSimple {made : Ty × TypeArena} (h : d.defineSimple i id made = .ok d') :
    ∃ entry, d'.types = entry :: d.types := by
  obtain ⟨-, rfl⟩ := of_define h
  exact ⟨_, rfl⟩

theorem types_of_declareScalar {make : Nat → Except TypeFault (Ty × TypeArena)}
    (h : d.declareScalar i id make = .ok d') : ∃ entry, d'.types = entry :: d.types := by
  obtain ⟨width, -, h⟩ := of_bind_eq_ok h
  obtain ⟨made, -, h⟩ := of_bind_eq_ok h
  obtain ⟨d₁, hd₁, h⟩ := of_bind_eq_ok h
  obtain ⟨entry, hentry⟩ := types_of_defineSimple hd₁
  rw [← Except.ok.inj h]
  exact ⟨entry, hentry⟩

theorem types_of_declareVector
    {make : TypeArena → Ty → Nat → Except TypeFault (Ty × TypeArena)}
    (h : d.declareVector i id make = .ok d') : ∃ entry, d'.types = entry :: d.types := by
  obtain ⟨componentId, -, h⟩ := of_bind_eq_ok h
  obtain ⟨component, -, h⟩ := of_bind_eq_ok h
  obtain ⟨count, -, h⟩ := of_bind_eq_ok h
  obtain ⟨type, -, h⟩ := of_bind_eq_ok h
  obtain ⟨made, -, h⟩ := of_bind_eq_ok h
  obtain ⟨entry, hentry⟩ := types_of_defineSimple h
  exact ⟨entry, hentry⟩

/-- An instruction that declares a type that is made at once adds it to those that have been
declared. -/
theorem exists_types_cons (hopen : d.openFunction = none) (hi : i.op? = some op)
    (hop : op.isMadeAtOnce = true) (h : d.visit i = .ok d') :
    ∃ entry, d'.types = entry :: d.types := by
  have hmem := of_decide_eq_true hop
  rw [visit, hopen, hi] at h
  replace h : d.declareType op i = .ok d' := by
    simp only [List.mem_cons, List.not_mem_nil, or_false] at hmem
    rcases hmem with rfl | rfl | rfl | rfl | rfl | rfl
    all_goals exact h
  obtain ⟨id, -, h⟩ := of_bind_eq_ok h
  dsimp only at h
  split at h
  · exact types_of_defineSimple h
  · exact types_of_defineSimple h
  · exact types_of_declareScalar h
  · exact types_of_declareScalar h
  · exact types_of_declareVector h
  · exact types_of_declareVector h
  iterate 6 exact absurd hop (by decide)
  exact absurd h (by simp)

/-- **An instruction that declares a type that is made at once settles it.** -/
theorem exists_settles_of_visit (hd : d.Sound arena) (hu : arena.Uniqued)
    (hopen : d.openFunction = none) (hi : i.op? = some op) (hop : op.isMadeAtOnce = true)
    (hvisit : d.visit i = .ok d') : ∃ id t data, d'.Settles i id t data := by
  obtain ⟨entry, hentry⟩ := exists_types_cons hopen hi hop hvisit
  have hnew : d'.types ≠ d.types := hentry ▸ List.cons_ne_self entry d.types
  cases extends_visit hvisit with
  | nothing _ htypes => exact absurd htypes hnew
  | pointee _ _ _ htypes => exact absurd htypes hnew
  | interfaceVariable _ _ htypes => exact absurd htypes hnew
  | @type id node w hmade hadd htypes _ hnode =>
    have hp := (visits hd.types hd.closed hvisit).persists
    cases hs : node.shape with
    | simple t =>
      obtain ⟨data, hsettles⟩ :=
        Adds.settles ⟨hmade, hadd, htypes, hnode⟩ (hd.faithful hu) hp hs
      exact ⟨id, t, data, hsettles⟩
    -- the other nodes have instructions of their own
    | formed former made =>
      obtain ⟨op', hop', hi'⟩ := hnode.opcode former made hs
      obtain rfl := Option.some.inj (hi.symm.trans hi')
      exact absurd hop (by rw [Former.isMadeAtOnce_eq_false hop']; decide)
    | struct t layout =>
      rw [hs] at hmade
      cases hmade with
      | struct _ _ hi' =>
        obtain rfl := Option.some.inj (hi.symm.trans hi')
        exact absurd hop (by decide)

/-! ### Types that a walk settles -/

/-- **Each instruction that declares a type that is made at once** has settled it at the end of a
walk. -/
theorem Walks.settles (h : Walks arena d is d') (hu : arena.Uniqued)
    (hi : i ∈ outside d.openFunction.isSome is) (hi' : i.op? = some op)
    (hop : op.isMadeAtOnce = true) : ∃ id t data, d'.Settles i id t data ∧ op ∈ data.opcodes := by
  obtain ⟨before, after, hsplit⟩ := List.append_of_mem hi
  obtain ⟨d₁, d₂, hby⟩ := h.exists_comesBy hsplit
  obtain ⟨is₁, -, hearlier⟩ := hby.earlier
  obtain ⟨is₂, -, hlater⟩ := hby.later
  obtain ⟨id, t, data, hsettles⟩ :=
    exists_settles_of_visit hearlier.sound hu hby.closed hi' hop hby.visit
  obtain ⟨op', hop', hi''⟩ := hsettles.opcode
  obtain rfl := Option.some.inj (hi'.symm.trans hi'')
  exact ⟨id, t, data, hsettles.later hlater.persists (hlater.keeps hu), hop'⟩

/-- What is found at the end of a walk and was not there before was settled by one of its
instructions, if each instruction settles what is new after it. What can be found is told from
the graph and the types that have been declared, which instructions inside of functions leave
alone. -/
theorem Walks.exists_settles (h : Walks arena d is d') (hu : arena.Uniqued) (t : Ty)
    (found : Workspace → List (Id × NodeId) → Prop) (new : Id → TypeData → Prop)
    (hstep : ∀ (d : Declarations) i d', d.Sound arena → d.visit i = .ok d' →
      found d'.workspace d'.types →
        found d.workspace d.types ∨ ∃ id data, new id data ∧ d'.Settles i id t data)
    (hfound : found d'.workspace d'.types) :
    found d.workspace d.types ∨ ∃ i ∈ outside d.openFunction.isSome is,
      ∃ id data, new id data ∧ d'.Settles i id t data := by
  induction h with
  | nil => exact Or.inl hfound
  | @cons d d₁ d' i is hd hvisit hvisits hreads hrest ih =>
    rw [hreads.outside_cons]
    rcases ih hfound with hfound₁ | ⟨j, hj, hsettles⟩
    · cases hopen : d.openFunction with
      | none =>
        rw [heard_of_none hopen]
        refine (hstep d i d₁ hd hvisit hfound₁).imp_right fun ⟨id, data, hnew, hsettles⟩ => ?_
        exact ⟨i, List.mem_cons_self, id, data, hnew, hsettles.later hrest.persists
          (hrest.keeps hu)⟩
      | some f =>
        rw [hreads.workspace_eq hopen, hreads.types_eq hopen] at hfound₁
        exact Or.inl hfound₁
    · exact Or.inr ⟨j, List.mem_append_right _ hj, hsettles⟩

/-- **The type of a simple node that has an id** was settled by an instruction with this id. -/
theorem Walks.exists_settles_of_lookup (h : Walks arena { workspace := { arena } } is d)
    (hu : arena.Uniqued) (hn : d.types.lookup id = some n)
    (hs : d.workspace.shape? n = some (.simple t)) :
    ∃ i ∈ moduleScope is, ∃ data, d.Settles i id t data := by
  rcases h.exists_settles hu t
    (fun w types => types.lookup id = some n ∧ w.shape? n = some (.simple t))
    (fun id' _ => id' = id) (fun d i d' hd hvisit ⟨hn, hs⟩ =>
      (settles_of_lookup hd hu hvisit hn hs).imp_right fun ⟨data, hsettles⟩ =>
        ⟨id, data, rfl, hsettles⟩) ⟨hn, hs⟩ with
    ⟨hnone, -⟩ | ⟨i, hi, id', data, rfl, hsettles⟩
  · exact nomatch hnone
  · exact ⟨i, hi, data, hsettles⟩

/-- **A vector that was not there before** was settled by an instruction. -/
theorem Walks.exists_settles_of_vector (h : Walks arena { workspace := { arena } } is d)
    (hu : arena.Uniqued) (hdata : data.IsVector) (ht : d.workspace.arena.data? t = some data) :
    arena.data? t = some data ∨ ∃ i ∈ moduleScope is, ∃ id, d.Settles i id t data := by
  rcases h.exists_settles hu t (fun w _ => w.arena.data? t = some data)
    (fun _ data' => data' = data) (fun d i d' hd hvisit ht =>
      (settles_of_vector hd hu hvisit hdata ht).imp_right fun ⟨id, hsettles⟩ =>
        ⟨id, data, rfl, hsettles⟩) ht with
    hold | ⟨i, hi, id, data', rfl, hsettles⟩
  · exact Or.inl hold
  · exact Or.inr ⟨i, hi, id, hsettles⟩

/-- **A pointer that was not there before** was made for the component of a vector or of a matrix,
which is not simple. -/
theorem Walks.pointer (h : Walks arena d is d') (hdata : data.IsPointer)
    (ht : d'.workspace.arena.data? t = some data) :
    d.workspace.arena.data? t = some data ∨ ∃ i ∈ outside d.openFunction.isSome is,
      ∃ component, d'.componentType? i = some component ∧
        ∀ u, d'.workspace.shape? component ≠ some (.simple u) := by
  induction h with
  | nil => exact Or.inl ht
  | @cons d d₁ d' i is hd hvisit hvisits hreads hrest ih =>
    rw [hreads.outside_cons]
    rcases ih ht with ht₁ | ⟨j, hj, hcomponent⟩
    · cases hopen : d.openFunction with
      | none =>
        rw [heard_of_none hopen]
        rcases (extends_visit hvisit).pointer hdata ht₁ with hold | ⟨component, hcomponent, hne⟩
        · exact Or.inl hold
        · have hp := hvisits.persists.trans hrest.persists
          refine Or.inr ⟨i, List.mem_cons_self, component, hp.componentType? hcomponent,
            fun u hs => ?_⟩
          obtain ⟨id, hid⟩ := hasType_of_componentType? hcomponent
          exact hne u (hp.graph.of_simple (hd.types _ hid) hs)
      | some f =>
        rw [hreads.workspace_eq hopen] at ht₁
        exact Or.inl ht₁
    · exact Or.inr ⟨j, List.mem_append_right _ hj, hcomponent⟩

end Declarations

end ShaderLowering
