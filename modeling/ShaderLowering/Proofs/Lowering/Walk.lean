import ShaderLowering.Lowering.Walk
import ShaderLowering.Proofs.TypeGraph.Marks

/-!
# What the walk does

The declarations of a shader are read by functions that may report in many places. What
each of them can do if it does not report is said here once, by
`ShaderLowering.Declarations.Visits`: an instruction is passed over as far as the graph is
concerned, or it declares a type, gives a pointer its pointee, adds a variable, or begins,
continues or ends a function.

What an instruction does to the graph it does by actions, so that the workspace of a walk
is one of those that `ShaderLowering.Workspace.run` leads to. Some of the time it is
enough to know of an action that it is `ShaderLowering.Action.Plain`: the members of
structs are left alone by all but one of the instructions.
-/

namespace ShaderLowering

/-! ### Work that may be reported -/

section Outcome

variable {ε α β σ : Type}

/-- Work that goes on after other work ends well only if both do. -/
theorem of_bind_eq_ok {first : Except ε α} {next : α → Except ε β} {b : β}
    (h : (first >>= next) = .ok b) : ∃ a, first = .ok a ∧ next a = .ok b := by
  cases first with
  | error e => exact nomatch h
  | ok a => exact ⟨a, rfl, h⟩

/-- What is read off a result that ended well is read off the result. -/
theorem of_toOption_map_eq_some {result : Except ε α} {f : α → β} {b : β}
    (h : result.toOption.map f = some b) : ∃ a, result = .ok a ∧ f a = b := by
  cases result with
  | error e => exact nomatch h
  | ok a => exact ⟨a, rfl, Option.some.inj h⟩

theorem mem_of_mapM_eq_ok {f : α → Except ε β} {as : List α} {bs : List β}
    (h : as.mapM f = .ok bs) {b : β} (hb : b ∈ bs) : ∃ a ∈ as, f a = .ok b := by
  induction as generalizing bs with
  | nil =>
    rw [List.mapM_nil] at h
    rw [← Except.ok.inj h] at hb
    exact (List.not_mem_nil hb).elim
  | cons a as ih =>
    rw [List.mapM_cons] at h
    obtain ⟨b', hb', hrest⟩ := of_bind_eq_ok h
    obtain ⟨bs', hbs', hend⟩ := of_bind_eq_ok hrest
    rw [← Except.ok.inj hend] at hb
    rcases List.mem_cons.mp hb with rfl | hb
    · exact ⟨a, List.mem_cons_self, hb'⟩
    · obtain ⟨a', ha', hfa'⟩ := ih hbs' hb
      exact ⟨a', List.mem_cons_of_mem _ ha', hfa'⟩

/-- What each step of a fold keeps, the fold keeps. -/
theorem foldlM_keeps {step : σ → α → Except ε σ} {P : σ → Prop} {as : List α}
    (h : ∀ s, ∀ a ∈ as, ∀ s', step s a = .ok s' → P s → P s') {s s' : σ} (hs : P s)
    (hfold : as.foldlM step s = .ok s') : P s' := by
  induction as generalizing s with
  | nil =>
    rw [List.foldlM_nil] at hfold
    rwa [← Except.ok.inj hfold]
  | cons a as ih =>
    rw [List.foldlM_cons] at hfold
    obtain ⟨s₁, hs₁, hrest⟩ := of_bind_eq_ok hfold
    exact ih (fun s b hb => h s b (List.mem_cons_of_mem _ hb))
      (h s a List.mem_cons_self s₁ hs₁ hs) hrest

end Outcome

/-! ### The actions of a walk -/

/-- The action gives no struct a body from outside. -/
def Action.GivesNoBody : Action → Prop
  | .arena (.setBody _ _ _) => False
  | _ => True

/-- The action gives no struct a body from outside, nor another member. -/
def Action.Plain : Action → Prop
  | .arena (.setBody _ _ _) => False
  | .addMember _ _ _ => False
  | _ => True

theorem Action.Plain.givesNoBody {action : Action} (h : action.Plain) : action.GivesNoBody := by
  unfold Action.GivesNoBody
  split
  · exact h
  · trivial

/-- The action asks for types and declares nothing. -/
def Action.Asking : Action → Prop
  | .arena (.setBody _ _ _) => False
  | .arena _ => True
  | .produce _ _ => True
  | _ => False

theorem Action.Asking.plain {action : Action} (h : action.Asking) : action.Plain := by
  unfold Action.Plain
  split
  · exact h
  · exact h
  · trivial

namespace Workspace

variable {u v w w' : Workspace} {allowed : Action → Prop} {n m : NodeId} {t : Ty}
  {layout : Layout}

/-- One workspace comes from another by actions of some kind. -/
def Becomes (allowed : Action → Prop) (w w' : Workspace) : Prop :=
  ∃ actions, w' = w.run actions ∧ ∀ action ∈ actions, allowed action

namespace Becomes

theorem refl (w : Workspace) : w.Becomes allowed w :=
  ⟨[], rfl, List.forall_mem_nil _⟩

theorem trans (h : u.Becomes allowed v) (h' : v.Becomes allowed w) : u.Becomes allowed w := by
  obtain ⟨actions, rfl, hallowed⟩ := h
  obtain ⟨actions', rfl, hallowed'⟩ := h'
  exact ⟨actions ++ actions', (u.run_append actions actions').symm,
    List.forall_mem_append.mpr ⟨hallowed, hallowed'⟩⟩

/-- An action that names nodes that are there is taken. -/
theorem act {action : Action} (ha : allowed action)
    (hrefs : ∀ n ∈ action.refs, (w.node? n).isSome) : w.Becomes allowed (w.act action) := by
  refine ⟨[action], ?_, List.forall_mem_singleton.mpr ha⟩
  exact (if_pos fun n hn => lt_size_iff.mpr (hrefs n hn)).symm

theorem imp {allowed' : Action → Prop} (h : w.Becomes allowed w')
    (himp : ∀ action, allowed action → allowed' action) : w.Becomes allowed' w' := by
  obtain ⟨actions, heq, hallowed⟩ := h
  exact ⟨actions, heq, fun action haction => himp action (hallowed action haction)⟩

theorem graphGrows (h : w.Becomes allowed w') : w.GraphGrows w' := by
  obtain ⟨actions, rfl, -⟩ := h
  exact w.graphGrows_run actions

end Becomes

/-- Plain actions leave the members of a struct alone. -/
theorem Performs.struct {action : Action} (h : w.Performs action w') (hplain : action.Plain)
    (hs : w.shape? n = some (.struct t layout)) :
    ∃ layout', w'.shape? n = some (.struct t layout') ∧ layout'.skeleton = layout.skeleton := by
  have hlt : n.index ≠ w.graph.nodes.size := by
    obtain ⟨node, hn, -⟩ := Option.map_eq_some_iff.mp hs
    exact Nat.ne_of_lt (lt_size_iff.mpr (Option.isSome_of_eq_some hn))
  rcases h with _ | _ | _ | ⟨name, members, start⟩ | ⟨hs', -⟩ | _ | ⟨m, complete⟩
  · exact ⟨layout, hs, rfl⟩
  · exact ⟨layout, hs, rfl⟩
  · refine ⟨layout, ?_, rfl⟩
    rw [shape?_add, if_neg hlt, hs]
  · refine ⟨layout, ?_, rfl⟩
    rw [shape?_withStruct, if_neg hlt, hs]
  · refine ⟨layout, ?_, rfl⟩
    rw [shape?_reshape hs', if_neg, hs]
    rintro rfl
    rw [hs] at hs'
    exact absurd hs' (by simp)
  · exact hplain.elim
  · exact struct_of_skeleton_eq (w.produced m complete).skeleton_eq hs

theorem Becomes.struct (h : w.Becomes Action.Plain w')
    (hs : w.shape? n = some (.struct t layout)) :
    ∃ layout', w'.shape? n = some (.struct t layout') ∧ layout'.skeleton = layout.skeleton := by
  obtain ⟨actions, rfl, hplain⟩ := h
  induction actions generalizing w layout with
  | nil => exact ⟨layout, hs, rfl⟩
  | cons action actions ih =>
    obtain ⟨layout₁, hs₁, hskeleton₁⟩ :=
      (w.performs action).struct (hplain action List.mem_cons_self) hs
    obtain ⟨layout₂, hs₂, hskeleton₂⟩ :=
      ih hs₁ fun a ha => hplain a (List.mem_cons_of_mem _ ha)
    exact ⟨layout₂, hs₂, hskeleton₂.trans hskeleton₁⟩

theorem Becomes.types (h : w.Becomes Action.Plain w')
    (hs : w.shape? n = some (.struct t layout)) :
    ∃ layout', w'.shape? n = some (.struct t layout') ∧
      layout'.members.map Member.type = layout.members.map Member.type := by
  obtain ⟨layout', hs', hskeleton⟩ := h.struct hs
  exact ⟨layout', hs', Layout.types_of_skeleton_eq hskeleton⟩

/-- The node is a function. -/
def IsFunction (w : Workspace) (n : NodeId) : Prop :=
  ∃ result args variadic made, w.shape? n = some (.formed (.function result args variadic) made)

theorem GraphGrows.isFunction (h : w.GraphGrows w') (hn : w.IsFunction n) : w'.IsFunction n := by
  obtain ⟨result, args, variadic, made, hs⟩ := hn
  obtain ⟨s', hs', hgrows⟩ := h n _ hs
  cases hgrows with
  | formed _ _ made' => exact ⟨result, args, variadic, made', hs'⟩

end Workspace

namespace Declarations

open Workspace

variable {d d' : Declarations} {i : Instruction} {id : Id} {n : NodeId}

/-! ### What an instruction does -/

/-- **What an instruction can do to the declarations.** -/
inductive Visits (d : Declarations) (i : Instruction) : Declarations → Prop
  /-- It is passed over, or noted without a part in the graph. -/
  | aside (names : List (Id × String)) (decorations : List (DecorationTarget × Decoration))
      (constants : List (Id × Nat)) (entryPoints : List ShaderEntryPoint) :
    Visits d i { d with names, decorations, constants, entryPoints }
  /-- It declares a type. -/
  | declared {id : Id} {n : NodeId} {w : Workspace} (scalarWidths : List (Id × Nat))
      (hnew : d.types.lookup id = none) (hw : d.workspace.Becomes Action.Plain w)
      (hn : (w.node? n).isSome) :
    Visits d i { d with workspace := w, types := (id, n) :: d.types, scalarWidths }
  /-- It gives a pointer its pointee. -/
  | bound {w : Workspace} (hw : d.workspace.Becomes Action.Plain w) :
    Visits d i { d with workspace := w }
  /-- It adds a variable to the interface. -/
  | interfaceVariable (id : Id) {member : Member} {w : Workspace}
      (hmember : (d.workspace.node? member.type).isSome) (hplace : member.bodyIndex = none)
      (hw : (d.openInterface i.start).2.addMember? (d.openInterface i.start).1.node member =
        some (.ok w)) :
    Visits d i { d with
      workspace := w
      interface := some { (d.openInterface i.start).1 with
        members := (d.openInterface i.start).1.members ++ [⟨id, i.start⟩] } }
  /-- It adds a global. -/
  | globalVariable (g : ShaderGlobal) : Visits d i { d with globals := d.globals ++ [g] }
  /-- It begins a function. -/
  | begun {f : ShaderFunction} (hopen : d.openFunction = none)
      (hf : d.workspace.IsFunction f.type) : Visits d i { d with openFunction := some f }
  /-- It adds a parameter to the function that is being read. -/
  | parameter {f : ShaderFunction} (id : Id) (hopen : d.openFunction = some f) :
    Visits d i { d with openFunction := some { f with parameters := f.parameters ++ [id] } }
  /-- It ends the function that is being read. -/
  | ended {f : ShaderFunction} (hopen : d.openFunction = some f) :
    Visits d i { d with openFunction := none, functions := d.functions ++ [f] }

/-! ### Type declarations -/

/-- The nodes of all types are there. -/
def TypesThere (d : Declarations) : Prop :=
  ∀ entry ∈ d.types, (d.workspace.node? entry.2).isSome

theorem isSome_of_lookup (hd : d.TypesThere) (h : d.types.lookup id = some n) :
    (d.workspace.node? n).isSome := by
  obtain ⟨before, after, heq, -⟩ := List.lookup_eq_some_iff.mp h
  exact hd (id, n) (heq ▸ List.mem_append_right _ List.mem_cons_self)

theorem isSome_of_typeNode (hd : d.TypesThere) (h : d.typeNode i id = .ok n) :
    (d.workspace.node? n).isSome := by
  rw [typeNode] at h
  split at h
  · rename_i node hlookup
    rw [← Except.ok.inj h]
    exact isSome_of_lookup hd hlookup
  · exact absurd h (by simp)

theorem isSome_of_typeNodes (hd : d.TypesThere) {ids : List Id} {ns : List NodeId}
    (h : ids.mapM (d.typeNode i) = .ok ns) : ∀ n ∈ ns, (d.workspace.node? n).isSome := by
  intro n hn
  obtain ⟨id, -, hid⟩ := mem_of_mapM_eq_ok h hn
  exact isSome_of_typeNode hd hid

theorem of_define {added : NodeId × Workspace} (h : d.define i id added = .ok d') :
    d.types.lookup id = none ∧
      d' = { d with workspace := added.2, types := (id, added.1) :: d.types } := by
  rw [define] at h
  split at h
  · exact absurd h (by simp)
  · rename_i hnew
    exact ⟨hnew, (Except.ok.inj h).symm⟩

theorem of_madeFor {α : Type} {result : Except TypeFault α} {a : α}
    (h : madeFor i result = .ok a) : result = .ok a := by
  cases result with
  | error fault => exact nomatch h
  | ok b =>
    rw [← Except.ok.inj h]

/-- A type that refers to no node is asked for, and a node for it is added. -/
theorem Visits.of_defineSimple {w : Workspace} (hw : d.workspace.Becomes Action.Plain w)
    {a : TypeAction} (ha : (Action.arena a).Plain) {made : Ty × TypeArena}
    (hmade : made.2 = w.arena.perform a)
    (h : ({ d with workspace := w } : Declarations).defineSimple i id made = .ok d')
    (scalarWidths : List (Id × Nat)) : Visits d i { d' with scalarWidths } := by
  obtain ⟨hnew, rfl⟩ := of_define h
  have harena : w.Becomes Action.Plain (w.act (.arena a)) :=
    .act ha (List.forall_mem_nil _)
  have hadd : (w.act (.arena a)).Becomes Action.Plain
      ((w.act (.arena a)).act (.addSimple made.1 i.start)) :=
    .act trivial (List.forall_mem_nil _)
  have heq : ({ w with arena := made.2 }.add (.simple made.1 i.start)).2 =
      (w.act (.arena a)).act (.addSimple made.1 i.start) := by
    rw [hmade]
    rfl
  refine .declared scalarWidths hnew (heq ▸ (hw.trans harena).trans hadd) ?_
  exact Option.isSome_of_eq_some (node?_add_self _ _)

/-- A node for a formed type is added, which is formed from nodes that are there. -/
theorem Visits.of_defineFormed {former : Former} (h : d.defineFormed i id former = .ok d')
    (hrefs : ∀ n ∈ former.refs, (d.workspace.node? n).isSome) : Visits d i d' := by
  obtain ⟨hnew, rfl⟩ := of_define h
  have hact : d.workspace.Becomes Action.Plain (d.workspace.act (.addFormed former i.start)) :=
    .act trivial hrefs
  exact .declared d.scalarWidths hnew hact (Option.isSome_of_eq_some (node?_add_self _ _))

/-- A node for a type formed from one other. -/
theorem Visits.of_defineFormed_single {former : Former} {m : NodeId}
    (h : d.defineFormed i id former = .ok d') (hrefs : former.refs = [m])
    (hm : (d.workspace.node? m).isSome) : Visits d i d' := by
  refine .of_defineFormed h fun n hn => ?_
  rw [hrefs] at hn
  rw [List.mem_singleton.mp hn]
  exact hm

theorem Visits.of_declareScalar {make : Nat → Except TypeFault (Ty × TypeArena)}
    (action : Nat → TypeAction) (hplain : ∀ bits, (Action.arena (action bits)).Plain)
    (hmake : ∀ bits, d.workspace.arena.perform (action bits) =
      (d.workspace.arena.outcome (make bits)).2)
    (h : d.declareScalar i id make = .ok d') : Visits d i d' := by
  rw [declareScalar] at h
  obtain ⟨width, -, h⟩ := of_bind_eq_ok h
  obtain ⟨made, hmade, h⟩ := of_bind_eq_ok h
  obtain ⟨d₁, hd₁, h⟩ := of_bind_eq_ok h
  rw [← Except.ok.inj h]
  refine Visits.of_defineSimple (w := d.workspace) (.refl _) (hplain width.toNat) ?_ hd₁ _
  rw [hmake, of_madeFor hmade]
  rfl

theorem Visits.of_declareVector (hd : d.TypesThere)
    {make : TypeArena → Ty → Nat → Except TypeFault (Ty × TypeArena)}
    (action : Ty → Nat → TypeAction) (hplain : ∀ t count, (Action.arena (action t count)).Plain)
    (hmake : ∀ (arena : TypeArena) (t : Ty) (count : Nat), arena.perform (action t count) =
      (arena.outcome (make arena t count)).2)
    (h : d.declareVector i id make = .ok d') : Visits d i d' := by
  rw [declareVector] at h
  obtain ⟨componentId, -, h⟩ := of_bind_eq_ok h
  obtain ⟨component, hcomponent, h⟩ := of_bind_eq_ok h
  obtain ⟨count, -, h⟩ := of_bind_eq_ok h
  have hproduce : d.workspace.Becomes Action.Plain (d.workspace.act (.produce component true)) :=
    .act trivial fun n hn => by
      rw [List.mem_singleton.mp hn]
      exact isSome_of_typeNode hd hcomponent
  rw [Workspace.act] at hproduce
  generalize d.workspace.produce component true = produced at h hproduce
  obtain ⟨type, -, h⟩ := of_bind_eq_ok h
  obtain ⟨made, hmade, h⟩ := of_bind_eq_ok h
  refine Visits.of_defineSimple hproduce (hplain type count.toNat) ?_ h d'.scalarWidths
  rw [hmake, of_madeFor hmade]
  rfl

theorem Visits.of_declareArray (hd : d.TypesThere) (h : d.declareArray i id = .ok d') :
    Visits d i d' := by
  rw [declareArray] at h
  obtain ⟨elementId, -, h⟩ := of_bind_eq_ok h
  obtain ⟨element, helement, h⟩ := of_bind_eq_ok h
  obtain ⟨length, -, h⟩ := of_bind_eq_ok h
  split at h
  · exact .of_defineFormed_single h rfl (isSome_of_typeNode hd helement)
  · exact absurd h (by simp)

theorem Visits.of_declareRuntimeArray (hd : d.TypesThere)
    (h : d.declareRuntimeArray i id = .ok d') : Visits d i d' := by
  rw [declareRuntimeArray] at h
  obtain ⟨elementId, -, h⟩ := of_bind_eq_ok h
  obtain ⟨element, helement, h⟩ := of_bind_eq_ok h
  exact .of_defineFormed_single h rfl (isSome_of_typeNode hd helement)

theorem Visits.of_declareStruct (hd : d.TypesThere) (h : d.declareStruct i id = .ok d') :
    Visits d i d' := by
  rw [declareStruct] at h
  obtain ⟨types, htypes, h⟩ := of_bind_eq_ok h
  obtain ⟨hnew, rfl⟩ := of_define h
  have hmembers : (types.mapIdx fun index type =>
      { decorations := d.decorationsOf (.member id index), type : Member }) =
      (types.mapIdx fun index type => (d.decorationsOf (.member id index), type)).map
        fun m => { decorations := m.1, type := m.2 } :=
    List.ext_getElem (by simp) fun _ _ _ => by simp
  rw [hmembers]
  have hact (name : String) : d.workspace.Becomes Action.Plain
      (d.workspace.act (.addStruct name
        (types.mapIdx fun index type => (d.decorationsOf (.member id index), type)) i.start)) := by
    refine .act trivial fun n hn => ?_
    obtain ⟨m, hm, rfl⟩ := List.mem_map.mp hn
    obtain ⟨index, hindex, rfl⟩ := List.mem_mapIdx.mp hm
    exact isSome_of_typeNodes hd htypes _ (List.getElem_mem hindex)
  exact .declared d.scalarWidths hnew (hact _) (Option.isSome_of_eq_some (node?_add_self _ _))

theorem Visits.of_declareForwardPointer (h : d.declareForwardPointer i id = .ok d') :
    Visits d i d' := by
  rw [declareForwardPointer] at h
  obtain ⟨word, -, h⟩ := of_bind_eq_ok h
  obtain ⟨storage, -, h⟩ := of_bind_eq_ok h
  exact .of_defineFormed h (List.forall_mem_nil _)

theorem Visits.of_declarePointer (hd : d.TypesThere) (h : d.declarePointer i id = .ok d') :
    Visits d i d' := by
  rw [declarePointer] at h
  obtain ⟨word, -, h⟩ := of_bind_eq_ok h
  obtain ⟨storage, -, h⟩ := of_bind_eq_ok h
  obtain ⟨pointeeId, -, h⟩ := of_bind_eq_ok h
  obtain ⟨pointee, hpointee, h⟩ := of_bind_eq_ok h
  have hthere := isSome_of_typeNode hd hpointee
  split at h
  · exact .of_defineFormed_single h rfl hthere
  · rename_i forward hforward
    split at h
    · split at h
      · exact absurd h (by simp)
      · split at h
        · rename_i bound hbound
          obtain ⟨w, hw, h⟩ := of_bind_eq_ok h
          rw [← Except.ok.inj h]
          have hact : d.workspace.act (.bind forward pointee) = w := by
            rw [Workspace.act_bind, hbound, hw]
            rfl
          refine .bound (hact ▸ .act trivial fun n hn => ?_)
          rcases List.mem_pair.mp hn with rfl | rfl
          · exact isSome_of_lookup hd hforward
          · exact hthere
        · exact absurd h (by simp)
    · exact absurd h (by simp)

theorem Visits.of_declareFunctionType (hd : d.TypesThere)
    (h : d.declareFunctionType i id = .ok d') : Visits d i d' := by
  rw [declareFunctionType] at h
  obtain ⟨resultId, -, h⟩ := of_bind_eq_ok h
  obtain ⟨result, hresult, h⟩ := of_bind_eq_ok h
  obtain ⟨args, hargs, h⟩ := of_bind_eq_ok h
  refine .of_defineFormed h fun n hn => ?_
  rcases List.mem_cons.mp hn with rfl | hn
  · exact isSome_of_typeNode hd hresult
  · exact isSome_of_typeNodes hd hargs n hn

theorem Visits.of_declareType (hd : d.TypesThere) {op : Opcode}
    (h : d.declareType op i = .ok d') : Visits d i d' := by
  rw [declareType] at h
  obtain ⟨id, -, h⟩ := of_bind_eq_ok h
  have hvoid : d.workspace.arena.void.2 = d.workspace.arena.perform .void := rfl
  have hbool : d.workspace.arena.bool.2 = d.workspace.arena.perform .bool := rfl
  split at h
  · exact .of_defineSimple (a := .void) (.refl _) trivial hvoid h d'.scalarWidths
  · exact .of_defineSimple (a := .bool) (.refl _) trivial hbool h d'.scalarWidths
  · exact .of_declareScalar .int (fun _ => trivial) (TypeArena.perform_int _) h
  · exact .of_declareScalar .float (fun _ => trivial) (TypeArena.perform_float _) h
  · exact .of_declareVector hd .vector (fun _ _ => trivial) TypeArena.perform_vector h
  · exact .of_declareVector hd .array (fun _ _ => trivial) (fun _ _ _ => rfl) h
  · exact .of_declareArray hd h
  · exact .of_declareRuntimeArray hd h
  · exact .of_declareStruct hd h
  · exact .of_declareForwardPointer h
  · exact .of_declarePointer hd h
  · exact .of_declareFunctionType hd h
  · exact absurd h (by simp)

/-! ### Other instructions -/

theorem Visits.of_addName (h : d.addName i = .ok d') : Visits d i d' := by
  rw [addName] at h
  obtain ⟨id, -, h⟩ := of_bind_eq_ok h
  obtain ⟨⟨name, next⟩, -, h⟩ := of_bind_eq_ok h
  rw [← Except.ok.inj h]
  exact .aside ((id, name) :: d.names) d.decorations d.constants d.entryPoints

theorem Visits.of_addDecoration {target : DecorationTarget} {index : Nat}
    (h : d.addDecoration i target index = .ok d') : Visits d i d' := by
  rw [addDecoration] at h
  obtain ⟨decoration, -, h⟩ := of_bind_eq_ok h
  cases decoration with
  | none =>
    rw [← Except.ok.inj h]
    exact .aside d.names d.decorations d.constants d.entryPoints
  | some decoration =>
    rw [← Except.ok.inj h]
    exact .aside d.names (d.decorations ++ [(target, decoration)]) d.constants d.entryPoints

theorem Visits.of_decorate (h : d.decorate i = .ok d') : Visits d i d' := by
  rw [decorate] at h
  obtain ⟨id, -, h⟩ := of_bind_eq_ok h
  exact .of_addDecoration h

theorem Visits.of_decorateMember (h : d.decorateMember i = .ok d') : Visits d i d' := by
  rw [decorateMember] at h
  obtain ⟨struct, -, h⟩ := of_bind_eq_ok h
  obtain ⟨index, -, h⟩ := of_bind_eq_ok h
  exact .of_addDecoration h

theorem Visits.of_addEntryPoint (h : d.addEntryPoint i = .ok d') : Visits d i d' := by
  rw [addEntryPoint] at h
  obtain ⟨word, -, h⟩ := of_bind_eq_ok h
  obtain ⟨model, -, h⟩ := of_bind_eq_ok h
  obtain ⟨function, -, h⟩ := of_bind_eq_ok h
  obtain ⟨⟨name, next⟩, -, h⟩ := of_bind_eq_ok h
  rw [← Except.ok.inj h]
  exact .aside d.names d.decorations d.constants _

theorem Visits.of_addExecutionMode (h : d.addExecutionMode i = .ok d') : Visits d i d' := by
  rw [addExecutionMode] at h
  obtain ⟨function, -, h⟩ := of_bind_eq_ok h
  obtain ⟨word, -, h⟩ := of_bind_eq_ok h
  split at h
  · rw [← Except.ok.inj h]
    exact .aside d.names d.decorations d.constants d.entryPoints
  · obtain ⟨size, -, h⟩ := of_bind_eq_ok h
    split at h
    · rw [← Except.ok.inj h]
      exact .aside d.names d.decorations d.constants _
    · exact absurd h (by simp)

theorem Visits.of_addConstant (h : d.addConstant i = .ok d') : Visits d i d' := by
  rw [addConstant] at h
  obtain ⟨type, -, h⟩ := of_bind_eq_ok h
  obtain ⟨id, -, h⟩ := of_bind_eq_ok h
  obtain ⟨value, -, h⟩ := of_bind_eq_ok h
  rw [← Except.ok.inj h]
  exact .aside d.names d.decorations ((id, value) :: d.constants) d.entryPoints

theorem Visits.of_addInterfaceVariable {pointee : NodeId}
    (hpointee : (d.workspace.node? pointee).isSome)
    (h : d.addInterfaceVariable i id pointee = .ok d') : Visits d i d' := by
  rw [addInterfaceVariable] at h
  dsimp only at h
  split at h
  · rename_i grown hgrown
    obtain ⟨w, hw, h⟩ := of_bind_eq_ok h
    rw [← Except.ok.inj h]
    exact .interfaceVariable id hpointee rfl (hgrown.trans (congrArg some hw))
  · exact absurd h (by simp)

theorem Visits.of_addVariable (hclosed : d.workspace.Closed) (h : d.addVariable i = .ok d') :
    Visits d i d' := by
  rw [addVariable] at h
  obtain ⟨typeId, -, h⟩ := of_bind_eq_ok h
  obtain ⟨pointerType, -, h⟩ := of_bind_eq_ok h
  obtain ⟨id, -, h⟩ := of_bind_eq_ok h
  obtain ⟨word, -, h⟩ := of_bind_eq_ok h
  obtain ⟨storage, -, h⟩ := of_bind_eq_ok h
  split at h
  · exact absurd h (by simp)
  · split at h
    · rename_i pointee _ hformer
      split at h
      · refine .of_addInterfaceVariable ?_ h
        obtain ⟨node, hn, hformer⟩ := Option.bind_eq_some_iff.mp hformer
        refine hclosed pointerType pointee ⟨node, hn, ?_⟩
        obtain ⟨start, guard, shape⟩ := node
        cases shape with
        | formed former made =>
          cases hformer
          exact List.mem_singleton_self _
        | _ => cases hformer
      · rw [← Except.ok.inj h]
        exact .globalVariable _
    · exact absurd h (by simp)
    · exact absurd h (by simp)

theorem isFunction_of_any (h : (d.workspace.node? n).any Node.isFunction = true) :
    d.workspace.IsFunction n := by
  obtain ⟨node, hn, hfunction⟩ := Option.any_eq_true _ _ |>.mp h
  have hshape := shape?_eq hn
  obtain ⟨start, guard, shape⟩ := node
  rcases shape with type | ⟨_ | _ | _, made⟩ | ⟨type, layout⟩
  · exact nomatch hfunction
  · exact nomatch hfunction
  · exact ⟨_, _, _, made, hshape⟩
  · exact nomatch hfunction
  · exact nomatch hfunction

theorem Visits.of_beginFunction (hopen : d.openFunction = none)
    (h : d.beginFunction i = .ok d') : Visits d i d' := by
  rw [beginFunction] at h
  obtain ⟨resultType, -, h⟩ := of_bind_eq_ok h
  obtain ⟨id, -, h⟩ := of_bind_eq_ok h
  obtain ⟨control, -, h⟩ := of_bind_eq_ok h
  obtain ⟨typeId, -, h⟩ := of_bind_eq_ok h
  obtain ⟨type, -, h⟩ := of_bind_eq_ok h
  split at h
  · exact absurd h (by simp)
  · rename_i hfunction
    split at h
    · exact absurd h (by simp)
    · rw [← Except.ok.inj h]
      exact .begun hopen (isFunction_of_any (by simpa using hfunction))

theorem Visits.of_visitInside {f : ShaderFunction} (hopen : d.openFunction = some f)
    (h : d.visitInside f i = .ok d') : Visits d i d' := by
  rw [visitInside] at h
  split at h
  · obtain ⟨id, -, h⟩ := of_bind_eq_ok h
    rw [← Except.ok.inj h]
    exact .parameter id hopen
  · rw [← Except.ok.inj h]
    exact .ended hopen
  · exact absurd h (by simp)
  · rw [← Except.ok.inj h]
    exact .aside d.names d.decorations d.constants d.entryPoints

theorem Visits.of_visitOutside (hopen : d.openFunction = none) (hd : d.TypesThere)
    (hclosed : d.workspace.Closed) {op : Opcode} (h : d.visitOutside op i = .ok d') :
    Visits d i d' := by
  -- one case for each kind of instruction that is not passed over
  revert h
  fun_cases visitOutside d op i
  all_goals intro h
  · exact .of_addName h
  · exact .of_decorate h
  · exact .of_decorateMember h
  · exact absurd h (by simp)
  · exact absurd h (by simp)
  · exact absurd h (by simp)
  · exact .of_addEntryPoint h
  · exact .of_addExecutionMode h
  · exact .of_addConstant h
  · exact .of_addConstant h
  · exact .of_addVariable hclosed h
  · exact .of_beginFunction hopen h
  · exact absurd h (by simp)
  · exact absurd h (by simp)
  · rw [if_pos (by assumption)] at h
    exact .of_declareType hd h
  · rw [if_neg (by assumption)] at h
    rw [← Except.ok.inj h]
    exact .aside d.names d.decorations d.constants d.entryPoints

/-- **What an instruction does is one of these.** -/
theorem visits (hd : d.TypesThere) (hclosed : d.workspace.Closed) (h : d.visit i = .ok d') :
    Visits d i d' := by
  rw [visit] at h
  split at h
  · rename_i hopen
    exact .of_visitInside hopen h
  · rename_i hopen _
    exact .of_visitOutside hopen hd hclosed h
  · rw [← Except.ok.inj h]
    exact .aside d.names d.decorations d.constants d.entryPoints

end Declarations

end ShaderLowering
