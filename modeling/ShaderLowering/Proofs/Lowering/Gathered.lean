import ShaderLowering.Proofs.Lowering.Outline

/-!
# The lists of a walk

A walk goes through one instruction after another, and nothing it has gathered is ever
given up: the types that are declared keep their nodes, and the nodes go on declaring what
they declared (`ShaderLowering.Declarations.Persists`). What holds of an entry when it is
added therefore holds of it at the end. All the lists of a walk but one are gathered by
one and the same argument, `ShaderLowering.Declarations.Walks.gathers`; the functions are
the exception, because a function is added by one instruction, has its parameters added by
others, and ends with yet another.
-/

namespace ShaderLowering

/-- The results of doing something for each member of a list go with its members. -/
theorem forall₂_of_mapM_eq_ok {ε α β : Type} {f : α → Except ε β} {as : List α} {bs : List β}
    (h : as.mapM f = .ok bs) : List.Forall₂ (fun a b => f a = .ok b) as bs := by
  induction as generalizing bs with
  | nil =>
    rw [List.mapM_nil] at h
    cases h
    exact .nil
  | cons a as ih =>
    rw [List.mapM_cons] at h
    obtain ⟨b, hb, hrest⟩ := of_bind_eq_ok h
    obtain ⟨bs', hbs', hend⟩ := of_bind_eq_ok hrest
    cases hend
    exact .cons hb (ih hbs')

/-- A list that goes with the members of another goes with what is found in them. -/
theorem filterMap_eq_of_forall₂ {α β : Type} {f : α → Option β} {as : List α} {bs : List β}
    (h : List.Forall₂ (fun a b => f a = some b) as bs) : as.filterMap f = bs := by
  induction h with
  | nil => rfl
  | cons hab _ ih => rw [List.filterMap_cons_some hab, ih]

/-! ### Which instruction is which -/

namespace Instruction

variable {i : Instruction}

theorem op?_of_isInterfaceVariable (h : i.isInterfaceVariable = true) :
    i.op? = some .variableOp := by
  rw [isInterfaceVariable, Bool.and_eq_true, beq_iff_eq] at h
  exact h.1

theorem op?_of_isGlobalVariable (h : i.isGlobalVariable = true) :
    i.op? = some .variableOp := by
  rw [isGlobalVariable, Bool.and_eq_true, beq_iff_eq] at h
  exact h.1

/-- No variable is both of the interface and a global. -/
theorem not_isGlobalVariable (h : i.isInterfaceVariable = true) : ¬i.isGlobalVariable = true := by
  rw [isInterfaceVariable, Bool.and_eq_true] at h
  rw [isGlobalVariable]
  cases hs : i.storage? with
  | none => simp
  | some storage =>
    rw [hs, Option.any_some] at h
    simp [h.2]

end Instruction

namespace Workspace

variable {w w' : Workspace} {n : NodeId}

/-- How many types a node takes, if it is a function. -/
def argCount (w : Workspace) (n : NodeId) : Nat :=
  (((w.node? n).map Node.args).getD []).length

theorem argCount_eq {result : NodeId} {args : List NodeId} {variadic : Bool} {made : Option Ty}
    (h : w.shape? n = some (.formed (.function result args variadic) made)) :
    w.argCount n = args.length := by
  obtain ⟨node, hn, hshape⟩ := Option.map_eq_some_iff.mp h
  rw [argCount, hn, Option.map_some, Option.getD_some, Node.args, Node.former?, hshape]

theorem shape?_addStruct_self (w : Workspace) (name : String) (members : List Member)
    (start : Nat) :
    (w.addStruct name members start).2.shape? (w.addStruct name members start).1 =
      some (.struct (w.arena.struct name).1 (.ofMembers members)) :=
  shape?_eq (node?_add_self _ _)

/-- Plain actions leave the members of a struct as they were added. -/
theorem Becomes.members_eq (h : w.Becomes Action.Plain w') (hn : w.IsStruct n) :
    w'.members n = w.members n := by
  obtain ⟨t, layout, hs⟩ := hn
  obtain ⟨layout', hs', hskeleton⟩ := h.struct hs
  rw [Workspace.members_eq hs, Workspace.members_eq hs', Layout.added_of_skeleton_eq hskeleton]

/-- A function goes on taking what it takes. -/
theorem GraphGrows.argCount (h : w.GraphGrows w') (hn : w.IsFunction n) :
    w'.argCount n = w.argCount n := by
  obtain ⟨result, args, variadic, made, hs⟩ := hn
  obtain ⟨s', hs', hgrows⟩ := h n _ hs
  cases hgrows with
  | formed _ _ made' => rw [argCount_eq hs, argCount_eq hs']

end Workspace

namespace Declarations

open Workspace

variable {d d₁ d' : Declarations} {arena : TypeArena} {i : Instruction}
  {is : List Instruction} {id : Id} {n : NodeId}

/-! ### What stays -/

/-- **What has been declared stays**: types keep their nodes, and the graph grows. -/
structure Persists (d d' : Declarations) : Prop where
  types : ∀ id n, d.types.lookup id = some n → d'.types.lookup id = some n
  graph : d.workspace.GraphGrows d'.workspace

theorem Persists.refl (d : Declarations) : d.Persists d :=
  ⟨fun _ _ h => h, .refl _⟩

theorem Persists.trans (h : d.Persists d₁) (h' : d₁.Persists d') : d.Persists d' :=
  ⟨fun id n hn => h'.types id n (h.types id n hn), h.graph.trans h'.graph⟩

theorem Persists.variableType? (h : d.Persists d') (hi : d.variableType? i = some n) :
    d'.variableType? i = some n := by
  obtain ⟨id, hid, hn⟩ := Option.bind_eq_some_iff.mp hi
  exact Option.bind_eq_some_iff.mpr ⟨id, hid, h.types id n hn⟩

theorem Persists.variablePointee? (h : d.Persists d') (hi : d.variablePointee? i = some n) :
    d'.variablePointee? i = some n := by
  obtain ⟨type, htype, hn⟩ := Option.bind_eq_some_iff.mp hi
  exact Option.bind_eq_some_iff.mpr ⟨type, h.variableType? htype, h.graph.pointee? hn⟩

/-- A struct that is given a member goes on declaring what it declared. -/
theorem graphGrows_addMember? {w w' : Workspace} {member : Member}
    (h : w.addMember? n member = some (.ok w')) : w.GraphGrows w' := by
  obtain ⟨t, layout, hs, -, rfl⟩ := of_addMember? h
  exact graphGrows_reshape hs (.struct t (layout.grows_push member))

theorem Visits.persists (h : Visits d i d') : d.Persists d' := by
  rcases h with ⟨names, decorations, constants, entryPoints⟩ | ⟨scalarWidths, hnew, hw, hn⟩ |
    ⟨hw⟩ | ⟨id, hmember, hplace, hw⟩ | ⟨g⟩ | ⟨hopen, hf⟩ | ⟨id, hopen⟩ | ⟨hopen⟩
  · exact ⟨fun _ _ h => h, .refl _⟩
  · refine ⟨fun id' n' h => ?_, hw.graphGrows⟩
    -- the id that is declared had no node before
    rw [List.lookup_cons]
    split
    · rename_i heq
      rw [eq_of_beq heq, hnew] at h
      exact nomatch h
    · exact h
  · exact ⟨fun _ _ h => h, hw.graphGrows⟩
  · exact ⟨fun _ _ h => h,
      (d.openInterface_becomes i.start).graphGrows.trans (graphGrows_addMember? hw)⟩
  · exact ⟨fun _ _ h => h, .refl _⟩
  · exact ⟨fun _ _ h => h, .refl _⟩
  · exact ⟨fun _ _ h => h, .refl _⟩
  · exact ⟨fun _ _ h => h, .refl _⟩

/-- Unless a variable is added to the interface, the members of structs stay. -/
theorem Visits.becomes (h : Visits d i d') (hi : d'.interface = d.interface) :
    d.workspace.Becomes Action.Plain d'.workspace := by
  rcases h with ⟨names, decorations, constants, entryPoints⟩ | ⟨scalarWidths, hnew, hw, hn⟩ |
    ⟨hw⟩ | ⟨id, hmember, hplace, hw⟩ | ⟨g⟩ | ⟨hopen, hf⟩ | ⟨id, hopen⟩ | ⟨hopen⟩
  · exact .refl _
  · exact hw
  · exact hw
  · have hlength := congrArg (fun f : Option Interface => f.map fun f => f.members.length) hi
    rw [openInterface] at hlength
    split at hlength
    · rename_i f hf
      simp [hf] at hlength
    · rename_i hf
      simp [hf] at hlength
  · exact .refl _
  · exact .refl _
  · exact .refl _
  · exact .refl _

/-! ### Walks -/

/-- **A walk** over instructions, from some declarations to others. -/
inductive Walks (arena : TypeArena) : Declarations → List Instruction → Declarations → Prop
  /-- There is nothing to read. -/
  | nil {d : Declarations} (hd : d.Sound arena) : Walks arena d [] d
  /-- An instruction is read, and then others. -/
  | cons {d d₁ d' : Declarations} {i : Instruction} {is : List Instruction}
      (hd : d.Sound arena) (hvisit : d.visit i = .ok d₁) (hvisits : Visits d i d₁)
      (hreads : Reads d i d₁) (hrest : Walks arena d₁ is d') : Walks arena d (i :: is) d'

theorem walks_of_foldlM (hd : d.Sound arena) (h : is.foldlM visit d = .ok d') :
    Walks arena d is d' := by
  induction is generalizing d with
  | nil =>
    rw [List.foldlM_nil] at h
    rw [← Except.ok.inj h]
    exact .nil hd
  | cons i is ih =>
    rw [List.foldlM_cons] at h
    obtain ⟨d₁, hvisit, hrest⟩ := of_bind_eq_ok h
    have hvisits := visits hd.types hd.closed hvisit
    exact .cons hd hvisit hvisits (reads hvisit) (ih (hd.visits hvisits) hrest)

theorem walks_ofInstructions (h : ofInstructions arena is = .ok d) :
    Walks arena { workspace := { arena } } is d :=
  walks_of_foldlM (sound_empty arena) h

theorem Walks.persists (h : Walks arena d is d') : d.Persists d' := by
  induction h with
  | nil => exact .refl _
  | cons hd hvisit hvisits hreads hrest ih => exact hvisits.persists.trans ih

theorem Walks.sound (h : Walks arena d is d') : d'.Sound arena := by
  induction h with
  | nil hd => exact hd
  | cons _ _ _ _ _ ih => exact ih

/-- Outside of functions, reading goes on inside of one after the instruction that begins
it, and only then. -/
theorem Reads.isSome_of_none (h : Reads d i d') (hopen : d.openFunction = none) :
    d'.openFunction.isSome = (i.op? == some .function) := by
  cases h with
  | begun _ hop => rw [hop]; rfl
  | other _ _ _ _ hfunction => rw [hopen, beq_false_of_ne hfunction]; rfl
  | parameter hsome | ended hsome | passed hsome => exact nomatch hopen.symm.trans hsome
  | named _ hop | entryPoint _ hop | moded _ hop | interfaceVariable _ hop
  | globalVariable _ hop => rw [hopen, hop]; rfl

/-- Inside of a function, reading goes on inside of it until its end. -/
theorem Reads.isSome_of_some (h : Reads d i d') {f : ShaderFunction}
    (hopen : d.openFunction = some f) :
    d'.openFunction.isSome = (i.op? != some .functionEnd) := by
  cases h with
  | parameter _ hop | ended _ hop => rw [hop]; rfl
  | passed _ _ _ hend => rw [hopen, bne_iff_ne.mpr hend]; rfl
  | named hnone | entryPoint hnone | moded hnone | interfaceVariable hnone
  | globalVariable hnone | begun hnone | other hnone => exact nomatch hopen.symm.trans hnone

/-! ### One entry for each instruction -/

/-- **A list that a walk gathers has one entry for each instruction that is selected**, in
their order, if reading such an instruction outside of functions adds its entry, and
reading any other instruction leaves the list alone. -/
theorem Walks.gathers {β : Type} (h : Walks arena d is d') (view : Declarations → List β)
    (select : Instruction → Bool) (Of : Declarations → Instruction → β → Prop)
    (hskip : ∀ d i d', d.Sound arena → Visits d i d' → Reads d i d' →
      (d.openFunction = none → ¬select i = true) → view d' = view d)
    (hentry : ∀ d i d', d.Sound arena → Visits d i d' → Reads d i d' →
      d.openFunction = none → select i = true → ∃ b, view d' = view d ++ [b] ∧ Of d' i b)
    (hlater : ∀ d d' i b, d.Persists d' → Of d i b → Of d' i b) :
    ∃ bs, view d' = view d ++ bs ∧
      List.Forall₂ (Of d') ((outside d.openFunction.isSome is).filter select) bs := by
  induction h with
  | @nil d hd =>
    refine ⟨[], (List.append_nil _).symm, ?_⟩
    rw [outside]
    exact .nil
  | @cons d d₁ d' i is hd hvisit hvisits hreads hrest ih =>
    obtain ⟨bs, hview, hbs⟩ := ih
    cases hopen : d.openFunction with
    | none =>
      rw [hreads.isSome_of_none hopen] at hbs
      rw [Option.isSome_none, outside]
      by_cases hi : select i = true
      · obtain ⟨b, hview₁, hb⟩ := hentry d i d₁ hd hvisits hreads hopen hi
        rw [List.filter_cons_of_pos hi]
        refine ⟨b :: bs, ?_, .cons (hlater _ _ _ _ hrest.persists hb) hbs⟩
        rw [hview, hview₁, List.append_assoc, List.singleton_append]
      · rw [List.filter_cons_of_neg hi]
        exact ⟨bs, hview.trans (congrArg (· ++ bs)
          (hskip d i d₁ hd hvisits hreads fun _ => hi)), hbs⟩
    | some f =>
      rw [hreads.isSome_of_some hopen] at hbs
      have hview₁ := hskip d i d₁ hd hvisits hreads fun hnone => nomatch hopen.symm.trans hnone
      exact ⟨bs, hview.trans (congrArg (· ++ bs) hview₁), hbs⟩

/-! ### Names -/

theorem Reads.names_eq (h : Reads d i d')
    (hi : d.openFunction = none → ¬(i.op? == some .name) = true) : d'.names = d.names := by
  cases h with
  | named hopen hop => exact absurd (beq_iff_eq.mpr hop) (hi hopen)
  | _ => rfl

theorem Reads.exists_name (h : Reads d i d') (hopen : d.openFunction = none)
    (hi : i.op? = some .name) :
    ∃ entry, d'.names = entry :: d.names ∧ i.named? = some entry := by
  cases h with
  | named _ _ hentry => exact ⟨_, rfl, hentry⟩
  | _ => simp_all

/-- **The names of a walk** are those that are given outside of functions, the latest
first. -/
theorem Walks.names (h : Walks arena { workspace := { arena } } is d) :
    d.names = ((moduleScope is).filterMap Instruction.named?).reverse := by
  obtain ⟨entries, hnames, hentries⟩ := h.gathers (fun d => d.names.reverse)
    (fun i => i.op? == some .name) (fun _ i entry => i.named? = some entry)
    (fun d i d' _ _ hreads hi => congrArg List.reverse (hreads.names_eq hi))
    (fun d i d' _ _ hreads hopen hi => by
      obtain ⟨entry, hnames, hentry⟩ := hreads.exists_name hopen (beq_iff_eq.mp hi)
      exact ⟨entry, by rw [hnames, List.reverse_cons], hentry⟩)
    fun _ _ _ _ _ h => h
  have hselected : (moduleScope is).filterMap Instruction.named? =
      ((moduleScope is).filter fun i => i.op? == some .name).filterMap Instruction.named? := by
    rw [List.filterMap_filter]
    refine List.filterMap_congr fun i _ => ?_
    split
    · rfl
    · rename_i hi
      exact if_neg (mt beq_iff_eq.mpr hi)
  have hfound := filterMap_eq_of_forall₂ hentries
  rw [hselected, ← List.reverse_inj, hnames, List.reverse_reverse]
  exact hfound.symm

theorem Walks.lookup_names (h : Walks arena { workspace := { arena } } is d) (id : Id) :
    d.names.lookup id = lastName is id := by
  rw [h.names, lastName]

/-! ### Entry points -/

theorem Reads.headings_eq (h : Reads d i d')
    (hi : d.openFunction = none → ¬i.isEntryPoint = true) :
    d'.entryPoints.map ShaderEntryPoint.heading = d.entryPoints.map ShaderEntryPoint.heading := by
  cases h with
  | entryPoint hopen hop => exact absurd (beq_iff_eq.mpr hop) (hi hopen)
  | moded _ _ hrecord =>
    rw [List.map_map]
    exact List.map_congr_left fun p _ => hrecord p
  | _ => rfl

theorem Reads.exists_heading (h : Reads d i d') (hopen : d.openFunction = none)
    (hi : i.op? = some .entryPoint) :
    ∃ heading, d'.entryPoints.map ShaderEntryPoint.heading =
      d.entryPoints.map ShaderEntryPoint.heading ++ [heading] ∧ i.heading? = some heading := by
  cases h with
  | @entryPoint p _ _ hp => exact ⟨p.heading, List.map_append, hp⟩
  | _ => simp_all

/-- **The entry points of a walk** are those declared outside of functions. -/
theorem Walks.headings (h : Walks arena { workspace := { arena } } is d) :
    List.Forall₂ (fun i heading => i.heading? = some heading)
      ((moduleScope is).filter Instruction.isEntryPoint)
      (d.entryPoints.map ShaderEntryPoint.heading) := by
  obtain ⟨headings, heq, hheadings⟩ := h.gathers
    (fun d => d.entryPoints.map ShaderEntryPoint.heading) Instruction.isEntryPoint
    (fun _ i heading => i.heading? = some heading)
    (fun d i d' _ _ hreads hi => hreads.headings_eq hi)
    (fun d i d' _ _ hreads hopen hi => hreads.exists_heading hopen (beq_iff_eq.mp hi))
    fun _ _ _ _ _ h => h
  rw [heq]
  exact hheadings

/-! ### Globals -/

/-- The global is the variable that an instruction declares. -/
structure IsGlobalOf (d : Declarations) (i : Instruction) (g : ShaderGlobal) : Prop where
  id : i.operands[1]? = some g.id
  storage : i.storage? = some g.storage
  type : d.variableType? i = some g.pointerType
  pointee : (d.workspace.pointee? g.pointerType).isSome

theorem Reads.globals_eq (h : Reads d i d')
    (hi : d.openFunction = none → ¬i.isGlobalVariable = true) : d'.globals = d.globals := by
  cases h with
  | globalVariable hopen _ hglobal => exact absurd hglobal (hi hopen)
  | _ => rfl

theorem Reads.exists_global (h : Reads d i d') (hopen : d.openFunction = none)
    (hi : i.isGlobalVariable = true) :
    ∃ g, d'.globals = d.globals ++ [g] ∧ d'.IsGlobalOf i g := by
  have hop := Instruction.op?_of_isGlobalVariable hi
  cases h with
  | globalVariable _ _ _ hid hstorage htype hpointee =>
    exact ⟨_, rfl, hid, hstorage, htype, hpointee⟩
  | interfaceVariable _ _ hinterface =>
    exact absurd hi (Instruction.not_isGlobalVariable hinterface)
  | _ => simp_all

theorem IsGlobalOf.persists {g : ShaderGlobal} (hg : d.IsGlobalOf i g) (h : d.Persists d') :
    d'.IsGlobalOf i g := by
  obtain ⟨pointee, hpointee⟩ := Option.isSome_iff_exists.mp hg.pointee
  exact ⟨hg.id, hg.storage, h.variableType? hg.type,
    Option.isSome_of_eq_some (h.graph.pointee? hpointee)⟩

/-- **The globals of a walk** are the variables that are neither inputs nor outputs. -/
theorem Walks.globals (h : Walks arena { workspace := { arena } } is d) :
    List.Forall₂ d.IsGlobalOf ((moduleScope is).filter Instruction.isGlobalVariable)
      d.globals := by
  obtain ⟨globals, heq, hglobals⟩ := h.gathers Declarations.globals
    Instruction.isGlobalVariable Declarations.IsGlobalOf
    (fun d i d' _ _ hreads hi => hreads.globals_eq hi)
    (fun d i d' _ _ hreads hopen hi => hreads.exists_global hopen hi)
    fun _ _ _ _ h hg => hg.persists h
  rw [heq]
  exact hglobals

/-! ### The interface -/

theorem Reads.interface_eq (h : Reads d i d')
    (hi : d.openFunction = none → ¬i.isInterfaceVariable = true) :
    d'.interface = d.interface := by
  cases h with
  | interfaceVariable hopen _ hinterface => exact absurd hinterface (hi hopen)
  | _ => rfl

theorem interfaceIds_eq {f : Interface} (hf : d.interface = some f) :
    d.interfaceIds = f.members.map InterfaceVariable.id := by
  rw [interfaceIds, hf]
  rfl

theorem interfaceTypes_eq {f : Interface} (hf : d.interface = some f) :
    d.interfaceTypes = d.workspace.memberTypes f.node := by
  rw [interfaceTypes, hf]
  rfl

theorem interfaceMembers_eq {f : Interface} (hf : d.interface = some f) :
    d.interfaceMembers = d.workspace.members f.node := by
  rw [interfaceMembers, hf]
  rfl

theorem interfaceTypes_eq_map (d : Declarations) :
    d.interfaceTypes = d.interfaceMembers.map Prod.snd := by
  cases hf : d.interface with
  | none => rw [interfaceTypes, interfaceMembers, hf]; rfl
  | some f => rw [interfaceTypes_eq hf, interfaceMembers_eq hf, memberTypes_eq_map]

/-- Until there is another variable, the struct of the interface keeps its members. -/
theorem Visits.interfaceMembers_eq (hd : d.Sound arena) (h : Visits d i d')
    (hi : d'.interface = d.interface) : d'.interfaceMembers = d.interfaceMembers := by
  cases hf : d.interface with
  | none => rw [interfaceMembers, interfaceMembers, hi, hf]; rfl
  | some f =>
    obtain ⟨t, layout, hs, -⟩ := hd.interface f hf
    rw [Declarations.interfaceMembers_eq hf, Declarations.interfaceMembers_eq (hi.trans hf)]
    exact (h.becomes hi).members_eq ⟨t, layout, hs⟩

/-- An open interface has the variables and members it had before, or none. -/
theorem openInterface_eq (d : Declarations) (start : Nat) :
    (d.openInterface start).1.members.map InterfaceVariable.id = d.interfaceIds ∧
      (d.openInterface start).2.members (d.openInterface start).1.node =
        d.interfaceMembers := by
  rw [openInterface]
  split
  · rename_i f hf
    exact ⟨(interfaceIds_eq hf).symm, (interfaceMembers_eq hf).symm⟩
  · rename_i hf
    rw [interfaceIds, interfaceMembers, hf]
    refine ⟨rfl, ?_⟩
    exact members_eq ((d.workspace.shape?_withStruct interfaceStructName [] start _).trans
      (if_pos rfl))

/-- **A variable of the interface and its member** are added together. -/
theorem Reads.exists_interfaceVariable (h : Reads d i d') (hopen : d.openFunction = none)
    (hi : i.isInterfaceVariable = true) :
    ∃ id type, i.operands[1]? = some id ∧ d.variablePointee? i = some type ∧
      d'.interfaceIds = d.interfaceIds ++ [id] ∧
      d'.interfaceMembers = d.interfaceMembers ++ [(d.decorationsOf (.object id), type)] := by
  have hop := Instruction.op?_of_isInterfaceVariable hi
  cases h with
  | @interfaceVariable id member w _ _ _ hid htype hw hdecorations =>
    obtain ⟨hids, hmembers⟩ := d.openInterface_eq i.start
    obtain ⟨t, layout, hs, -, rfl⟩ := of_addMember? hw
    have hs' := (shape?_reshape hs (.struct t (layout.push member))
      (d.openInterface i.start).1.node).trans (if_pos rfl)
    refine ⟨id, member.type, hid, htype, ?_, ?_⟩
    · rw [interfaceIds_eq rfl, List.map_append, hids]
      rfl
    · rw [interfaceMembers_eq rfl, ← hmembers, members_eq hs, ← hdecorations]
      refine (members_eq hs').trans ?_
      rw [Layout.push, List.map_append]
      rfl
  | globalVariable _ _ hglobal => exact absurd hglobal (Instruction.not_isGlobalVariable hi)
  | _ => simp_all

/-- **The variables of the interface** are the inputs and outputs. -/
theorem Walks.interfaceIds (h : Walks arena { workspace := { arena } } is d) :
    List.Forall₂ (fun i id => i.operands[1]? = some id)
      ((moduleScope is).filter Instruction.isInterfaceVariable) d.interfaceIds := by
  obtain ⟨ids, heq, hids⟩ := h.gathers Declarations.interfaceIds
    Instruction.isInterfaceVariable (fun _ i id => i.operands[1]? = some id)
    (fun d i d' _ _ hreads hi => by
      rw [Declarations.interfaceIds, Declarations.interfaceIds, hreads.interface_eq hi])
    (fun d i d' _ _ hreads hopen hi => by
      obtain ⟨id, -, hid, -, hids, -⟩ := hreads.exists_interfaceVariable hopen hi
      exact ⟨id, hids, hid⟩)
    fun _ _ _ _ _ h => h
  rw [heq]
  exact hids

/-- A walk adds a member to the interface struct for each input and output, of the type that
it is a place for. -/
theorem Walks.interfaceMembers_append (h : Walks arena d is d') :
    ∃ members, d'.interfaceMembers = d.interfaceMembers ++ members ∧
      List.Forall₂ (fun i member => d'.variablePointee? i = some member.2)
        ((outside d.openFunction.isSome is).filter Instruction.isInterfaceVariable) members :=
  h.gathers Declarations.interfaceMembers Instruction.isInterfaceVariable
    (fun d i member => d.variablePointee? i = some member.2)
    (fun d i d' hd hvisits hreads hi => hvisits.interfaceMembers_eq hd (hreads.interface_eq hi))
    (fun d i d' _ hvisits hreads hopen hi => by
      obtain ⟨id, type, -, htype, -, hmembers⟩ := hreads.exists_interfaceVariable hopen hi
      exact ⟨_, hmembers, hvisits.persists.variablePointee? htype⟩)
    fun _ _ _ _ h hi => h.variablePointee? hi

/-- **The members of the interface struct** have the types of the inputs and outputs. -/
theorem Walks.interfaceTypes (h : Walks arena { workspace := { arena } } is d) :
    List.Forall₂ (fun i type => d.variablePointee? i = some type)
      ((moduleScope is).filter Instruction.isInterfaceVariable) d.interfaceTypes := by
  obtain ⟨members, heq, hmembers⟩ := h.interfaceMembers_append
  rw [interfaceTypes_eq_map, heq, List.forall₂_map_right_iff]
  exact hmembers

/-- There is an interface only if it has a variable. -/
theorem Walks.interface_inhabited (h : Walks arena d is d')
    (hd : ∀ f, d.interface = some f → f.members ≠ []) :
    ∀ f, d'.interface = some f → f.members ≠ [] := by
  induction h with
  | nil => exact hd
  | cons _ _ _ hreads _ ih =>
    refine ih fun f hf => ?_
    cases hreads with
    | interfaceVariable =>
      rw [← Option.some.inj hf]
      exact List.append_ne_nil_of_right_ne_nil _ (List.cons_ne_nil _ _)
    | _ => exact hd f hf

/-! ### Functions -/

/-- The function is the one that an instruction begins and that has some parameters. -/
structure IsFunctionOf (d : Declarations) (entry : Instruction × List Instruction)
    (f : ShaderFunction) : Prop where
  id : entry.1.operands[1]? = some f.id
  type : (entry.1.operands[3]?.bind fun id => d.types.lookup id) = some f.type
  parameters : List.Forall₂ (fun i id => i.operands[1]? = some id) entry.2 f.parameters

/-- What a walk makes of the functions: the one that is being read gets the parameters
that are ahead, and then come the functions that are ahead. -/
def ReadsFunctions (d : Declarations) (is : List Instruction) (d' : Declarations) : Prop :=
  ∃ fs, List.Forall₂ d'.IsFunctionOf (functionsOf is) fs ∧
    match d.openFunction with
    | none => d'.allFunctions = d.functions ++ fs
    | some f => ∃ ids,
      List.Forall₂ (fun i id => i.operands[1]? = some id) (parametersAhead is) ids ∧
        d'.allFunctions = d.functions ++ { f with parameters := f.parameters ++ ids } :: fs

theorem functionsOf_cons_of_ne (h : i.op? ≠ some .function) :
    functionsOf (i :: is) = functionsOf is :=
  if_neg h

theorem parametersAhead_cons_of_ne (hend : i.op? ≠ some .functionEnd)
    (hparameter : i.op? ≠ some .functionParameter) :
    parametersAhead (i :: is) = parametersAhead is := by
  have hparameter' : ¬i.isParameter = true := mt beq_iff_eq.mp hparameter
  simp only [parametersAhead, List.takeWhile_cons, bne_iff_ne.mpr hend, if_true,
    List.filter_cons_of_neg hparameter']

theorem parametersAhead_cons_parameter (h : i.op? = some .functionParameter) :
    parametersAhead (i :: is) = i :: parametersAhead is := by
  have hparameter : i.isParameter = true := beq_iff_eq.mpr h
  have hend : (i.op? != some .functionEnd) = true := by
    rw [h]
    rfl
  simp only [parametersAhead, List.takeWhile_cons, hend, if_true,
    List.filter_cons_of_pos hparameter]

theorem parametersAhead_cons_end (h : i.op? = some .functionEnd) :
    parametersAhead (i :: is) = [] := by
  rw [parametersAhead, List.takeWhile_cons_of_neg (by rw [h]; decide), List.filter_nil]

/-- One instruction is read, and the others make of the functions what they make. -/
theorem ReadsFunctions.cons (hreads : Reads d i d₁) (hpersists : d.Persists d')
    (h : ReadsFunctions d₁ is d') : ReadsFunctions d (i :: is) d' := by
  obtain ⟨fs, hfs, hall⟩ := h
  -- outside of functions, what begins none leaves the functions alone
  have haside (hopen : d.openFunction = none) (hopen₁ : d₁.openFunction = none)
      (hop : i.op? ≠ some .function) (heq : d₁.functions = d.functions) :
      ReadsFunctions d (i :: is) d' := by
    refine ⟨fs, (functionsOf_cons_of_ne hop).symm ▸ hfs, ?_⟩
    rw [hopen₁, heq] at hall
    rw [hopen]
    exact hall
  cases hreads with
  | named hopen hop | entryPoint hopen hop | moded hopen hop | interfaceVariable hopen hop
  | globalVariable hopen hop => exact haside hopen hopen (by rw [hop]; decide) rfl
  | other hopen _ _ _ hfunction => exact haside hopen hopen hfunction rfl
  | @begun f hopen hop hid htype hnone =>
    obtain ⟨ids, hids, hall⟩ := hall
    rw [hnone, List.nil_append] at hall
    rw [ReadsFunctions, functionsOf, if_pos hop, hopen]
    obtain ⟨id, htypeId, htype⟩ := Option.bind_eq_some_iff.mp htype
    have hf : d'.IsFunctionOf (i, parametersAhead is) { f with parameters := ids } :=
      ⟨hid, Option.bind_eq_some_iff.mpr ⟨id, htypeId, hpersists.types _ _ htype⟩, hids⟩
    exact ⟨{ f with parameters := ids } :: fs, .cons hf hfs, hall⟩
  | @parameter f id hopen hop hid =>
    obtain ⟨ids, hids, hall⟩ := hall
    rw [ReadsFunctions, functionsOf_cons_of_ne (by rw [hop]; decide), hopen]
    refine ⟨fs, hfs, id :: ids, parametersAhead_cons_parameter hop ▸ .cons hid hids, ?_⟩
    rw [hall, List.append_assoc, List.singleton_append]
  | @ended f hopen hop =>
    rw [ReadsFunctions, functionsOf_cons_of_ne (by rw [hop]; decide), hopen]
    refine ⟨fs, hfs, [], parametersAhead_cons_end hop ▸ .nil, ?_⟩
    rw [List.append_nil]
    exact hall.trans (List.append_assoc _ _ _)
  | @passed f hopen hfunction hparameter hend =>
    rw [hopen] at hall
    rw [ReadsFunctions, functionsOf_cons_of_ne hfunction,
      parametersAhead_cons_of_ne hend hparameter, hopen]
    exact ⟨fs, hfs, hall⟩

theorem Walks.readsFunctions (h : Walks arena d is d') : ReadsFunctions d is d' := by
  induction h with
  | @nil d hd =>
    refine ⟨[], .nil, ?_⟩
    cases hopen : d.openFunction with
    | none =>
      rw [allFunctions, hopen]
      rfl
    | some f =>
      refine ⟨[], .nil, ?_⟩
      rw [allFunctions, hopen, List.append_nil]
      rfl
  | cons hd hvisit hvisits hreads hrest ih =>
    exact ih.cons hreads (hvisits.persists.trans hrest.persists)

/-- **The functions of a walk** are those of the stream. -/
theorem Walks.allFunctions (h : Walks arena { workspace := { arena } } is d) :
    List.Forall₂ d.IsFunctionOf (functionsOf is) d.allFunctions := by
  obtain ⟨fs, hfs, hall⟩ := h.readsFunctions
  rw [hall]
  exact hfs

/-- If the last function has ended, all of them have. -/
theorem Walks.functions (h : Walks arena { workspace := { arena } } is d)
    (hopen : d.openFunction = none) :
    List.Forall₂ d.IsFunctionOf (functionsOf is) d.functions := by
  have hall := h.allFunctions
  rwa [Declarations.allFunctions, hopen, Option.toList_none, List.append_nil] at hall

/-! ### Instructions outside of functions -/

/-- The instruction, if it is read outside of functions. -/
def heard (d : Declarations) (i : Instruction) : List Instruction :=
  if d.openFunction.isSome then [] else [i]

theorem heard_of_none (hopen : d.openFunction = none) : d.heard i = [i] := by
  rw [heard, hopen]
  rfl

theorem heard_of_some {f : ShaderFunction} (hopen : d.openFunction = some f) :
    d.heard i = [] := by
  rw [heard, hopen]
  rfl

/-- What stands outside of functions begins with the instruction that is read there. -/
theorem Reads.outside_cons (h : Reads d i d') (is : List Instruction) :
    outside d.openFunction.isSome (i :: is) =
      d.heard i ++ outside d'.openFunction.isSome is := by
  cases hopen : d.openFunction with
  | none => rw [heard_of_none hopen, h.isSome_of_none hopen, Option.isSome_none, outside]; rfl
  | some f => rw [heard_of_some hopen, h.isSome_of_some hopen, Option.isSome_some, outside]; rfl

/-- **A walk comes by an instruction** that stands outside of functions: it goes through
instructions before it, reads it, and goes through instructions after it. -/
structure ComesBy (arena : TypeArena) (d : Declarations) (before : List Instruction)
    (i : Instruction) (after : List Instruction) (d' d₁ d₂ : Declarations) : Prop where
  earlier : ∃ is, outside d.openFunction.isSome is = before ∧ Walks arena d is d₁
  closed : d₁.openFunction = none
  visit : d₁.visit i = .ok d₂
  later : ∃ is, outside d₂.openFunction.isSome is = after ∧ Walks arena d₂ is d'

/-- A walk that reads another instruction first comes by the same instructions. -/
theorem ComesBy.cons {before after : List Instruction} {d₀ d₂ : Declarations} {j : Instruction}
    (h : ComesBy arena d₀ before i after d' d₁ d₂) (hd : d.Sound arena)
    (hvisit : d.visit j = .ok d₀) (hvisits : Visits d j d₀) (hreads : Reads d j d₀) :
    ComesBy arena d (d.heard j ++ before) i after d' d₁ d₂ := by
  obtain ⟨is, hbefore, hwalks⟩ := h.earlier
  refine ⟨⟨j :: is, ?_, .cons hd hvisit hvisits hreads hwalks⟩, h.closed, h.visit, h.later⟩
  rw [hreads.outside_cons, hbefore]

/-- What has been declared when an instruction is read stays. -/
theorem ComesBy.persists {before after : List Instruction} {d₂ : Declarations}
    (h : ComesBy arena d before i after d' d₁ d₂) : d₁.Persists d' := by
  obtain ⟨is₁, -, hwalks₁⟩ := h.earlier
  obtain ⟨is₂, -, hwalks₂⟩ := h.later
  have hvisits := visits hwalks₁.sound.types hwalks₁.sound.closed h.visit
  exact hvisits.persists.trans hwalks₂.persists

/-- **A walk comes by every instruction outside of functions.** -/
theorem Walks.exists_comesBy (h : Walks arena d is d') {before after : List Instruction}
    (hsplit : outside d.openFunction.isSome is = before ++ i :: after) :
    ∃ d₁ d₂, ComesBy arena d before i after d' d₁ d₂ := by
  induction h generalizing before with
  | nil =>
    rw [outside] at hsplit
    exact absurd hsplit (by simp)
  | @cons d d₀ d' j is hd hvisit hvisits hreads hrest ih =>
    rw [hreads.outside_cons] at hsplit
    cases hopen : d.openFunction with
    | some f =>
      rw [heard_of_some hopen, List.nil_append] at hsplit
      obtain ⟨d₁, d₂, hby⟩ := ih hsplit
      have hby' := hby.cons hd hvisit hvisits hreads
      rw [heard_of_some hopen, List.nil_append] at hby'
      exact ⟨d₁, d₂, hby'⟩
    | none =>
      rw [heard_of_none hopen, List.singleton_append] at hsplit
      cases before with
      | nil =>
        obtain ⟨rfl, hafter⟩ := List.cons.inj hsplit
        exact ⟨d, d₀, ⟨[], by rw [outside], .nil hd⟩, hopen, hvisit, is, hafter,
          hrest⟩
      | cons k before =>
        obtain ⟨rfl, hsplit₀⟩ := List.cons.inj hsplit
        obtain ⟨d₁, d₂, hby⟩ := ih hsplit₀
        have hby' := hby.cons hd hvisit hvisits hreads
        rw [heard_of_none hopen, List.singleton_append] at hby'
        exact ⟨d₁, d₂, hby'⟩

/-- **An instruction outside of functions is read at some point**, and what has been declared
by then stays. -/
theorem Walks.exists_visit (h : Walks arena d is d')
    (hi : i ∈ outside d.openFunction.isSome is) :
    ∃ d₁ d₂ : Declarations, d₁.openFunction = none ∧ d₁.visit i = .ok d₂ ∧ d₂.Persists d' := by
  obtain ⟨before, after, hsplit⟩ := List.append_of_mem hi
  obtain ⟨d₁, d₂, hby⟩ := h.exists_comesBy hsplit
  obtain ⟨is₂, -, hrest⟩ := hby.later
  exact ⟨d₁, d₂, hby.closed, hby.visit, hrest.persists⟩

/-- A function type takes as many types as its instruction has operands left. -/
theorem of_visit_typeFunction (hopen : d.openFunction = none)
    (hi : i.op? = some .typeFunction) (h : d.visit i = .ok d') :
    ∃ id n, i.operands[0]? = some id ∧ d'.types.lookup id = some n ∧
      d'.workspace.IsFunction n ∧ d'.workspace.argCount n = (i.operandsFrom 2).length := by
  rw [visit, hopen, hi] at h
  replace h : d.declareType .typeFunction i = .ok d' := h
  obtain ⟨id, hid, h⟩ := of_bind_eq_ok h
  obtain ⟨resultId, -, h⟩ := of_bind_eq_ok h
  obtain ⟨result, -, h⟩ := of_bind_eq_ok h
  obtain ⟨args, hargs, h⟩ := of_bind_eq_ok h
  obtain ⟨-, rfl⟩ := of_define h
  have hs : (d.workspace.add (.formed (.function result args false) i.start)).2.shape?
      (d.workspace.add (.formed (.function result args false) i.start)).1 =
      some (.formed (.function result args false) none) :=
    shape?_eq (node?_add_self _ _)
  refine ⟨id, _, Instruction.of_operand hid, List.lookup_cons_self, ⟨_, _, _, _, hs⟩, ?_⟩
  rw [argCount_eq hs, (forall₂_of_mapM_eq_ok hargs).length_eq]

/-- **A function type** of the stream takes as many types at the end of a walk as its
instruction says. -/
theorem Walks.functionType (h : Walks arena d is d')
    (hi : i ∈ outside d.openFunction.isSome is) (hop : i.op? = some .typeFunction) :
    ∃ id n, i.operands[0]? = some id ∧ d'.types.lookup id = some n ∧
      d'.workspace.argCount n = (i.operandsFrom 2).length := by
  obtain ⟨d₁, d₂, hopen, hvisit, hlater⟩ := h.exists_visit hi
  obtain ⟨id, n, hid, hn, hfunction, hcount⟩ := of_visit_typeFunction hopen hop hvisit
  exact ⟨id, n, hid, hlater.types id n hn, (hlater.graph.argCount hfunction).trans hcount⟩

/-- A struct is added along with its type, and gets the decorations that were noted for its
members. -/
theorem of_visit_typeStruct (hopen : d.openFunction = none) (hi : i.op? = some .typeStruct)
    (h : d.visit i = .ok d') :
    ∃ id n types, i.operands[0]? = some id ∧ d'.types.lookup id = some n ∧
      d'.workspace.IsStruct n ∧
      List.Forall₂ (fun id type => d.types.lookup id = some type) (i.operandsFrom 1) types ∧
      d'.workspace.members n =
        types.mapIdx fun index type => (d.decorationsOf (.member id index), type) := by
  rw [visit, hopen, hi] at h
  replace h : d.declareType .typeStruct i = .ok d' := h
  obtain ⟨id, hid, h⟩ := of_bind_eq_ok h
  obtain ⟨types, htypes, h⟩ := of_bind_eq_ok h
  obtain ⟨-, rfl⟩ := of_define h
  have hs := d.workspace.shape?_addStruct_self (d.nameOf id s!"struct_{id}")
    (types.mapIdx fun index type => { decorations := d.decorationsOf (.member id index), type })
    i.start
  refine ⟨id, _, types, Instruction.of_operand hid, List.lookup_cons_self, ⟨_, _, hs⟩,
    (forall₂_of_mapM_eq_ok htypes).imp fun _ _ => lookup_of_typeNode, ?_⟩
  refine (members_eq hs).trans ?_
  rw [Layout.members_ofMembers]
  exact List.ext_getElem (by simp) fun _ _ _ => by simp

/-- **A struct** of the stream is a struct with a type at the end of a walk. -/
theorem Walks.structType (h : Walks arena d is d')
    (hi : i ∈ outside d.openFunction.isSome is) (hop : i.op? = some .typeStruct) :
    ∃ id n t, i.operands[0]? = some id ∧ d'.types.lookup id = some n ∧
      d'.workspace.structType? n = some t := by
  obtain ⟨d₁, d₂, hopen, hvisit, hlater⟩ := h.exists_visit hi
  obtain ⟨id, n, -, hid, hn, ⟨t, layout, hs⟩, -⟩ := of_visit_typeStruct hopen hop hvisit
  exact ⟨id, n, t, hid, hlater.types id n hn,
    hlater.graph.structType? (structType?_eq_some_iff.mpr ⟨layout, hs⟩)⟩

end Declarations

end ShaderLowering
