import ShaderLowering.Proofs.Lowering.EmissionEmbedding
import ShaderLowering.Proofs.Lowering.Internal

/-!
# Forward declarations that were not needed

A pointer may be declared ahead of its pointee. If nothing mentions it before it is declared in
full, then the declaration ahead was not needed, and it can be left out: the shader without it
is lowered if, and only if, the one with it is, and to the same unit with the same types
(`ShaderLowering.lower_without_forward`).

With the declaration ahead, the pointer is a node that is there early and is given its pointee
later; without it, a node that is added later. What is declared without it is found in what is
declared with it (`ShaderLowering.Declarations.Embeds`) at every point of the walk. Between the
two declarations the later nodes are one number further, and the pointer is what there is
besides (`ShaderLowering.Declarations.embeds_forward`). From the second declaration on it is one
of the nodes that stand for one another (`ShaderLowering.Declarations.Embeds.visit_pointer`).
-/

namespace ShaderLowering

/-! ### Nodes that are added on one side -/

/-- The number of a node if another is added as number `s` before it. -/
def NodeId.shift (s : Nat) (n : NodeId) : NodeId :=
  if n.index < s then n else ⟨n.index + 1⟩

/-- The numbers that `σ` gives to nodes if another is added as number `s` before them, which
gets number `a`. -/
def NodeId.insertAt (σ : NodeId → NodeId) (s : Nat) (a n : NodeId) : NodeId :=
  if n.index = s then a else σ (if n.index < s then n else ⟨n.index - 1⟩)

namespace NodeId

variable {σ : NodeId → NodeId} {s : Nat} {a n : NodeId}

theorem shift_of_lt (h : n.index < s) : n.shift s = n :=
  if_pos h

theorem shift_of_le (h : s ≤ n.index) : n.shift s = ⟨n.index + 1⟩ :=
  if_neg (Nat.not_lt.mpr h)

theorem index_shift_ne (s : Nat) (n : NodeId) : (n.shift s).index ≠ s := by
  rcases Nat.lt_or_ge n.index s with hlt | hge
  · rw [shift_of_lt hlt]
    exact Nat.ne_of_lt hlt
  · rw [shift_of_le hge]
    exact Nat.ne_of_gt (Nat.lt_succ_of_le hge)

/-- Every number is that of the node that was added, or one of those after it was. -/
theorem eq_or_exists_shift (s : Nat) (n : NodeId) : n = ⟨s⟩ ∨ ∃ m, n = shift s m := by
  rcases Nat.lt_trichotomy n.index s with hlt | heq | hgt
  · exact .inr ⟨n, (shift_of_lt hlt).symm⟩
  · exact .inl (congrArg mk heq)
  · refine .inr ⟨⟨n.index - 1⟩, ((shift_of_le (Nat.le_sub_one_of_lt hgt)).trans ?_).symm⟩
    exact congrArg mk (Nat.sub_add_cancel (Nat.zero_lt_of_lt hgt))

theorem insertAt_self : insertAt σ s a ⟨s⟩ = a :=
  if_pos rfl

theorem insertAt_shift : insertAt σ s a (n.shift s) = σ n := by
  rw [insertAt, if_neg (index_shift_ne s n)]
  rcases Nat.lt_or_ge n.index s with hlt | hge
  · rw [shift_of_lt hlt, if_pos hlt]
  · rw [shift_of_le hge, if_neg (Nat.not_lt_of_gt (Nat.lt_succ_of_le hge))]
    rfl

theorem insertAt_of_lt (h : n.index < s) : insertAt σ s a n = σ n := by
  have hshift : insertAt σ s a (n.shift s) = σ n := insertAt_shift
  rwa [shift_of_lt h] at hshift

theorem shift_injective (s : Nat) : Function.Injective (shift s) :=
  Function.LeftInverse.injective (g := insertAt id s ⟨s⟩) fun _ => insertAt_shift

theorem insertAt_injective (hσ : Function.Injective σ) (ha : ∀ n, σ n ≠ a) :
    Function.Injective (insertAt σ s a) := by
  intro n m h
  rcases eq_or_exists_shift s n with rfl | ⟨n, rfl⟩ <;>
    rcases eq_or_exists_shift s m with rfl | ⟨m, rfl⟩
  · rfl
  · rw [insertAt_self, insertAt_shift] at h
    exact absurd h.symm (ha m)
  · rw [insertAt_self, insertAt_shift] at h
    exact absurd h (ha n)
  · rw [insertAt_shift, insertAt_shift] at h
    rw [hσ h]

end NodeId

/-- Only the numbers of nodes that are referred to count. -/
theorem Node.Resembles.congr {σ σ' : NodeId → NodeId} {node node' : Node}
    (h : node.Resembles σ node') (hσ : ∀ n ∈ node.refs, σ n = σ' n) :
    node.Resembles σ' node' :=
  ⟨h.guard, h.shape.trans (Shape.relocate_congr hσ)⟩

namespace Workspace

variable {σ : NodeId → NodeId} {w w' : Workspace} {a : NodeId} {node before : Node}

theorem node?_add_shift (w : Workspace) (node : Node) (n : NodeId) :
    (w.add node).2.node? (n.shift w.graph.nodes.size) = w.node? n := by
  rw [node?_add, if_neg (NodeId.index_shift_ne _ n)]
  rcases Nat.lt_or_ge n.index w.graph.nodes.size with hlt | hge
  · rw [NodeId.shift_of_lt hlt]
  · rw [NodeId.shift_of_le hge]
    exact (Array.getElem?_eq_none (Nat.le_succ_of_le hge)).trans
      (Array.getElem?_eq_none hge).symm

/-- **A node is added that nothing refers to**: what was there before is found with all later
numbers one further. -/
theorem embeds_add (hw : w.Closed) (node : Node) :
    Embeds (NodeId.shift w.graph.nodes.size) (fun _ => some node) w (w.add node).2 where
  arena := rfl
  injective := NodeId.shift_injective _
  node n := by
    rw [node?_add_shift]
    cases hn : w.node? n with
    | none => exact .none
    | some found =>
      have hsame : found.Resembles (fun n => n) found := ⟨rfl, (Shape.relocate_id _).symm⟩
      refine .some (hsame.congr fun m hm => ?_)
      exact (NodeId.shift_of_lt (lt_size_iff.mpr (hw n m ⟨found, hn, hm⟩))).symm
  rest m hm := by
    rcases NodeId.eq_or_exists_shift w.graph.nodes.size m with rfl | ⟨n, rfl⟩
    · rw [node?_add, if_pos rfl]
    · exact absurd rfl (hm n)
  fresh k := by
    rw [NodeId.shift_of_le (Nat.le_add_right _ _), size_add, Nat.add_right_comm]

/-- **A node is added for what there is besides**, which is changed so that the one stands for
the other. -/
theorem Embeds.add_modify {f : Node → Node} (h : Embeds σ (fun _ => some before) w w')
    (hw : w.Closed) (ha : ∀ n, σ n ≠ a) (hrefs : ∀ n ∈ node.refs, (w.node? n).isSome)
    (hr : node.Resembles σ (f before)) :
    Embeds (NodeId.insertAt σ w.graph.nodes.size a) (w'.modify a f).node?
      (w.add node).2 (w'.modify a f) where
  arena := h.arena
  injective := NodeId.insertAt_injective h.injective ha
  node n := by
    have hsame {m : NodeId} (hm : (w.node? m).isSome) :
        σ m = NodeId.insertAt σ w.graph.nodes.size a m :=
      (NodeId.insertAt_of_lt (lt_size_iff.mpr hm)).symm
    rcases NodeId.eq_or_exists_shift w.graph.nodes.size n with rfl | ⟨n, rfl⟩
    · rw [node?_add, if_pos rfl, NodeId.insertAt_self, node?_modify_map, h.rest a ha]
      exact .some (hr.congr fun m hm => hsame (hrefs m hm))
    · rw [node?_add_shift, NodeId.insertAt_shift, node?_modify_of_ne (ha n)]
      obtain ⟨hn, hn'⟩ | ⟨found, found', hn, hn', hr⟩ := h.node_cases n
      · rw [hn, hn']
        exact .none
      · rw [hn, hn']
        exact .some (hr.congr fun m hm => hsame (hw n m ⟨found, hn, hm⟩))
  rest _ _ := rfl
  fresh k := by
    have hshift : (⟨(w.add node).2.graph.nodes.size + k⟩ : NodeId) =
        NodeId.shift w.graph.nodes.size ⟨w.graph.nodes.size + k⟩ := by
      rw [NodeId.shift_of_le (Nat.le_add_right _ _), size_add, Nat.add_right_comm]
    rw [hshift, NodeId.insertAt_shift, size_modify]
    exact h.fresh k

end Workspace

/-! ### The declarations on both sides -/

namespace Declarations

variable {σ σ' : NodeId → NodeId} {rest : NodeId → Option Node} {arena : TypeArena}
  {d d' : Declarations} {instructions : List Instruction} {i : Instruction} {p : Id}

/-- **The nodes that are mentioned are there.** -/
structure AllThere (d : Declarations) : Prop where
  closed : d.workspace.Closed
  types : d.TypesThere
  globals : ∀ g ∈ d.globals, (d.workspace.node? g.pointerType).isSome
  functions : ∀ f ∈ d.functions, (d.workspace.node? f.type).isSome
  openFunction : ∀ f ∈ d.openFunction, (d.workspace.node? f.type).isSome
  interface : ∀ f ∈ d.interface, (d.workspace.node? f.node).isSome

theorem allThere_ofInstructions (h : ofInstructions arena instructions = .ok d) : d.AllThere := by
  have hsound := sound_ofInstructions h
  have hnode {n : NodeId} {shape : Shape} (hs : d.workspace.shape? n = some shape) :
      (d.workspace.node? n).isSome := by
    obtain ⟨node, hn, -⟩ := Option.map_eq_some_iff.mp hs
    exact Option.isSome_of_eq_some hn
  have hfunction {n : NodeId} (hf : d.workspace.IsFunction n) : (d.workspace.node? n).isSome := by
    obtain ⟨_, _, _, _, hs⟩ := hf
    exact hnode hs
  exact
    { closed := hsound.closed
      types := hsound.types
      globals := fun g hg => by
        have hpointee := (walks_ofInstructions h).isSome_pointee? g hg
        obtain ⟨pointee, hpointee⟩ := Option.isSome_iff_exists.mp hpointee
        obtain ⟨_, _, hs⟩ := Workspace.pointee?_eq_some_iff.mp hpointee
        exact hnode hs
      functions := fun f hf => hfunction (hsound.functions f hf)
      openFunction := fun f hf => hfunction (hsound.openFunction f hf)
      interface := fun f hf => by
        obtain ⟨_, _, hs, -⟩ := hsound.interface f hf
        exact hnode hs }

theorem placed_id (d : Declarations) (w : Workspace) (types : List (Id × NodeId)) :
    d.placed (fun n => n) w types = { d with workspace := w, types } := by
  have hglobal : ShaderGlobal.relocate (fun n => n) = id := rfl
  have hfunction : ShaderFunction.relocate (fun n => n) = id := rfl
  have hinterface : Interface.relocate (fun n => n) = id := rfl
  simp only [placed, hglobal, hfunction, hinterface, List.map_id, Option.map_id_fun, id_eq]

/-- Only the numbers of nodes that are there count. -/
theorem AllThere.placed_congr (hd : d.AllThere)
    (hσ : ∀ n, (d.workspace.node? n).isSome → σ n = σ' n) (w : Workspace)
    (types : List (Id × NodeId)) : d.placed σ w types = d.placed σ' w types := by
  have hglobals : d.globals.map (ShaderGlobal.relocate σ) =
      d.globals.map (ShaderGlobal.relocate σ') :=
    List.map_congr_left fun g hg => by
      rw [ShaderGlobal.relocate, ShaderGlobal.relocate, hσ _ (hd.globals g hg)]
  have hfunction (f : ShaderFunction) (hf : (d.workspace.node? f.type).isSome) :
      f.relocate σ = f.relocate σ' := by
    rw [ShaderFunction.relocate, ShaderFunction.relocate, hσ _ hf]
  have hfunctions : d.functions.map (ShaderFunction.relocate σ) =
      d.functions.map (ShaderFunction.relocate σ') :=
    List.map_congr_left fun f hf => hfunction f (hd.functions f hf)
  have hopen : d.openFunction.map (ShaderFunction.relocate σ) =
      d.openFunction.map (ShaderFunction.relocate σ') :=
    Option.map_congr fun f hf => hfunction f (hd.openFunction f hf)
  have hinterface : d.interface.map (Interface.relocate σ) =
      d.interface.map (Interface.relocate σ') :=
    Option.map_congr fun f hf => by
      rw [Interface.relocate, Interface.relocate, hσ _ (hd.interface f hf)]
  rw [placed, placed, hglobals, hfunctions, hopen, hinterface]

/-- At the start the declarations are found in themselves. -/
theorem embeds_empty (arena : TypeArena) (hidden : Id → Prop) :
    Embeds (fun n => n) (fun _ => none) hidden none { workspace := { arena } }
      { workspace := { arena } } := by
  refine ⟨{ arena }, [], ⟨rfl, fun _ _ h => h, fun n => ?_, fun m hm => absurd rfl (hm m),
    fun _ => rfl⟩, ⟨fun _ _ => rfl, fun _ _ => ⟨rfl, rfl⟩⟩, rfl⟩
  have hnone : ({ arena } : Workspace).node? n = none := rfl
  rw [hnone]
  exact .none

/-- **An id that is not mentioned is no type.** -/
theorem lookup_eq_none (h : ofInstructions arena instructions = .ok d)
    (hp : ∀ i ∈ instructions, p ∉ i.operands) : d.types.lookup p = none := by
  have hconcurs : Concurs (Embeds (fun n => n) (fun _ => none) (· = p) none)
      (ofInstructions arena instructions) (ofInstructions arena instructions) :=
    (embeds_empty arena (· = p)).foldlM fun i hi word hword heq => hp i hi (heq ▸ hword)
  rw [h] at hconcurs
  cases hconcurs with
  | ok hembeds =>
    obtain ⟨_, _, -, htypes, -⟩ := hembeds
    exact (htypes.hidden p rfl).1

/-- **A type is declared of which nothing else was known.** -/
theorem embeds_forward (hd : d.AllThere) (hp : d.types.lookup p = none) (node : Node) :
    Embeds (NodeId.shift d.workspace.graph.nodes.size) (fun _ => some node) (· = p)
      (some ⟨d.workspace.graph.nodes.size⟩) d
      { d with
        workspace := (d.workspace.add node).2
        types := (p, (d.workspace.add node).1) :: d.types } := by
  have hshift (n : NodeId) (hn : (d.workspace.node? n).isSome) :
      n.shift d.workspace.graph.nodes.size = n :=
    NodeId.shift_of_lt (Workspace.lt_size_iff.mpr hn)
  refine ⟨_, _, Workspace.embeds_add hd.closed node, ⟨fun id hid => ?_, fun id hid => ?_⟩,
    (placed_id d _ _).symm.trans (hd.placed_congr (fun n hn => (hshift n hn).symm) _ _)⟩
  · rw [List.lookup_cons, beq_false_of_ne hid]
    cases hlookup : d.types.lookup id with
    | none => rfl
    | some n => exact congrArg some (hshift n (isSome_of_lookup hd.types hlookup)).symm
  · obtain rfl : id = p := hid
    refine ⟨hp, ?_⟩
    rw [List.lookup_cons, beq_self_eq_true]
    rfl

/-! ### Reading the two declarations of a pointer -/

section Visit

variable {c b : Word}

theorem visit_forwardPointer (hopen : d.openFunction = none)
    (hop : i.op? = some .typeForwardPointer) (hoperands : [p, c] <+: i.operands) :
    d.visit i = (Enumerant.decode c i.start : Except Diagnostic StorageClass) >>= fun storage =>
      d.defineFormed i p (.pointer none storage) := by
  obtain ⟨others, hoperands⟩ := hoperands
  have hp : i.operand 0 = .ok p := Instruction.operand_eq_ok (by rw [← hoperands]; rfl)
  have hc : i.operand 1 = .ok c := Instruction.operand_eq_ok (by rw [← hoperands]; rfl)
  rw [visit, hopen, hop]
  dsimp only
  change d.declareType .typeForwardPointer i = _
  rw [declareType, hp]
  change d.declareForwardPointer i p = _
  rw [declareForwardPointer, hc]
  rfl

theorem visit_pointer (hopen : d.openFunction = none) (hop : i.op? = some .typePointer)
    (hoperands : [p, c, b] <+: i.operands) :
    d.visit i = d.declarePointer i p ∧ i.operand 1 = .ok c ∧ i.operand 2 = .ok b := by
  obtain ⟨others, hoperands⟩ := hoperands
  have hp : i.operand 0 = .ok p := Instruction.operand_eq_ok (by rw [← hoperands]; rfl)
  refine ⟨?_, Instruction.operand_eq_ok (by rw [← hoperands]; rfl),
    Instruction.operand_eq_ok (by rw [← hoperands]; rfl)⟩
  rw [visit, hopen, hop]
  dsimp only
  change d.declareType .typePointer i = _
  rw [declareType, hp]
  rfl

/-- **A pointer is added on one side and bound on the other**, where it was declared ahead. -/
theorem Embeds.declarePointer {storage : StorageClass} {start : Nat} {a : NodeId}
    (h : Embeds σ (fun _ => some (.formed (.pointer none storage) start)) (· = p) (some a) d d')
    (hd : d.AllThere) (ha : ∀ n, σ n ≠ a) (hc : i.operand 1 = .ok c) (hb : i.operand 2 = .ok b)
    (hstorage : Enumerant.ofWord? c = some storage) (hbp : b ≠ p) :
    Concurs (fun d₁ d₁' => ∃ σ' rest', Embeds σ' rest' (fun _ => False) none d₁ d₁')
      (d.declarePointer i p) (d'.declarePointer i p) := by
  obtain ⟨w', types', hw, ht, rfl⟩ := h
  obtain ⟨hnone, hsome⟩ := ht.hidden p rfl
  refine .bind_same fun word hword => ?_
  obtain rfl := Except.ok.inj (hc.symm.trans hword)
  refine .bind_same fun storage' hdecode => ?_
  obtain rfl := Option.some.inj (hstorage.symm.trans (Enumerant.of_decode hdecode))
  refine .bind_same fun word hword => ?_
  obtain rfl := Except.ok.inj (hb.symm.trans hword)
  refine (concurs_typeNode ht hbp).results.bind ?_
  rintro pointee _ ⟨hpointee, rfl⟩
  have hthere : (d.workspace.node? pointee).isSome := isSome_of_typeNode hd.types hpointee
  have hlookup : (d.placed σ w' types').types.lookup p = some a := hsome
  have hnode : (d.placed σ w' types').workspace.node? a =
      some (.formed (.pointer none storage) start) := hw.rest a ha
  have hbind : (d.placed σ w' types').workspace.bind? a (σ pointee) =
      some (.ok (w'.modify a fun _ => .formed (.pointer (some (σ pointee)) storage) start)) := by
    rw [Workspace.bind?, hnode]
    rfl
  rw [hnone, hlookup]
  dsimp only
  rw [hnode, hbind]
  dsimp only [Option.bind_some, Node.former?, Node.formed]
  rw [if_neg (not_not_intro rfl), defineFormed, define, hnone]
  have hrefs : ∀ n ∈ (Node.formed (.pointer (some pointee) storage) i.start).refs,
      (d.workspace.node? n).isSome := fun n hn => List.mem_singleton.mp hn ▸ hthere
  have hadded := hw.add_modify (f := fun _ => .formed (.pointer (some (σ pointee)) storage) start)
    hd.closed ha hrefs ⟨rfl, rfl⟩
  have hsame (n : NodeId) (hn : (d.workspace.node? n).isSome) :
      σ n = NodeId.insertAt σ d.workspace.graph.nodes.size a n :=
    (NodeId.insertAt_of_lt (Workspace.lt_size_iff.mpr hn)).symm
  refine .ok ⟨_, _, _, types', hadded, ⟨fun id _ => ?_, fun _ => False.elim⟩,
    hd.placed_congr hsame _ _⟩
  by_cases hid : id = p
  · subst hid
    rw [hsome, List.lookup_cons, beq_self_eq_true]
    exact congrArg some NodeId.insertAt_self.symm
  · rw [ht.lookup id hid, List.lookup_cons, beq_false_of_ne hid]
    cases hfound : d.types.lookup id with
    | none => rfl
    | some n => exact congrArg some (hsame n (isSome_of_lookup hd.types hfound))

end Visit

end Declarations

/-! ### Leaving a declaration out -/

/-- Whether a function is being read after the instruction, if one is before it or not. -/
def Instruction.leavesInside (inside : Bool) (i : Instruction) : Bool :=
  if inside then i.op? != some .functionEnd else i.op? == some .function

/-- The instructions end inside of a function. -/
def endsInside (instructions : List Instruction) : Bool :=
  instructions.foldl Instruction.leavesInside false

/-- **The pointer `p` is declared ahead, and then in full, and nothing mentions it up to
there.** Both declarations stand outside of functions, they give the same storage, and the
pointer does not point to itself. -/
structure SpareForward (before : List Instruction) (forward : Instruction)
    (between : List Instruction) (pointer : Instruction) (p storage pointee : Word) : Prop where
  forwardOp : forward.op? = some .typeForwardPointer
  forwardOperands : [p, storage] <+: forward.operands
  pointerOp : pointer.op? = some .typePointer
  pointerOperands : [p, storage, pointee] <+: pointer.operands
  ne : pointee ≠ p
  outside : endsInside before = false
  stillOutside : endsInside (before ++ forward :: between) = false
  unmentioned : ∀ i ∈ before ++ between, p ∉ i.operands

namespace Declarations

variable {arena : TypeArena} {d d' : Declarations} {instructions before between : List Instruction}
  {forward pointer : Instruction} {p c b : Word}

/-- A walk is inside of a function where the stream is. -/
theorem Walks.isSome_openFunction (h : Walks arena d instructions d') :
    d'.openFunction.isSome =
      instructions.foldl Instruction.leavesInside d.openFunction.isSome := by
  induction h with
  | nil => rfl
  | @cons d d₁ d' i is hd hvisit hvisits hreads hrest ih =>
    rw [ih, List.foldl_cons]
    congr 1
    cases hopen : d.openFunction with
    | none => exact hreads.isSome_of_none hopen
    | some f => exact hreads.isSome_of_some hopen

theorem openFunction_eq_none (h : ofInstructions arena instructions = .ok d)
    (hout : endsInside instructions = false) : d.openFunction = none := by
  rw [← Option.isNone_iff_eq_none, ← Option.not_isSome, Bool.not_eq_true',
    (walks_ofInstructions h).isSome_openFunction]
  exact hout

/-- **What is declared is found in what is declared with the declaration ahead.** -/
theorem concurs_ofInstructions (h : SpareForward before forward between pointer p c b)
    (arena : TypeArena) (after : List Instruction) :
    Concurs (fun d d' => ∃ σ rest, Embeds σ rest (fun _ => False) none d d')
      (ofInstructions arena (before ++ (between ++ pointer :: after)))
      (ofInstructions arena (before ++ forward :: (between ++ pointer :: after))) := by
  have houtside : endsInside (before ++ between) = false := by
    have hstill := h.stillOutside
    rw [endsInside, List.foldl_append, ← endsInside, h.outside] at hstill ⊢
    rwa [List.foldl_cons, Instruction.leavesInside, h.forwardOp] at hstill
  have hunmentioned := List.forall_mem_append.mp h.unmentioned
  rw [ofInstructions, ofInstructions, List.foldlM_append, List.foldlM_append]
  refine .bind_same fun d hd => ?_
  have hbetween {d₁ : Declarations} (h₁ : between.foldlM visit d = .ok d₁) :
      ofInstructions arena (before ++ between) = .ok d₁ := by
    rw [ofInstructions, List.foldlM_append, hd]
    exact h₁
  rw [List.foldlM_append, List.foldlM_cons,
    visit_forwardPointer (openFunction_eq_none hd h.outside) h.forwardOp h.forwardOperands]
  cases hstorage : (Enumerant.ofWord? c : Option StorageClass) with
  | none =>
    -- the storage class is reported at one declaration or the other
    rw [Enumerant.decode, hstorage]
    cases h₁ : between.foldlM visit d with
    | error e => exact .error _ _
    | ok d₁ =>
      obtain ⟨hvisit, hc, -⟩ := visit_pointer (openFunction_eq_none (hbetween h₁) houtside)
        h.pointerOp h.pointerOperands
      change Concurs _ ((pointer :: after).foldlM visit d₁) _
      rw [List.foldlM_cons, hvisit, declarePointer, hc]
      change Concurs _ (((Enumerant.decode c _ : Except Diagnostic StorageClass) >>= _) >>= _) _
      rw [Enumerant.decode, hstorage]
      exact .error _ _
  | some storage =>
    have hnone := lookup_eq_none hd hunmentioned.1
    rw [Enumerant.decode_eq_ok hstorage]
    change Concurs _ _ (d.defineFormed forward p (.pointer none storage) >>= _)
    rw [defineFormed, define, hnone]
    change Concurs _ _ ((between ++ pointer :: after).foldlM visit _)
    rw [List.foldlM_append]
    have hahead := embeds_forward (allThere_ofInstructions hd) hnone
      (.formed (.pointer none storage) forward.start)
    refine (hahead.foldlM fun i hi word hword heq =>
      hunmentioned.2 i hi (heq ▸ hword)).results.bind ?_
    rintro d₁ d₁' ⟨h₁, hembeds⟩
    have hopen := openFunction_eq_none (hbetween h₁) houtside
    have hopen' : d₁'.openFunction = none := by
      obtain ⟨_, _, -, -, rfl⟩ := hembeds
      exact congrArg (Option.map (ShaderFunction.relocate _)) hopen
    obtain ⟨hvisit, hc, hb⟩ := visit_pointer hopen h.pointerOp h.pointerOperands
    obtain ⟨hvisit', -⟩ := visit_pointer hopen' h.pointerOp h.pointerOperands
    rw [List.foldlM_cons, List.foldlM_cons, hvisit, hvisit']
    refine (hembeds.declarePointer (allThere_ofInstructions (hbetween h₁))
      (fun n heq => NodeId.index_shift_ne _ n (congrArg NodeId.index heq)) hc hb hstorage
      h.ne).bind ?_
    rintro d₂ d₂' ⟨σ, rest, hembeds₂⟩
    exact (hembeds₂.foldlM fun _ _ _ _ => not_false).imp fun _ _ h => ⟨σ, rest, h⟩

end Declarations

/-- **A forward declaration that was not needed changes nothing.** The shader without it and the
one with it are both refused, or both lowered, and then to the same but for the numbers of
nodes. -/
theorem lower_without_forward {before between : List Instruction} {forward pointer : Instruction}
    {p storage pointee : Word}
    (h : SpareForward before forward between pointer p storage pointee) (arena : TypeArena)
    (header : Header) (after : List Instruction) (name : String) :
    Concurs (fun m m' => ∃ σ, m.SameUpTo σ m')
      (lower arena ⟨header, before ++ (between ++ pointer :: after)⟩ name)
      (lower arena ⟨header, before ++ forward :: (between ++ pointer :: after)⟩ name) := by
  refine (Declarations.concurs_ofInstructions h arena after).bind ?_
  rintro d d' ⟨σ, rest, hembeds⟩
  exact (hembeds.emit name).imp fun _ _ hm => ⟨σ, hm⟩

/-- A shader whose pointer to a struct is declared ahead of the struct, which does not mention
it. -/
theorem lower_without_forward_struct :
    let before : List Instruction := [⟨22, [2, 32], 5, 8⟩]
    let forward : Instruction := ⟨39, [3, 6], 8, 11⟩
    let between : List Instruction := [⟨30, [4, 2], 11, 14⟩]
    let pointer : Instruction := ⟨32, [3, 6, 4], 14, 18⟩
    let after : List Instruction :=
      [⟨59, [3, 5, 6], 18, 22⟩, ⟨32, [7, 3, 4], 22, 26⟩, ⟨59, [7, 8, 3], 26, 30⟩]
    SpareForward before forward between pointer 3 6 4 ∧
      ∃ m m',
        lower {} ⟨⟨1, 0, 0, 10⟩, before ++ (between ++ pointer :: after)⟩ "unit" = .ok m ∧
        lower {} ⟨⟨1, 0, 0, 10⟩, before ++ forward :: (between ++ pointer :: after)⟩ "unit" =
          .ok m' ∧
        m.unit.globals.length = 1 ∧ m.interfaceStruct = some ⟨4⟩ ∧ ∃ σ, m.SameUpTo σ m' := by
  intro before forward between pointer after
  have hspare : SpareForward before forward between pointer 3 6 4 :=
    { forwardOp := by decide
      forwardOperands := by decide
      pointerOp := by decide
      pointerOperands := by decide
      ne := by decide
      outside := by decide
      stillOutside := by decide
      unmentioned := by decide }
  have hrun :
      (lower {} ⟨⟨1, 0, 0, 10⟩, before ++ (between ++ pointer :: after)⟩ "unit").toOption.map
        (fun m => (m.unit.globals.length, m.interfaceStruct)) = some (1, some ⟨4⟩) := by
    decide +kernel
  obtain ⟨m, hm, hfacts⟩ := of_toOption_map_eq_some hrun
  obtain ⟨hglobals, hinterface⟩ := Prod.mk.inj hfacts
  obtain ⟨m', hm', hsame⟩ :=
    (lower_without_forward hspare {} ⟨1, 0, 0, 10⟩ after "unit").exists_of_ok hm
  exact ⟨hspare, m, m', hm, hm', hglobals, hinterface, hsame⟩

end ShaderLowering
