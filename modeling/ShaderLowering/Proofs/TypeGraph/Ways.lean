import Mathlib.Logic.Relation
import ShaderLowering.Proofs.TypeGraph.Growth

/-!
# Ways through a graph

Nodes refer to one another in two ways. A node that is no pointer *holds* what it refers
to: a value of the one contains values of the other, and whoever needs the one complete
needs the other complete. A node that is no struct is *formed from* what it refers to:
its type cannot be made before the type of the other is, whether or not anything has to
be complete.

A graph is *legal* at a node if, among the nodes that can be reached from there, every
pointer has a pointee and no node holds itself or is formed from itself, however many
steps that takes: every cycle goes through a pointer and through a struct.
-/

namespace ShaderLowering

namespace Workspace

variable {w w' : Workspace} {n m l : NodeId}

/-- One node can be reached from another. -/
def Reaches (w : Workspace) : NodeId → NodeId → Prop :=
  Relation.ReflTransGen w.Refers

/-- One node refers to another by value. -/
def Holds (w : Workspace) (n m : NodeId) : Prop :=
  w.Refers n m ∧ ¬w.IsPointer n

/-- The type of one node cannot be made without that of the other. -/
def FormedFrom (w : Workspace) (n m : NodeId) : Prop :=
  w.Refers n m ∧ ¬w.IsStruct n

/-- Nodes each of which refers to the next, and the last to the first. -/
def IsCycle (w : Workspace) (cycle : List NodeId) : Prop :=
  ∃ n rest, cycle = n :: rest ∧ (n :: (rest ++ [n])).IsChain w.Refers

/-- **The types that a shader may declare**: among the nodes reached from the given one,
every pointer is bound, and every cycle contains a pointer and a struct. -/
structure Legal (w : Workspace) (n : NodeId) : Prop where
  bound : ∀ m storage made, w.Reaches n m →
    w.shape? m ≠ some (.formed (.pointer none storage) made)
  pointer : ∀ cycle, w.IsCycle cycle → (∀ m ∈ cycle, w.Reaches n m) → ∃ m ∈ cycle, w.IsPointer m
  struct : ∀ cycle, w.IsCycle cycle → (∀ m ∈ cycle, w.Reaches n m) → ∃ m ∈ cycle, w.IsStruct m

/-! ### Skeletons determine ways -/

theorem refers_of_skeleton_eq (h : w'.skeleton = w.skeleton) (hr : w'.Refers n m) :
    w.Refers n m := by
  obtain ⟨node', hn', hm⟩ := hr
  obtain ⟨node, hn, hskeleton⟩ := exists_node_of_skeleton_eq h.symm hn'
  exact ⟨node, hn, by rwa [← node.refs_skeleton, hskeleton, node'.refs_skeleton]⟩

theorem refers_congr (h : w'.skeleton = w.skeleton) : w'.Refers = w.Refers := by
  funext n m
  exact propext ⟨refers_of_skeleton_eq h, refers_of_skeleton_eq h.symm⟩

theorem isPointer_congr (h : w'.skeleton = w.skeleton) : w'.IsPointer = w.IsPointer := by
  funext n
  refine propext ⟨?_, ?_⟩
  · rintro ⟨pointee, storage, made, hs⟩
    obtain ⟨made', hs'⟩ := formed_of_skeleton_eq h.symm hs
    exact ⟨pointee, storage, made', hs'⟩
  · rintro ⟨pointee, storage, made, hs⟩
    obtain ⟨made', hs'⟩ := formed_of_skeleton_eq h hs
    exact ⟨pointee, storage, made', hs'⟩

theorem isStruct_congr (h : w'.skeleton = w.skeleton) : w'.IsStruct = w.IsStruct := by
  funext n
  refine propext ⟨?_, ?_⟩
  · rintro ⟨t, layout, hs⟩
    obtain ⟨layout', hs', -⟩ := struct_of_skeleton_eq h.symm hs
    exact ⟨t, layout', hs'⟩
  · rintro ⟨t, layout, hs⟩
    obtain ⟨layout', hs', -⟩ := struct_of_skeleton_eq h hs
    exact ⟨t, layout', hs'⟩

theorem holds_congr (h : w'.skeleton = w.skeleton) : w'.Holds = w.Holds := by
  funext n m
  rw [Holds, Holds, refers_congr h, isPointer_congr h]

theorem formedFrom_congr (h : w'.skeleton = w.skeleton) : w'.FormedFrom = w.FormedFrom := by
  funext n m
  rw [FormedFrom, FormedFrom, refers_congr h, isStruct_congr h]

/-- An array holds its element, and a struct its members. -/
theorem holds_of_shape? {shape : Shape} (hs : w.shape? n = some shape)
    (hpointer : ∀ pointee storage made, shape ≠ .formed (.pointer pointee storage) made)
    (hm : m ∈ ({ shape } : Node).refs) : w.Holds n m := by
  refine ⟨(refers_iff_of_shape? hs).mpr hm, ?_⟩
  rintro ⟨pointee, storage, made, hs'⟩
  exact hpointer pointee storage made (Option.some.inj (hs.symm.trans hs'))

/-- What a node holds it goes on holding. -/
theorem GraphGrows.holds (h : w.GraphGrows w') (hn : w.Holds n m) : w'.Holds n m :=
  ⟨h.refers hn.1, h.not_isPointer hn.1 hn.2⟩

/-! ### Cycles -/

variable {P : NodeId → Prop}

/-- A way along nodes of one kind, node by node. -/
theorem exists_isChain (h : Relation.TransGen (fun a b => w.Refers a b ∧ P a) n m) :
    ∃ rest, (n :: (rest ++ [m])).IsChain w.Refers ∧
      ∀ l ∈ n :: rest, P l ∧ w.Reaches n l := by
  induction h using Relation.TransGen.head_induction_on with
  | single hn =>
    refine ⟨[], .cons_cons hn.1 (.singleton _), fun l hl => ?_⟩
    rw [List.mem_singleton.mp hl]
    exact ⟨hn.2, .refl⟩
  | head hn _ ih =>
    obtain ⟨rest, hchain, hrest⟩ := ih
    refine ⟨_ :: rest, .cons_cons hn.1 hchain, fun l hl => ?_⟩
    rcases List.mem_cons.mp hl with rfl | hl
    · exact ⟨hn.2, .refl⟩
    · exact ⟨(hrest l hl).1, .head hn.1 (hrest l hl).2⟩

/-- A way from a node back to it is a cycle. -/
theorem exists_isCycle (h : Relation.TransGen (fun a b => w.Refers a b ∧ P a) n n) :
    ∃ cycle, w.IsCycle cycle ∧ ∀ m ∈ cycle, P m ∧ w.Reaches n m := by
  obtain ⟨rest, hchain, hrest⟩ := exists_isChain h
  exact ⟨n :: rest, ⟨n, rest, rfl, hchain⟩, hrest⟩

/-- In a legal graph no node holds itself. -/
theorem Legal.not_holds (h : w.Legal n) (hm : w.Reaches n m) :
    ¬Relation.TransGen w.Holds m m := by
  intro hcon
  obtain ⟨cycle, hcycle, hnot⟩ := exists_isCycle hcon
  obtain ⟨l, hl, hpointer⟩ := h.pointer cycle hcycle fun l hl => hm.trans (hnot l hl).2
  exact (hnot l hl).1 hpointer

/-- In a legal graph no node is formed from itself. -/
theorem Legal.not_formedFrom (h : w.Legal n) (hm : w.Reaches n m) :
    ¬Relation.TransGen w.FormedFrom m m := by
  intro hcon
  obtain ⟨cycle, hcycle, hnot⟩ := exists_isCycle hcon
  obtain ⟨l, hl, hstruct⟩ := h.struct cycle hcycle fun l hl => hm.trans (hnot l hl).2
  exact (hnot l hl).1 hstruct

/-! ### Ranks -/

/-- Along a way that avoids some nodes, ranks fall if all other nodes refer to nodes of
lower rank only. -/
theorem rank_lt_of_isChain {rank : NodeId → Nat}
    (h : ∀ a b, w.Refers a b → ¬P a → rank b < rank a) {rest : List NodeId}
    (hchain : (n :: (rest ++ [m])).IsChain w.Refers) (hrest : ∀ l ∈ n :: rest, ¬P l) :
    rank m < rank n := by
  induction rest generalizing n with
  | nil => exact h n m (List.isChain_cons_cons.mp hchain).1 (hrest n List.mem_cons_self)
  | cons l rest ih =>
    obtain ⟨hrefers, htail⟩ := List.isChain_cons_cons.mp hchain
    have hlt := ih htail fun k hk => hrest k (List.mem_cons_of_mem _ hk)
    exact Nat.lt_trans hlt (h n l hrefers (hrest n List.mem_cons_self))

/-- **Ranks rule cycles out.** If all nodes but those of one kind refer to nodes of lower
rank only, every cycle contains a node of that kind. -/
theorem IsCycle.exists_mem {cycle : List NodeId} (hcycle : w.IsCycle cycle)
    (rank : NodeId → Nat) (h : ∀ a b, w.Refers a b → ¬P a → rank b < rank a) :
    ∃ m ∈ cycle, P m := by
  obtain ⟨n, rest, rfl, hchain⟩ := hcycle
  by_contra hcon
  exact Nat.lt_irrefl _ (rank_lt_of_isChain h hchain fun l hl hP => hcon ⟨l, hl, hP⟩)

/-- All nodes but those of one kind refer to nodes of lower rank only. -/
def ranked (w : Workspace) (kind : Node → Bool) (rank : NodeId → Nat) : Bool :=
  (List.range w.graph.nodes.size).all fun i =>
    (w.node? ⟨i⟩).all fun node => kind node || node.refs.all fun m => rank m < rank ⟨i⟩

/-- Every pointer has a pointee. -/
def allBound (w : Workspace) : Bool :=
  (List.range w.graph.nodes.size).all fun i =>
    (w.node? ⟨i⟩).all fun node => !node.isPointer || node.pointee?.isSome

theorem mem_range_of_node? {node : Node} (h : w.node? n = some node) :
    n.index ∈ List.range w.graph.nodes.size :=
  List.mem_range.mpr (Array.getElem?_eq_some_iff.mp h).1

theorem rank_lt_of_ranked {kind : Node → Bool} {rank : NodeId → Nat}
    (h : w.ranked kind rank = true) {node : Node} (hn : w.node? n = some node)
    (hkind : kind node = false) (hm : m ∈ node.refs) : rank m < rank n := by
  have hnode := List.all_eq_true.mp h n.index (mem_range_of_node? hn)
  rw [show (⟨n.index⟩ : NodeId) = n from rfl, hn, Option.all_some, hkind, Bool.false_or] at hnode
  exact of_decide_eq_true (List.all_eq_true.mp hnode m hm)

/-- **A check for legality.** A graph is legal at each of its nodes if every pointer is
bound and there are two rankings of the nodes, one that falls along all references but
those of pointers, and one that falls along all but those of structs. -/
theorem legal_of_ranked (rank rank' : NodeId → Nat) (hb : w.allBound = true)
    (hp : w.ranked Node.isPointer rank = true) (hs : w.ranked Node.isStruct rank' = true)
    (n : NodeId) : w.Legal n where
  bound m storage made _ hm := by
    obtain ⟨node, hn, hshape⟩ := Option.map_eq_some_iff.mp hm
    have hnode := List.all_eq_true.mp hb m.index (mem_range_of_node? hn)
    rw [show (⟨m.index⟩ : NodeId) = m from rfl, hn] at hnode
    simp [Node.isPointer, Node.pointee?, Node.former?, hshape] at hnode
  pointer cycle hcycle _ := by
    refine hcycle.exists_mem rank fun a b hab ha => ?_
    obtain ⟨node, hn, hm⟩ := hab
    refine rank_lt_of_ranked hp hn (Bool.eq_false_iff.mpr fun hkind => ha ?_) hm
    obtain ⟨start, guard, shape⟩ := node
    rcases shape with type | ⟨_ | _ | _, made⟩ | ⟨type, layout⟩
    · exact absurd hkind Bool.false_ne_true
    · exact ⟨_, _, _, shape?_eq hn⟩
    · exact absurd hkind Bool.false_ne_true
    · exact absurd hkind Bool.false_ne_true
    · exact absurd hkind Bool.false_ne_true
  struct cycle hcycle _ := by
    refine hcycle.exists_mem rank' fun a b hab ha => ?_
    obtain ⟨node, hn, hm⟩ := hab
    refine rank_lt_of_ranked hs hn (Bool.eq_false_iff.mpr fun hkind => ha ?_) hm
    obtain ⟨start, guard, shape⟩ := node
    rcases shape with type | ⟨former, made⟩ | ⟨type, layout⟩
    · exact absurd hkind Bool.false_ne_true
    · exact absurd hkind Bool.false_ne_true
    · exact ⟨_, _, shape?_eq hn⟩

end Workspace

end ShaderLowering
