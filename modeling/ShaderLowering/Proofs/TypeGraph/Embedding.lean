import ShaderLowering.Proofs.TypeGraph.Detached
import ShaderLowering.Proofs.TypeGraph.Nesting

/-!
# The numbers of nodes do not matter

The nodes of one workspace may be found in another under other numbers, and declared at other
places in the stream; beside them the other workspace may hold nodes that none of these refers
to (`ShaderLowering.Workspace.Embeds`). Whatever is done to the nodes of the one and to those
that stand for them in the other has the same result, the same handles included: either both
report, though perhaps not at the same place, or both answer alike, and the one is found in the
other as before. What lies beside is left alone.

Production is compared step by step (`ShaderLowering.Production.Follows`). The two workspaces
need not be of one size, so that it is not clear that the same depth is enough for both; that is
where more depth changing nothing comes in (`ShaderLowering.Workspace.Embeds.produce`).
-/

namespace ShaderLowering

/-! ### Results that concur -/

/-- Two results are both reports, or go with one another. -/
inductive Concurs {ε α β : Type} (R : α → β → Prop) : Except ε α → Except ε β → Prop
  /-- Something is reported of both. -/
  | error (e e' : ε) : Concurs R (.error e) (.error e')
  /-- Both end well. -/
  | ok {a : α} {b : β} (h : R a b) : Concurs R (.ok a) (.ok b)

namespace Concurs

variable {ε α β γ δ σ τ : Type} {R : α → β → Prop} {S : γ → δ → Prop}

theorem imp {R' : α → β → Prop} {result : Except ε α} {result' : Except ε β}
    (h : Concurs R result result') (himp : ∀ a b, R a b → R' a b) :
    Concurs R' result result' := by
  cases h with
  | error e e' => exact .error e e'
  | ok hab => exact .ok (himp _ _ hab)

/-- Work that concurs goes on to work that concurs. -/
theorem bind {first : Except ε α} {first' : Except ε β} {next : α → Except ε γ}
    {next' : β → Except ε δ} (h : Concurs R first first')
    (hnext : ∀ a b, R a b → Concurs S (next a) (next' b)) :
    Concurs S (first >>= next) (first' >>= next') := by
  cases h with
  | error e e' => exact .error e e'
  | ok hab => exact hnext _ _ hab

/-- The same work goes on to work that concurs. -/
theorem bind_same {first : Except ε α} {next : α → Except ε γ} {next' : α → Except ε δ}
    (hnext : ∀ a, first = .ok a → Concurs S (next a) (next' a)) :
    Concurs S (first >>= next) (first >>= next') := by
  cases first with
  | error e => exact .error e e
  | ok a => exact hnext a rfl

/-- What goes with one another are the results. -/
theorem results {result : Except ε α} {result' : Except ε β} (h : Concurs R result result') :
    Concurs (fun a b => result = .ok a ∧ R a b) result result' := by
  cases h with
  | error e e' => exact .error e e'
  | ok hab => exact .ok ⟨rfl, hab⟩

/-- Folds concur if their steps do. -/
theorem foldlM {R : σ → τ → Prop} {step : σ → α → Except ε σ} {step' : τ → β → Except ε τ}
    {T : α → β → Prop} {as : List α} {bs : List β}
    (hstep : ∀ s t a b, T a b → R s t → Concurs R (step s a) (step' t b))
    (has : List.Forall₂ T as bs) {s : σ} {t : τ} (h : R s t) :
    Concurs R (as.foldlM step s) (bs.foldlM step' t) := by
  induction has generalizing s t with
  | nil => exact .ok h
  | cons hab _ ih =>
    rw [List.foldlM_cons, List.foldlM_cons]
    exact (hstep s t _ _ hab h).bind fun _ _ => ih

theorem exists_of_ok {result : Except ε α} {result' : Except ε β} (h : Concurs R result result')
    {a : α} (ha : result = .ok a) : ∃ b, result' = .ok b ∧ R a b := by
  subst ha
  cases h with
  | ok hab => exact ⟨_, rfl, hab⟩

end Concurs

/-! ### Nodes under other numbers -/

/-- The former with its nodes under other numbers. -/
def Former.relocate (σ : NodeId → NodeId) : Former → Former
  | .pointer pointee storage => .pointer (pointee.map σ) storage
  | .function result args variadic => .function (σ result) (args.map σ) variadic
  | .array element count => .array (σ element) count

/-- The member with its type under another number. -/
def Member.relocate (σ : NodeId → NodeId) (m : Member) : Member :=
  { m with type := σ m.type }

/-- The layout with the types of its members under other numbers. -/
def Layout.relocate (σ : NodeId → NodeId) (l : Layout) : Layout :=
  { l with members := l.members.map (Member.relocate σ) }

/-- What a node declares, with the nodes it refers to under other numbers. -/
def Shape.relocate (σ : NodeId → NodeId) : Shape → Shape
  | .simple type => .simple type
  | .formed former made => .formed (former.relocate σ) made
  | .struct type layout => .struct type (layout.relocate σ)

/-- **One node stands for another**: it declares the same of nodes under other numbers, and is
held as often. Where it was declared is of no account. -/
structure Node.Resembles (σ : NodeId → NodeId) (node node' : Node) : Prop where
  guard : node'.guard = node.guard
  shape : node'.shape = node.shape.relocate σ

section Relocate

variable {σ σ' : NodeId → NodeId}

/-- Numbers count only where they are referred to. -/
theorem Shape.relocate_congr {shape : Shape}
    (h : ∀ n ∈ ({ shape } : Node).refs, σ n = σ' n) : shape.relocate σ = shape.relocate σ' := by
  cases shape with
  | simple type => rfl
  | formed former made =>
    cases former with
    | pointer pointee storage =>
      cases pointee with
      | none => rfl
      | some pointee =>
        simp only [relocate, Former.relocate, Option.map_some,
          h pointee (List.mem_singleton_self _)]
    | function result args variadic =>
      have hargs : args.map σ = args.map σ' :=
        List.map_congr_left fun arg harg => h arg (List.mem_cons_of_mem _ harg)
      simp only [relocate, Former.relocate, h result List.mem_cons_self, hargs]
    | array element count =>
      simp only [relocate, Former.relocate, h element (List.mem_singleton_self _)]
  | struct type layout =>
    have hmembers : layout.members.map (Member.relocate σ) =
        layout.members.map (Member.relocate σ') :=
      List.map_congr_left fun m hm => by
        rw [Member.relocate, Member.relocate, h m.type (List.mem_map_of_mem hm)]
    simp only [relocate, Layout.relocate, hmembers]

@[simp] theorem Shape.relocate_id (shape : Shape) : shape.relocate (fun n => n) = shape := by
  have hmember : Member.relocate (fun n => n) = id := rfl
  rcases shape with type | ⟨former, made⟩ | ⟨type, layout⟩
  · rfl
  · cases former <;> simp [relocate, Former.relocate]
  · simp [relocate, Layout.relocate, hmember]

theorem Layout.relocate_push (l : Layout) (m : Member) :
    (l.push m).relocate σ = (l.relocate σ).push (m.relocate σ) := by
  simp [relocate, push, Member.relocate]

theorem Layout.relocate_ofMembers (members : List Member) :
    (ofMembers members).relocate σ = ofMembers (members.map (Member.relocate σ)) := by
  have hfoldl (l : Layout) : (members.foldl push l).relocate σ =
      (members.map (Member.relocate σ)).foldl push (l.relocate σ) := by
    induction members generalizing l with
    | nil => rfl
    | cons m members ih => rw [List.foldl_cons, ih, relocate_push, List.map_cons, List.foldl_cons]
  exact hfoldl {}

theorem Layout.relocate_laidOut (l : Layout) :
    l.laidOut.relocate σ = (l.relocate σ).laidOut := by
  have hmembers : (l.members.mapIdx fun index m => { m with bodyIndex := some index }).map
        (Member.relocate σ) =
      (l.members.map (Member.relocate σ)).mapIdx
        fun index m => { m with bodyIndex := some index } := by
    apply List.ext_getElem?
    intro k
    simp [Function.comp_def, Member.relocate]
  simp only [relocate, laidOut, hmembers]

end Relocate

namespace Node.Resembles

variable {σ : NodeId → NodeId} {node node' : Node}

theorem exists_eq (h : node.Resembles σ node') :
    ∃ start, node' = { node with start, shape := node.shape.relocate σ } := by
  obtain ⟨start', guard', shape'⟩ := node'
  obtain ⟨hguard, hshape⟩ := h
  obtain rfl : guard' = node.guard := hguard
  obtain rfl : shape' = node.shape.relocate σ := hshape
  exact ⟨start', rfl⟩

theorem former? (h : node.Resembles σ node') :
    node'.former? = node.former?.map (Former.relocate σ) := by
  rw [Node.former?, Node.former?, h.shape]
  cases node.shape <;> rfl

theorem layout? (h : node.Resembles σ node') :
    node'.layout? = node.layout?.map (Layout.relocate σ) := by
  rw [Node.layout?, Node.layout?, h.shape]
  cases node.shape <;> rfl

theorem pointee? (h : node.Resembles σ node') : node'.pointee? = node.pointee?.map σ := by
  rw [Node.pointee?, Node.pointee?, h.former?]
  rcases node.former? with _ | ⟨_ | _ | _⟩ <;> rfl

theorem isFunction (h : node.Resembles σ node') : node'.isFunction = node.isFunction := by
  rw [Node.isFunction, Node.isFunction, h.former?]
  rcases node.former? with _ | ⟨_ | _ | _⟩ <;> rfl

theorem args (h : node.Resembles σ node') : node'.args = node.args.map σ := by
  rw [Node.args, Node.args, h.former?]
  rcases node.former? with _ | ⟨_ | _ | _⟩ <;> rfl

theorem withGuard (h : node.Resembles σ node') (guard : Guard) :
    ({ node with guard } : Node).Resembles σ { node' with guard } :=
  ⟨rfl, h.shape⟩

theorem released (h : node.Resembles σ node') : node.released.Resembles σ node'.released :=
  ⟨by rw [Node.released, Node.released, h.guard], h.shape⟩

theorem withMade (h : node.Resembles σ node') (t : Ty) :
    (node.withMade t).Resembles σ (node'.withMade t) := by
  obtain ⟨start', rfl⟩ := h.exists_eq
  obtain ⟨start, guard, shape⟩ := node
  cases shape <;> exact ⟨rfl, rfl⟩

theorem mapLayout (h : node.Resembles σ node') {f : Layout → Layout}
    (hf : ∀ l, (f l).relocate σ = f (l.relocate σ)) :
    (node.mapLayout f).Resembles σ (node'.mapLayout f) := by
  obtain ⟨start', rfl⟩ := h.exists_eq
  obtain ⟨start, guard, shape⟩ := node
  cases shape with
  | struct type layout => exact ⟨rfl, by simp only [Node.mapLayout, Shape.relocate, hf]⟩
  | _ => exact ⟨rfl, rfl⟩

theorem detached (h : node.Resembles σ node') : node.detached.Resembles σ node'.detached := by
  obtain ⟨start', rfl⟩ := h.exists_eq
  obtain ⟨start, guard, shape⟩ := node
  rcases shape with _ | ⟨_ | _ | _, made⟩ | _ <;> exact ⟨rfl, rfl⟩

theorem bind? (h : node.Resembles σ node') (pointee : NodeId) :
    Option.Rel (Concurs (Node.Resembles σ)) (node.bind? pointee) (node'.bind? (σ pointee)) := by
  obtain ⟨start', rfl⟩ := h.exists_eq
  obtain ⟨start, guard, shape⟩ := node
  rcases shape with _ | ⟨⟨_ | _, storage⟩ | _ | _, made⟩ | _
  · exact .none
  · exact .some (.ok ⟨rfl, rfl⟩)
  · exact .some (.error _ _)
  · exact .none
  · exact .none
  · exact .none

theorem addMember? (h : node.Resembles σ node') (m : Member) :
    Option.Rel (Concurs (Node.Resembles σ)) (node.addMember? m)
      (node'.addMember? (m.relocate σ)) := by
  obtain ⟨start', rfl⟩ := h.exists_eq
  obtain ⟨start, guard, shape⟩ := node
  rcases shape with _ | _ | ⟨type, layout⟩
  · exact .none
  · exact .none
  · simp only [Node.addMember?, Shape.relocate]
    cases hc : layout.complete with
    | true =>
      have hc' : (layout.relocate σ).complete = true := hc
      simp only [hc', if_true]
      exact .some (.error _ _)
    | false =>
      have hc' : (layout.relocate σ).complete = false := hc
      simp only [hc', Bool.false_eq_true, if_false]
      exact .some (.ok ⟨rfl, by simp only [Shape.relocate, Layout.relocate_push]⟩)

end Node.Resembles

/-! ### Workspaces inside workspaces -/

/-- **The nodes of a workspace are found in another** under the numbers that `σ` gives them, and
the types are the same. Nodes that are added to both go on to stand for one another. What the
other workspace holds besides is given by `rest`. -/
structure Workspace.Embeds (σ : NodeId → NodeId) (rest : NodeId → Option Node)
    (w w' : Workspace) : Prop where
  arena : w'.arena = w.arena
  injective : Function.Injective σ
  node : ∀ n, Option.Rel (Node.Resembles σ) (w.node? n) (w'.node? (σ n))
  rest : ∀ m, (∀ n, σ n ≠ m) → w'.node? m = rest m
  fresh : ∀ k, σ ⟨w.graph.nodes.size + k⟩ = ⟨w'.graph.nodes.size + k⟩

namespace Workspace

theorem size_modify (w : Workspace) (n : NodeId) (f : Node → Node) :
    (w.modify n f).graph.nodes.size = w.graph.nodes.size :=
  Array.size_modify

theorem size_add (w : Workspace) (node : Node) :
    (w.add node).2.graph.nodes.size = w.graph.nodes.size + 1 :=
  Array.size_push _

namespace Embeds

variable {σ : NodeId → NodeId} {rest : NodeId → Option Node} {w w' : Workspace} {n : NodeId}
  {node node' : Node}

theorem withArena (h : Embeds σ rest w w') (arena : TypeArena) :
    Embeds σ rest { w with arena } { w' with arena } :=
  ⟨rfl, h.injective, h.node, h.rest, h.fresh⟩

/-- A node is in neither workspace, or there is one that stands for it. -/
theorem node_cases (h : Embeds σ rest w w') (n : NodeId) :
    (w.node? n = none ∧ w'.node? (σ n) = none) ∨
      ∃ node node', w.node? n = some node ∧ w'.node? (σ n) = some node' ∧
        node.Resembles σ node' := by
  have hn := h.node n
  generalize w.node? n = found at hn
  generalize w'.node? (σ n) = found' at hn
  cases hn with
  | none => exact .inl ⟨rfl, rfl⟩
  | some hr => exact .inr ⟨_, _, rfl, rfl, hr⟩

/-- A node is changed in both workspaces. -/
theorem modify (h : Embeds σ rest w w') {f g : Node → Node}
    (hfg : ∀ node node', w.node? n = some node → node.Resembles σ node' →
      (f node).Resembles σ (g node')) :
    Embeds σ rest (w.modify n f) (w'.modify (σ n) g) where
  arena := h.arena
  injective := h.injective
  node m := by
    by_cases hmn : m = n
    · subst hmn
      rw [node?_modify_map, node?_modify_map]
      obtain ⟨hn, hn'⟩ | ⟨node, node', hn, hn', hr⟩ := h.node_cases m
      · rw [hn, hn']
        exact .none
      · rw [hn, hn']
        exact .some (hfg node node' hn hr)
    · rw [node?_modify_of_ne hmn, node?_modify_of_ne fun heq => hmn (h.injective heq)]
      exact h.node m
  rest m hm := by
    rw [node?_modify_of_ne fun heq => hm n heq.symm]
    exact h.rest m hm
  fresh k := by
    rw [size_modify, size_modify]
    exact h.fresh k

/-- A node is added to both workspaces. -/
theorem add (h : Embeds σ rest w w') (hr : node.Resembles σ node') :
    Embeds σ rest (w.add node).2 (w'.add node').2 ∧ (w'.add node').1 = σ (w.add node).1 := by
  have hself : σ ⟨w.graph.nodes.size⟩ = ⟨w'.graph.nodes.size⟩ := h.fresh 0
  refine ⟨⟨h.arena, h.injective, fun m => ?_, fun m hm => ?_, fun k => ?_⟩, hself.symm⟩
  · rw [node?_add, node?_add]
    by_cases hm : m.index = w.graph.nodes.size
    · have hm' : (σ m).index = w'.graph.nodes.size := by
        rw [show m = ⟨w.graph.nodes.size⟩ from congrArg NodeId.mk hm, hself]
      rw [if_pos hm, if_pos hm']
      exact .some hr
    · have hm' : (σ m).index ≠ w'.graph.nodes.size := by
        intro hcon
        have heq : σ m = σ ⟨w.graph.nodes.size⟩ := hself ▸ congrArg NodeId.mk hcon
        exact hm (congrArg NodeId.index (h.injective heq))
      rw [if_neg hm, if_neg hm']
      exact h.node m
  · have hne : m.index ≠ w'.graph.nodes.size := fun hcon =>
      hm ⟨w.graph.nodes.size⟩ (hself.trans (congrArg NodeId.mk hcon).symm)
    rw [node?_add, if_neg hne]
    exact h.rest m hm
  · rw [size_add, size_add, Nat.add_assoc, Nat.add_assoc]
    exact h.fresh (1 + k)

/-- A struct is added to both along with its type, which is the same. -/
theorem addStruct (h : Embeds σ rest w w') (name : String) (members : List Member)
    (start : Nat) :
    Embeds σ rest (w.addStruct name members start).2
        (w'.addStruct name (members.map (Member.relocate σ)) start).2 ∧
      (w'.addStruct name (members.map (Member.relocate σ)) start).1 =
        σ (w.addStruct name members start).1 := by
  rw [Workspace.addStruct, Workspace.addStruct, h.arena]
  refine (h.withArena _).add ⟨rfl, ?_⟩
  rw [Shape.relocate, Layout.relocate_ofMembers]

/-- A change that may be refused, or may not apply to the node. -/
theorem change? (h : Embeds σ rest w w') {change change' : Node → Option (Except Diagnostic Node)}
    (hchange : ∀ node node', node.Resembles σ node' →
      Option.Rel (Concurs (Node.Resembles σ)) (change node) (change' node')) (n : NodeId) :
    Option.Rel (Concurs (Embeds σ rest))
      ((w.node? n).bind fun node => (change node).map fun result =>
        result.map fun changed => w.modify n fun _ => changed)
      ((w'.node? (σ n)).bind fun node => (change' node).map fun result =>
        result.map fun changed => w'.modify (σ n) fun _ => changed) := by
  obtain ⟨hn, hn'⟩ | ⟨node, node', hn, hn', hr⟩ := h.node_cases n
  · rw [hn, hn']
    exact .none
  · rw [hn, hn', Option.bind_some, Option.bind_some]
    have hresult := hchange node node' hr
    generalize change node = result at hresult
    generalize change' node' = result' at hresult
    cases hresult with
    | none => exact .none
    | some hconcurs =>
      cases hconcurs with
      | error e e' => exact .some (.error e e')
      | ok hchanged => exact .some (.ok (h.modify fun _ _ _ _ => hchanged))

theorem bind? (h : Embeds σ rest w w') (n pointee : NodeId) :
    Option.Rel (Concurs (Embeds σ rest)) (w.bind? n pointee) (w'.bind? (σ n) (σ pointee)) :=
  h.change? (fun _ _ hr => hr.bind? pointee) n

theorem addMember? (h : Embeds σ rest w w') (n : NodeId) (m : Member) :
    Option.Rel (Concurs (Embeds σ rest)) (w.addMember? n m)
      (w'.addMember? (σ n) (m.relocate σ)) :=
  h.change? (fun _ _ hr => hr.addMember? m) n

/-- What is asked about a node. -/
theorem bind_node? {α β : Type} (h : Embeds σ rest w w') {f : Node → Option α}
    {f' : Node → Option β} {g : α → β}
    (hf : ∀ node node', node.Resembles σ node' → f' node' = (f node).map g) (n : NodeId) :
    (w'.node? (σ n)).bind f' = ((w.node? n).bind f).map g := by
  obtain ⟨hn, hn'⟩ | ⟨node, node', hn, hn', hr⟩ := h.node_cases n
  · rw [hn, hn']
    rfl
  · rw [hn, hn']
    exact hf node node' hr

theorem any_isFunction (h : Embeds σ rest w w') (n : NodeId) :
    (w'.node? (σ n)).any Node.isFunction = (w.node? n).any Node.isFunction := by
  obtain ⟨hn, hn'⟩ | ⟨node, node', hn, hn', hr⟩ := h.node_cases n
  · rw [hn, hn']
  · rw [hn, hn']
    exact hr.isFunction

theorem detachAll (h : Embeds σ rest w w') :
    Embeds σ (fun m => (rest m).map Node.detached) w.detachAll w'.detachAll where
  arena := h.arena
  injective := h.injective
  node n := by
    rw [node?_detachAll, node?_detachAll]
    obtain ⟨hn, hn'⟩ | ⟨node, node', hn, hn', hr⟩ := h.node_cases n
    · rw [hn, hn']
      exact .none
    · rw [hn, hn']
      exact .some hr.detached
  rest m hm := by
    rw [node?_detachAll, h.rest m hm]
  fresh k := by
    have hsize (w : Workspace) : w.detachAll.graph.nodes.size = w.graph.nodes.size :=
      Array.size_map
    rw [hsize, hsize]
    exact h.fresh k

end Embeds

end Workspace

/-! ### Steps that follow one another -/

namespace Production

open Workspace

variable {σ : NodeId → NodeId} {rest : NodeId → Option Node} {α β γ δ : Type}
  {R : α → β → Prop} {S : γ → δ → Prop}

/-- **The second step does in the larger workspace what the first does in the smaller.** -/
def Follows (σ : NodeId → NodeId) (rest : NodeId → Option Node) (R : α → β → Prop)
    (step : Production α) (step' : Production β) : Prop :=
  ∀ w w', Embeds σ rest w w' →
    Option.Rel (fun p p' => Concurs R p.1 p'.1 ∧ Embeds σ rest p.2 p'.2) (step w) (step' w')

theorem follows_pure {a : α} {b : β} (hab : R a b) : Follows σ rest R (pure a) (pure b) :=
  fun _ _ h => .some ⟨.ok hab, h⟩

theorem follows_throw (d d' : Diagnostic) : Follows σ rest R (throw d) (throw d') :=
  fun _ _ h => .some ⟨.error d d', h⟩

theorem Follows.bind {step : Production α} {step' : Production β} {next : α → Production γ}
    {next' : β → Production δ} (h : Follows σ rest R step step')
    (hnext : ∀ a b, R a b → Follows σ rest S (next a) (next' b)) :
    Follows σ rest S (step >>= next) (step' >>= next') := by
  intro w w' hw
  have hstep := h w w' hw
  rw [bind_apply, bind_apply]
  generalize step w = first at hstep
  generalize step' w' = first' at hstep
  cases hstep with
  | none => exact .none
  | @some p p' hp =>
    obtain ⟨result, w₁⟩ := p
    obtain ⟨result', w₁'⟩ := p'
    obtain ⟨hconcurs, hw₁⟩ := hp
    dsimp only at hconcurs hw₁
    cases hconcurs with
    | error e e' => exact .some ⟨.error e e', hw₁⟩
    | ok hab => exact hnext _ _ hab _ _ hw₁

theorem Follows.mapM {T : α → β → Prop} {as : List α} {bs : List β} (step : α → Production γ)
    (step' : β → Production γ) (has : List.Forall₂ T as bs)
    (h : ∀ a b, T a b → Follows σ rest Eq (step a) (step' b)) :
    Follows σ rest Eq (as.mapM step) (bs.mapM step') := by
  induction has with
  | nil => exact follows_pure rfl
  | cons hab _ ih =>
    rw [List.mapM_cons, List.mapM_cons]
    refine (h _ _ hab).bind ?_
    rintro c _ rfl
    refine ih.bind ?_
    rintro cs _ rfl
    exact follows_pure rfl

theorem follows_nodeAt (n : NodeId) :
    Follows σ rest (Node.Resembles σ) (nodeAt n) (nodeAt (σ n)) := by
  intro w w' h
  obtain ⟨hn, hn'⟩ | ⟨node, node', hn, hn', hr⟩ := h.node_cases n
  · rw [nodeAt_eq_of_none hn, nodeAt_eq_of_none hn']
    exact .some ⟨.error _ _, h⟩
  · rw [nodeAt_eq hn, nodeAt_eq hn']
    exact .some ⟨.ok hr, h⟩

theorem follows_modifyNode (n : NodeId) {f g : Node → Node}
    (hfg : ∀ node node', node.Resembles σ node' → (f node).Resembles σ (g node')) :
    Follows σ rest Eq (modifyNode n f) (modifyNode (σ n) g) :=
  fun _ _ h => .some ⟨.ok rfl, h.modify fun node node' _ => hfg node node'⟩

theorem follows_intern (data : TypeData) : Follows σ rest Eq (intern data) (intern data) := by
  intro w w' h
  rw [intern, intern, h.arena]
  exact .some ⟨.ok rfl, h.withArena _⟩

theorem follows_setBody (start start' : Nat) (t : Ty) (members : List Ty) :
    Follows σ rest Eq (setBody start t members) (setBody start' t members) := by
  intro w w' h
  rw [setBody, setBody, h.arena]
  cases w.arena.setBody t members false with
  | ok arena => exact .some ⟨.ok rfl, h.withArena arena⟩
  | error fault => exact .some ⟨.error _ _, h⟩

theorem follows_remember (n : NodeId) (t : Ty) :
    Follows σ rest Eq (remember n t) (remember (σ n) t) :=
  follows_modifyNode n fun _ _ hr => hr.withMade t

theorem follows_modifyLayout (n : NodeId) {f : Layout → Layout}
    (hf : ∀ l, (f l).relocate σ = f (l.relocate σ)) :
    Follows σ rest Eq (modifyLayout n f) (modifyLayout (σ n) f) :=
  follows_modifyNode n fun _ _ hr => hr.mapLayout hf

theorem follows_layOut (n : NodeId) (t : Ty) (members : List Ty) :
    Follows σ rest Eq (layOut n t members) (layOut (σ n) t members) := by
  refine (follows_nodeAt n).bind fun node node' hr => ?_
  have hlooped : node'.layout?.any Layout.containsItself =
      node.layout?.any Layout.containsItself := by
    rw [hr.layout?, Option.any_map]
    rfl
  rw [hlooped]
  split
  · exact follows_throw _ _
  · refine (follows_setBody _ _ t members).bind ?_
    rintro _ _ -
    exact follows_modifyLayout n Layout.relocate_laidOut

/-- Guarded work follows if the work does. -/
theorem follows_guarded (n : NodeId) {work : Bool → Production α} {work' : Bool → Production β}
    (hwork : ∀ nested, Follows σ rest R (work nested) (work' nested)) :
    Follows σ rest R (guarded n work) (guarded (σ n) work') := by
  intro w w' h
  rw [guarded, guarded]
  obtain ⟨hn, hn'⟩ | ⟨node, node', hn, hn', hr⟩ := h.node_cases n
  · rw [hn, hn']
    exact .some ⟨.error _ _, h⟩
  · rw [hn, hn']
    dsimp only
    rw [hr.guard]
    cases node.guard.acquire? with
    | none => exact .some ⟨.error _ _, h⟩
    | some guard =>
      have hinner := hwork guard.isNested _ _
        (h.modify (n := n) fun before before' _ hbefore => hbefore.withGuard guard)
      dsimp only
      generalize work guard.isNested _ = inner at hinner
      generalize work' guard.isNested _ = inner' at hinner
      cases hinner with
      | none => exact .none
      | some hp => exact .some ⟨hp.1, hp.2.modify fun _ _ _ hbefore => hbefore.released⟩

theorem follows_formedData {request request' : NodeId → Bool → Production Ty}
    (h : ∀ n complete, Follows σ rest Eq (request n complete) (request' (σ n) complete))
    (start start' : Nat) (complete : Bool) (former : Former) :
    Follows σ rest Eq (formedData request start complete former)
      (formedData request' start' complete (former.relocate σ)) := by
  match former with
  | .pointer none _ => exact follows_throw _ _
  | .pointer (some pointee) _ =>
    refine (h pointee false).bind ?_
    rintro t _ rfl
    exact follows_pure rfl
  | .function result args variadic =>
    refine (h result complete).bind ?_
    rintro t _ rfl
    have hargs : List.Forall₂ (fun n n' => n' = σ n) args (args.map σ) := by
      rw [List.forall₂_map_right_iff]
      exact List.forall₂_same.mpr fun _ _ => rfl
    refine (Follows.mapM (fun arg => request arg complete) (fun arg => request' arg complete)
      hargs ?_).bind ?_
    · rintro n _ rfl
      exact h n complete
    · rintro ts _ rfl
      exact follows_pure rfl
  | .array element count =>
    refine (h element complete).bind ?_
    rintro t _ rfl
    exact follows_pure rfl

end Production

open Production in
/-- **Producing a node does the same in both workspaces**, whatever the depth. -/
theorem produceWithin_follows {σ : NodeId → NodeId} {rest : NodeId → Option Node} (depth : Nat)
    (n : NodeId) (complete : Bool) :
    Follows σ rest Eq (produceWithin depth n complete) (produceWithin depth (σ n) complete) := by
  induction depth generalizing n complete with
  | zero => exact fun _ _ _ => .none
  | succ depth ih =>
    rw [produceWithin, produceWithin]
    refine (follows_nodeAt n).bind fun node node' hr => ?_
    obtain ⟨start', rfl⟩ := hr.exists_eq
    obtain ⟨start, guard, type | ⟨former, _ | type⟩ | ⟨type, layout⟩⟩ := node
    · exact follows_pure rfl
    · refine follows_guarded n fun _ => (follows_formedData ih _ _ _ _).bind ?_
      rintro data _ rfl
      refine (follows_intern data).bind ?_
      rintro type _ rfl
      exact (follows_remember n type).bind fun _ _ _ => follows_pure rfl
    · exact follows_pure rfl
    · dsimp only [Shape.relocate, Layout.relocate]
      split
      · refine (follows_guarded (R := Eq) n fun nested => ?_).bind fun _ _ _ => follows_pure rfl
        split
        · exact follows_modifyLayout n fun _ => rfl
        · have hmembers : List.Forall₂ (fun m m' : Member => m'.type = σ m.type) layout.members
              (layout.members.map (Member.relocate σ)) := by
            rw [List.forall₂_map_right_iff]
            exact List.forall₂_same.mpr fun _ _ => rfl
          refine (Follows.mapM (fun m : Member => produceWithin depth m.type true)
            (fun m : Member => produceWithin depth m.type true) hmembers ?_).bind ?_
          · intro m m' hm
            rw [hm]
            exact ih m.type true
          · rintro members _ rfl
            exact follows_layOut n type members
      · exact follows_pure rfl

/-- **Producing a node in both workspaces** gives the same type, or is reported in both. -/
theorem Workspace.Embeds.produce {σ : NodeId → NodeId} {rest : NodeId → Option Node}
    {w w' : Workspace} (h : Workspace.Embeds σ rest w w') (n : NodeId) (complete : Bool) :
    Concurs Eq (w.produce n complete).1 (w'.produce (σ n) complete).1 ∧
      Workspace.Embeds σ rest (w.produce n complete).2 (w'.produce (σ n) complete).2 := by
  have hrun (w : Workspace) (n : NodeId) :
      produceWithin w.depth n complete w = some (w.produce n complete) :=
    (Option.some_get _).symm
  -- a depth that is enough for both
  have hfollows := produceWithin_follows (max w.depth w'.depth) n complete w w' h
  rw [produceWithin_eq_of_le (Nat.le_max_left _ _) (hrun w n),
    produceWithin_eq_of_le (Nat.le_max_right _ _) (hrun w' (σ n))] at hfollows
  cases hfollows with
  | some hp => exact hp

end ShaderLowering
