import ShaderLowering.Proofs.Target.Renaming
import ShaderLowering.Proofs.TypeGraph.Detached

/-!
# Production does not see handles

Nodes hold handles of types, but what production does next never depends on which handle it
holds. So two workspaces that differ in the handles of their types only
(`ShaderLowering.Workspace.Renamed`) answer a request alike: with the same report, or with
types that are renamed to one another. A step of production that does so is said to be
*mirrored* (`ShaderLowering.Production.Mirrors`). Steps are mirrored one by one, the
renaming growing with the types that are made, and so whole productions are
(`ShaderLowering.produceWithin_mirrors`), whatever circles they go in.
-/

namespace ShaderLowering

open TypeArena (Extends)

/-! ### Workspaces with renamed handles -/

/-- The types that a node holds. -/
def Shape.types : Shape → List Ty
  | .simple type => [type]
  | .formed _ made => made.toList
  | .struct type _ => [type]

/-- The shape with its types renamed. -/
def Shape.rename (ρ : Ty → Ty) : Shape → Shape
  | .simple type => .simple (ρ type)
  | .formed former made => .formed former (made.map ρ)
  | .struct type layout => .struct (ρ type) layout

theorem Shape.rename_congr {ρ ρ' : Ty → Ty} {shape : Shape}
    (h : ∀ t ∈ shape.types, ρ t = ρ' t) : shape.rename ρ = shape.rename ρ' := by
  cases shape with
  | simple type => rw [rename, rename, h type List.mem_cons_self]
  | struct type layout => rw [rename, rename, h type List.mem_cons_self]
  | formed former made =>
    cases made with
    | none => rfl
    | some type => rw [rename, rename, Option.map_some, Option.map_some, h type (by simp [types])]

/-- The node with its types renamed. -/
def Node.rename (ρ : Ty → Ty) (node : Node) : Node :=
  { node with shape := node.shape.rename ρ }

namespace Workspace

variable {old : TypeArena} {ρ ρ' : Ty → Ty} {w w' : Workspace} {n : NodeId} {node : Node}
  {t : Ty}

/-- **The second workspace is the first with its handles renamed.** The nodes of the first
hold types that are there, and those of structs hold structs. -/
structure Renamed (old : TypeArena) (ρ : Ty → Ty) (w w' : Workspace) : Prop where
  arena : old.Renamed ρ w.arena w'.arena
  nodes : w'.graph.nodes = w.graph.nodes.map (Node.rename ρ)
  there : ∀ n node, w.node? n = some node → ∀ t ∈ node.shape.types, w.arena.Has t
  struct : ∀ n node t layout, w.node? n = some node → node.shape = .struct t layout →
    ∃ data, w.arena.data? t = some (.struct data)

theorem renamed_empty (hfounded : old.Founded) (huniqued : old.Uniqued) (ρ : Ty → Ty) :
    Renamed old ρ {} { arena := old } where
  arena := TypeArena.renamed_empty hfounded huniqued ρ
  nodes := by simp
  there n node h := by simp [node?] at h
  struct n node t layout h := by simp [node?] at h

namespace Renamed

theorem node? (h : Renamed old ρ w w') (n : NodeId) :
    w'.node? n = (w.node? n).map (Node.rename ρ) := by
  rw [Workspace.node?, Workspace.node?, h.nodes, Array.getElem?_map]

theorem depth (h : Renamed old ρ w w') : w'.depth = w.depth := by
  rw [Workspace.depth, Workspace.depth, h.nodes, Array.size_map]

/-- The arenas change alone. -/
theorem withArena (h : Renamed old ρ w w') {a b : TypeArena} (harena : old.Renamed ρ' a b)
    (hextends : Extends w.arena ρ a ρ') :
    Renamed old ρ' { w with arena := a } { w' with arena := b } where
  arena := harena
  nodes := by
    rw [h.nodes]
    refine Array.ext_getElem? fun index => ?_
    rw [Array.getElem?_map, Array.getElem?_map]
    refine Option.map_congr fun node hnode => ?_
    have htypes := h.there ⟨index⟩ node hnode
    rw [Node.rename, Node.rename, Shape.rename_congr fun t ht => (hextends.eq t (htypes t ht)).symm]
  there n node hn t ht := hextends.has (h.there n node hn t ht)
  struct n node t layout hn hs := by
    obtain ⟨data, hdata⟩ := h.struct n node t layout hn hs
    obtain ⟨data', hdata', -⟩ := hextends.grows.struct hdata
    exact ⟨data', hdata'⟩

/-- A node is changed in both workspaces. -/
theorem modify (h : Renamed old ρ w w') {f g : Node → Node}
    (hfg : ∀ node, w.node? n = some node → g (node.rename ρ) = (f node).rename ρ)
    (hthere : ∀ node, w.node? n = some node → ∀ t ∈ (f node).shape.types, w.arena.Has t)
    (hstruct : ∀ node t layout, w.node? n = some node → (f node).shape = .struct t layout →
      ∃ layout', node.shape = .struct t layout') :
    Renamed old ρ (w.modify n f) (w'.modify n g) where
  arena := h.arena
  nodes := by
    refine Array.ext_getElem? fun index => ?_
    change (w'.modify n g).node? ⟨index⟩ = _
    rw [Array.getElem?_map]
    change _ = ((w.modify n f).node? ⟨index⟩).map (Node.rename ρ)
    by_cases hindex : (⟨index⟩ : NodeId) = n
    · rw [hindex, node?_modify_map, node?_modify_map, h.node?]
      cases hn : w.node? n with
      | none => rfl
      | some node => exact congrArg some (hfg node hn)
    · rw [node?_modify_of_ne hindex, node?_modify_of_ne hindex, h.node?]
  there m node hm t ht := by
    by_cases hmn : m = n
    · rw [hmn, node?_modify_map] at hm
      obtain ⟨before, hn, rfl⟩ := Option.map_eq_some_iff.mp hm
      exact hthere before hn t ht
    · rw [node?_modify_of_ne hmn] at hm
      exact h.there m node hm t ht
  struct m node t layout hm hs := by
    by_cases hmn : m = n
    · rw [hmn, node?_modify_map] at hm
      obtain ⟨before, hn, rfl⟩ := Option.map_eq_some_iff.mp hm
      obtain ⟨layout', hs'⟩ := hstruct before t layout hn hs
      exact h.struct n before t layout' hn hs'
    · rw [node?_modify_of_ne hmn] at hm
      exact h.struct m node t layout hm hs

/-- A change that leaves the types of nodes alone. -/
theorem modify_of_shape (h : Renamed old ρ w w') {f : Node → Node}
    (hf : ∀ node : Node, f (node.rename ρ) = (f node).rename ρ)
    (hshape : ∀ node : Node, (f node).shape.types = node.shape.types ∧
      ∀ t layout, (f node).shape = .struct t layout → ∃ layout', node.shape = .struct t layout') :
    Renamed old ρ (w.modify n f) (w'.modify n f) :=
  h.modify (fun node _ => hf node)
    (fun node hn t ht => h.there n node hn t ((hshape node).1 ▸ ht))
    fun node t layout _ hs => (hshape node).2 t layout hs

/-- A node is added to both workspaces. -/
theorem add (h : Renamed old ρ w w') (node : Node)
    (hthere : ∀ t ∈ node.shape.types, w.arena.Has t)
    (hstruct : ∀ t layout, node.shape = .struct t layout →
      ∃ data, w.arena.data? t = some (.struct data)) :
    Renamed old ρ (w.add node).2 (w'.add (node.rename ρ)).2 ∧
      (w'.add (node.rename ρ)).1 = (w.add node).1 := by
  have hcases {m : NodeId} {added : Node} (hm : (w.add node).2.node? m = some added) :
      added = node ∨ w.node? m = some added := by
    rw [node?_add] at hm
    split at hm
    · exact Or.inl (Option.some.inj hm).symm
    · exact Or.inr hm
  refine ⟨⟨h.arena, ?_, fun m added hm t ht => ?_, fun m added t layout hm hs => ?_⟩, ?_⟩
  · change w'.graph.nodes.push (node.rename ρ) = (w.graph.nodes.push node).map (Node.rename ρ)
    rw [h.nodes, Array.map_push]
  · rcases hcases hm with rfl | hm
    · exact hthere t ht
    · exact h.there m added hm t ht
  · rcases hcases hm with rfl | hm
    · exact hstruct t layout hs
    · exact h.struct m added t layout hm hs
  · change (⟨w'.graph.nodes.size⟩ : NodeId) = ⟨w.graph.nodes.size⟩
    rw [h.nodes, Array.size_map]

/-- The pointers are detached in both workspaces. -/
theorem detachAll (h : Renamed old ρ w w') : Renamed old ρ w.detachAll w'.detachAll := by
  have hdetached (node : Node) : (node.rename ρ).detached = node.detached.rename ρ := by
    obtain ⟨start, guard, _ | ⟨⟨_, _⟩ | _ | _, made⟩ | _⟩ := node <;> rfl
  have hshape (node : Node) : node.detached.shape.types = node.shape.types ∧
      ∀ t layout, node.detached.shape = .struct t layout → node.shape = .struct t layout := by
    obtain ⟨start, guard, _ | ⟨⟨_, _⟩ | _ | _, made⟩ | _⟩ := node
    all_goals simp [Node.detached, Shape.types]
  refine ⟨h.arena, ?_, fun n node hn t ht => ?_, fun n node t layout hn hs => ?_⟩
  · rw [Workspace.detachAll, Workspace.detachAll]
    dsimp only
    rw [h.nodes, Array.map_map, Array.map_map]
    exact Array.map_congr_left fun node _ => hdetached node
  · rw [Workspace.node?_detachAll] at hn
    obtain ⟨before, hbefore, rfl⟩ := Option.map_eq_some_iff.mp hn
    exact h.there n before hbefore t ((hshape before).1 ▸ ht)
  · rw [Workspace.node?_detachAll] at hn
    obtain ⟨before, hbefore, rfl⟩ := Option.map_eq_some_iff.mp hn
    exact h.struct n before t layout hbefore ((hshape before).2 t layout hs)

end Renamed

end Workspace

/-! ### Results that agree -/

/-- Two results are the same report, or go with one another. -/
inductive Agrees {ε α β : Type} (R : α → β → Prop) : Except ε α → Except ε β → Prop
  /-- The same is reported. -/
  | error (e : ε) : Agrees R (.error e) (.error e)
  /-- Both end well. -/
  | ok {a : α} {b : β} (h : R a b) : Agrees R (.ok a) (.ok b)

namespace Agrees

variable {ε α β γ δ σ τ : Type} {R : α → β → Prop} {S : γ → δ → Prop}

theorem imp {R' : α → β → Prop} {result : Except ε α} {result' : Except ε β}
    (h : Agrees R result result') (himp : ∀ a b, R a b → R' a b) : Agrees R' result result' := by
  cases h with
  | error e => exact .error e
  | ok hab => exact .ok (himp _ _ hab)

/-- Work that agrees goes on to work that agrees. -/
theorem bind {first : Except ε α} {first' : Except ε β} {next : α → Except ε γ}
    {next' : β → Except ε δ} (h : Agrees R first first')
    (hnext : ∀ a b, R a b → Agrees S (next a) (next' b)) :
    Agrees S (first >>= next) (first' >>= next') := by
  cases h with
  | error e => exact .error e
  | ok hab => exact hnext _ _ hab

/-- The same work goes on to work that agrees. -/
theorem bind_same {first : Except ε α} {next : α → Except ε γ} {next' : α → Except ε δ}
    (hnext : ∀ a, Agrees S (next a) (next' a)) : Agrees S (first >>= next) (first >>= next') := by
  cases first with
  | error e => exact .error e
  | ok a => exact hnext a

/-- Folds agree if their steps do. -/
theorem foldlM {R : σ → τ → Prop} {step : σ → α → Except ε σ} {step' : τ → α → Except ε τ}
    (hstep : ∀ s t, R s t → ∀ a, Agrees R (step s a) (step' t a)) (as : List α) {s : σ} {t : τ}
    (h : R s t) : Agrees R (as.foldlM step s) (as.foldlM step' t) := by
  induction as generalizing s t with
  | nil => exact .ok h
  | cons a as ih =>
    rw [List.foldlM_cons, List.foldlM_cons]
    exact (hstep s t h a).bind fun _ _ => ih

end Agrees

/-! ### Steps that are mirrored -/

/-- A type and what it is renamed to. -/
def TypeArena.IsRenamed (ρ : Ty → Ty) (a : TypeArena) (t u : Ty) : Prop :=
  a.Has t ∧ u = ρ t

/-- Types and what they are renamed to. -/
def TypeArena.AreRenamed (ρ : Ty → Ty) (a : TypeArena) (ts us : List Ty) : Prop :=
  (∀ t ∈ ts, a.Has t) ∧ us = ts.map ρ

section Extends

variable {a a' : TypeArena} {ρ ρ' : Ty → Ty} {t u : Ty} {ts us : List Ty}

theorem TypeArena.IsRenamed.extends (h : TypeArena.IsRenamed ρ a t u)
    (hextends : Extends a ρ a' ρ') : TypeArena.IsRenamed ρ' a' t u :=
  ⟨hextends.has h.1, h.2.trans (hextends.eq t h.1).symm⟩

theorem TypeArena.AreRenamed.extends (h : TypeArena.AreRenamed ρ a ts us)
    (hextends : Extends a ρ a' ρ') : TypeArena.AreRenamed ρ' a' ts us :=
  ⟨fun t ht => hextends.has (h.1 t ht), h.2.trans (hextends.map_eq h.1).symm⟩

theorem TypeArena.AreRenamed.cons (h : TypeArena.IsRenamed ρ a t u)
    (hs : TypeArena.AreRenamed ρ a ts us) : TypeArena.AreRenamed ρ a (t :: ts) (u :: us) :=
  ⟨List.forall_mem_cons.mpr ⟨h.1, hs.1⟩, by rw [h.2, hs.2, List.map_cons]⟩

end Extends

namespace Production

variable {old : TypeArena} {ρ : Ty → Ty} {w w' : Workspace} {α β γ δ : Type}
  {R : (Ty → Ty) → TypeArena → α → β → Prop} {S : (Ty → Ty) → TypeArena → γ → δ → Prop}

/-- **The second step does from the second workspace what the first does from the first.**
Their results agree under a renaming that extends the one there was. -/
def Mirrors (old : TypeArena) (R : (Ty → Ty) → TypeArena → α → β → Prop) (ρ : Ty → Ty)
    (w w' : Workspace) (step : Production α) (step' : Production β) : Prop :=
  ∀ result w₁, step w = some (result, w₁) → ∃ ρ₁ result' w₁', step' w' = some (result', w₁') ∧
    Workspace.Renamed old ρ₁ w₁ w₁' ∧ Extends w.arena ρ w₁.arena ρ₁ ∧
    Agrees (R ρ₁ w₁.arena) result result'

theorem mirrors_pure (h : Workspace.Renamed old ρ w w') {a : α} {b : β} (hab : R ρ w.arena a b) :
    Mirrors old R ρ w w' (pure a) (pure b) := by
  intro result w₁ hrun
  obtain ⟨rfl, rfl⟩ := of_pure hrun
  exact ⟨ρ, .ok b, w', rfl, h, .refl _ ρ, .ok hab⟩

theorem mirrors_throw (h : Workspace.Renamed old ρ w w') (d : Diagnostic) :
    Mirrors old R ρ w w' (throw d) (throw d) := by
  intro result w₁ hrun
  obtain ⟨rfl, rfl⟩ := of_throw hrun
  exact ⟨ρ, .error d, w', rfl, h, .refl _ ρ, .error d⟩

/-- One mirrored step after another is mirrored. -/
theorem Mirrors.bind {step : Production α} {step' : Production β} {next : α → Production γ}
    {next' : β → Production δ} (h : Mirrors old R ρ w w' step step')
    (hnext : ∀ ρ₁ w₁ w₁' a b, Workspace.Renamed old ρ₁ w₁ w₁' →
      Extends w.arena ρ w₁.arena ρ₁ → R ρ₁ w₁.arena a b →
      Mirrors old S ρ₁ w₁ w₁' (next a) (next' b)) :
    Mirrors old S ρ w w' (step >>= next) (step' >>= next') := by
  intro result w₂ hrun
  rcases of_bind hrun with ⟨d, hstep, rfl⟩ | ⟨a, w₁, hstep, hrun⟩
  · obtain ⟨ρ₁, result', w₁', hstep', hrenamed, hextends, hagrees⟩ := h _ _ hstep
    cases hagrees
    refine ⟨ρ₁, .error d, w₁', ?_, hrenamed, hextends, .error d⟩
    rw [bind_apply, hstep']
    rfl
  · obtain ⟨ρ₁, result', w₁', hstep', hrenamed, hextends, hagrees⟩ := h _ _ hstep
    cases hagrees with
    | ok hab =>
      obtain ⟨ρ₂, result', w₂', hrun', hrenamed', hextends', hagrees'⟩ :=
        hnext ρ₁ w₁ w₁' a _ hrenamed hextends hab _ _ hrun
      refine ⟨ρ₂, result', w₂', ?_, hrenamed', hextends.trans hextends', hagrees'⟩
      rw [bind_apply, hstep']
      exact hrun'

/-- Looking a node up finds the renamed node. -/
theorem mirrors_nodeAt (h : Workspace.Renamed old ρ w w') {n : NodeId}
    {next : Node → Production α} {next' : Node → Production β}
    (hnext : ∀ node, w.node? n = some node →
      Mirrors old R ρ w w' (next node) (next' (node.rename ρ))) :
    Mirrors old R ρ w w' (nodeAt n >>= next) (nodeAt n >>= next') := by
  intro result w₁ hrun
  have hn' := h.node? n
  cases hn : w.node? n with
  | none =>
    rw [hn] at hn'
    rw [bind_apply, nodeAt_eq_of_none hn] at hrun
    cases hrun
    refine ⟨ρ, _, w', ?_, h, .refl _ ρ, .error _⟩
    rw [bind_apply, nodeAt_eq_of_none hn']
    rfl
  | some node =>
    rw [hn] at hn'
    rw [bind_apply, nodeAt_eq hn] at hrun
    obtain ⟨ρ₁, result', w₁', hrun', hrest⟩ := hnext node hn result w₁ hrun
    refine ⟨ρ₁, result', w₁', ?_, hrest⟩
    rw [bind_apply, nodeAt_eq hn']
    exact hrun'

theorem mirrors_modifyNode {n : NodeId} {f g : Node → Node}
    (h : Workspace.Renamed old ρ (w.modify n f) (w'.modify n g)) :
    Mirrors old (fun _ _ _ _ => True) ρ w w' (modifyNode n f) (modifyNode n g) := by
  intro result w₁ hrun
  cases hrun
  exact ⟨ρ, .ok (), w'.modify n g, rfl, h, .refl _ ρ, .ok trivial⟩

/-- Doing a mirrored step for each member of a list is mirrored. -/
theorem mirrors_mapM {step : α → Production Ty}
    (hstep : ∀ a ρ w w', Workspace.Renamed old ρ w w' →
      Mirrors old TypeArena.IsRenamed ρ w w' (step a) (step a))
    (h : Workspace.Renamed old ρ w w') (as : List α) :
    Mirrors old TypeArena.AreRenamed ρ w w' (as.mapM step) (as.mapM step) := by
  induction as generalizing ρ w w' with
  | nil =>
    rw [List.mapM_nil]
    exact mirrors_pure h ⟨List.forall_mem_nil _, rfl⟩
  | cons a as ih =>
    rw [List.mapM_cons]
    refine (hstep a ρ w w' h).bind fun ρ₁ w₁ w₁' t u h₁ _ ht => ?_
    refine (ih h₁).bind fun ρ₂ w₂ w₂' ts us h₂ hextends hts => ?_
    exact mirrors_pure h₂ (.cons (ht.extends hextends) hts)

/-- Guarded work is mirrored if the work is. -/
theorem mirrors_guarded (h : Workspace.Renamed old ρ w w') {n : NodeId}
    {work : Bool → Production α} {work' : Bool → Production β}
    (hwork : ∀ nested w₀ w₀', Workspace.Renamed old ρ w₀ w₀' → w₀.arena = w.arena →
      Mirrors old R ρ w₀ w₀' (work nested) (work' nested)) :
    Mirrors old R ρ w w' (guarded n work) (guarded n work') := by
  intro result w₁ hrun
  have hn' := h.node? n
  cases hn : w.node? n with
  | none =>
    rw [hn] at hn'
    simp only [guarded, hn, Option.some.injEq, Prod.mk.injEq] at hrun
    obtain ⟨rfl, rfl⟩ := hrun
    refine ⟨ρ, _, w', ?_, h, .refl _ ρ, .error _⟩
    simp only [guarded, hn', Option.map_none]
  | some node =>
    rw [hn, Option.map_some] at hn'
    cases hacquire : node.guard.acquire? with
    | none =>
      simp only [guarded, hn, hacquire, Option.some.injEq, Prod.mk.injEq] at hrun
      obtain ⟨rfl, rfl⟩ := hrun
      have hacquire' : (node.rename ρ).guard.acquire? = none := hacquire
      refine ⟨ρ, _, w', ?_, h, .refl _ ρ, .error _⟩
      simp only [guarded, hn', hacquire']
      rfl
    | some guard =>
      have hacquire' : (node.rename ρ).guard.acquire? = some guard := hacquire
      simp only [guarded, hn, hacquire] at hrun
      obtain ⟨⟨inner, w₂⟩, hinner, hend⟩ := Option.bind_eq_some_iff.mp hrun
      cases hend
      have hentered : Workspace.Renamed old ρ (w.modify n fun node => { node with guard })
          (w'.modify n fun node => { node with guard }) :=
        h.modify_of_shape (fun _ => rfl) fun _ => ⟨rfl, fun _ layout hs => ⟨layout, hs⟩⟩
      obtain ⟨ρ₁, result', w₂', hinner', hrenamed, hextends, hagrees⟩ :=
        hwork guard.isNested _ _ hentered rfl _ _ hinner
      refine ⟨ρ₁, result', w₂'.modify n Node.released, ?_,
        hrenamed.modify_of_shape (fun _ => rfl) fun _ => ⟨rfl, fun _ layout hs => ⟨layout, hs⟩⟩,
        hextends, hagrees⟩
      simp only [guarded, hn', hacquire', hinner']
      rfl

/-! ### The steps of production -/

theorem mirrors_intern (h : Workspace.Renamed old ρ w w') {d : TypeData} (hd : d.IsStructural)
    (hparts : ∀ part ∈ d.parts, w.arena.Has part) :
    Mirrors old TypeArena.IsRenamed ρ w w' (intern d) (intern (d.rename ρ)) := by
  intro result w₁ hrun
  cases hrun
  obtain ⟨ρ', harena, hextends, hhas, heq⟩ := h.arena.intern hd hparts
  exact ⟨ρ', _, _, rfl, h.withArena harena hextends, hextends, .ok ⟨hhas, heq⟩⟩

theorem mirrors_remember (h : Workspace.Renamed old ρ w w') {t : Ty} (ht : w.arena.Has t)
    (n : NodeId) :
    Mirrors old (fun _ _ _ _ => True) ρ w w' (remember n t) (remember n (ρ t)) := by
  refine mirrors_modifyNode (h.modify (fun node _ => ?_) (fun node hn s hs => ?_)
    fun node s layout hn hs => ?_)
  · obtain ⟨start, guard, shape⟩ := node
    cases shape <;> rfl
  · obtain ⟨start, guard, shape⟩ := node
    cases shape with
    | formed former made =>
      obtain rfl : s = t := by simpa [Node.withMade, Shape.types] using hs
      exact ht
    | _ => exact h.there n _ hn s hs
  · obtain ⟨start, guard, shape⟩ := node
    cases shape with
    | formed former made => exact absurd hs (by simp [Node.withMade])
    | _ => exact ⟨layout, hs⟩

theorem mirrors_modifyLayout (h : Workspace.Renamed old ρ w w') (n : NodeId)
    (f : Layout → Layout) :
    Mirrors old (fun _ _ _ _ => True) ρ w w' (modifyLayout n f) (modifyLayout n f) := by
  refine mirrors_modifyNode (h.modify_of_shape (fun node => ?_) fun node => ⟨?_, ?_⟩)
  · obtain ⟨start, guard, shape⟩ := node
    cases shape <;> rfl
  · obtain ⟨start, guard, shape⟩ := node
    cases shape <;> rfl
  · obtain ⟨start, guard, shape⟩ := node
    intro t layout hs
    cases shape with
    | struct type layout' =>
      cases hs
      exact ⟨layout', rfl⟩
    | _ => exact absurd hs (by simp [Node.mapLayout])

theorem mirrors_setBody (h : Workspace.Renamed old ρ w w') {t : Ty} {data : StructData}
    (ht : w.arena.data? t = some (.struct data)) {ts us : List Ty}
    (hts : TypeArena.AreRenamed ρ w.arena ts us) (start : Nat) :
    Mirrors old (fun _ _ _ _ => True) ρ w w' (setBody start t ts) (setBody start (ρ t) us) := by
  obtain ⟨hhas, rfl⟩ := hts
  intro result w₁ hrun
  rcases h.arena.setBody ht hhas false with ⟨fault, ha, hb⟩ | ⟨a', b', ha, hb, harena, hextends⟩
  · simp only [setBody, ha, Option.some.injEq, Prod.mk.injEq] at hrun
    obtain ⟨rfl, rfl⟩ := hrun
    refine ⟨ρ, _, w', ?_, h, .refl _ ρ, .error _⟩
    simp only [setBody, hb]
  · simp only [setBody, ha, Option.some.injEq, Prod.mk.injEq] at hrun
    obtain ⟨rfl, rfl⟩ := hrun
    refine ⟨ρ, .ok (), { w' with arena := b' }, ?_, h.withArena harena hextends, hextends,
      .ok trivial⟩
    simp only [setBody, hb]

theorem mirrors_layOut (h : Workspace.Renamed old ρ w w') {t : Ty} {data : StructData}
    (ht : w.arena.data? t = some (.struct data)) {ts us : List Ty}
    (hts : TypeArena.AreRenamed ρ w.arena ts us) (n : NodeId) :
    Mirrors old (fun _ _ _ _ => True) ρ w w' (layOut n t ts) (layOut n (ρ t) us) := by
  refine mirrors_nodeAt h fun node hn => ?_
  have hlayout : (node.rename ρ).layout? = node.layout? := by
    obtain ⟨start, guard, shape⟩ := node
    cases shape <;> rfl
  rw [hlayout]
  split
  · exact mirrors_throw h _
  · exact (mirrors_setBody h ht hts node.start).bind fun ρ₁ w₁ w₁' _ _ h₁ _ _ =>
      mirrors_modifyLayout h₁ n Layout.laidOut

/-- Structural data of types that are there, and the data with its types renamed. -/
def IsRenamedData (ρ : Ty → Ty) (a : TypeArena) (d d' : TypeData) : Prop :=
  d.IsStructural ∧ (∀ part ∈ d.parts, a.Has part) ∧ d' = d.rename ρ

theorem mirrors_formedData {request : NodeId → Bool → Production Ty}
    (hrequest : ∀ n complete ρ w w', Workspace.Renamed old ρ w w' →
      Mirrors old TypeArena.IsRenamed ρ w w' (request n complete) (request n complete))
    (h : Workspace.Renamed old ρ w w') (start : Nat) (complete : Bool) (former : Former) :
    Mirrors old IsRenamedData ρ w w' (formedData request start complete former)
      (formedData request start complete former) := by
  match former with
  | .pointer none _ => exact mirrors_throw h _
  | .pointer (some pointee) _ =>
    refine (hrequest pointee false ρ w w' h).bind fun ρ₁ w₁ w₁' t u h₁ _ ht => ?_
    refine mirrors_pure h₁ ⟨trivial, List.forall_mem_singleton.mpr ht.1, ?_⟩
    rw [ht.2]
    rfl
  | .function result args variadic =>
    refine (hrequest result complete ρ w w' h).bind fun ρ₁ w₁ w₁' t u h₁ _ ht => ?_
    refine (mirrors_mapM (fun n => hrequest n complete) h₁ args).bind
      fun ρ₂ w₂ w₂' ts us h₂ hextends hts => ?_
    have ht₂ := ht.extends hextends
    refine mirrors_pure h₂ ⟨trivial, List.forall_mem_cons.mpr ⟨ht₂.1, hts.1⟩, ?_⟩
    rw [ht₂.2, hts.2]
    rfl
  | .array element count =>
    refine (hrequest element complete ρ w w' h).bind fun ρ₁ w₁ w₁' t u h₁ _ ht => ?_
    refine mirrors_pure h₁ ⟨trivial, List.forall_mem_singleton.mpr ht.1, ?_⟩
    rw [ht.2]
    rfl

end Production

open Production in
/-- **Producing a node is mirrored**, whatever the depth. -/
theorem produceWithin_mirrors {old : TypeArena} (depth : Nat) (n : NodeId) (complete : Bool)
    (ρ : Ty → Ty) (w w' : Workspace) (h : Workspace.Renamed old ρ w w') :
    Mirrors old TypeArena.IsRenamed ρ w w' (produceWithin depth n complete)
      (produceWithin depth n complete) := by
  induction depth generalizing n complete ρ w w' with
  | zero => exact fun result w₁ hrun => absurd hrun (by simp [produceWithin, outOfDepth])
  | succ depth ih =>
    rw [produceWithin]
    refine mirrors_nodeAt h fun node hn => ?_
    have hthere := h.there n node hn
    obtain ⟨start, guard, t | ⟨former, _ | t⟩ | ⟨t, layout⟩⟩ := node
    · exact mirrors_pure h ⟨hthere t List.mem_cons_self, rfl⟩
    · -- nothing was made of the node yet
      refine mirrors_guarded h fun _ w₀ w₀' h₀ _ => ?_
      refine (mirrors_formedData (fun n complete => ih n complete) h₀ start complete former).bind
        fun ρ₁ w₁ w₁' d d' h₁ _ hd => ?_
      obtain ⟨hd, hparts, rfl⟩ := hd
      refine (mirrors_intern h₁ hd hparts).bind fun ρ₂ w₂ w₂' t u h₂ _ ht => ?_
      obtain ⟨hhas, rfl⟩ := ht
      have hrenamed : TypeArena.IsRenamed ρ₂ w₂.arena t (ρ₂ t) := ⟨hhas, rfl⟩
      exact (mirrors_remember h₂ hhas n).bind fun ρ₃ w₃ w₃' _ _ h₃ hextends _ =>
        mirrors_pure h₃ (hrenamed.extends hextends)
    · exact mirrors_pure h ⟨hthere t List.mem_cons_self, rfl⟩
    · -- the struct is laid out, unless it is complete or need not be
      have ht : TypeArena.IsRenamed ρ w.arena t (ρ t) := ⟨hthere t List.mem_cons_self, rfl⟩
      obtain ⟨data, hdata⟩ := h.struct n _ t layout hn rfl
      dsimp only [Node.rename, Shape.rename]
      split
      · refine (mirrors_guarded (R := fun _ _ _ _ => True) h fun nested w₀ w₀' h₀ harena => ?_).bind
          fun ρ₁ w₁ w₁' _ _ h₁ hextends _ => mirrors_pure h₁ (ht.extends hextends)
        split
        · exact mirrors_modifyLayout h₀ n Layout.looped
        · refine (mirrors_mapM (fun m : Member => ih m.type true) h₀ layout.members).bind
            fun ρ₁ w₁ w₁' ts us h₁ hextends hts => ?_
          rw [harena] at hextends
          obtain ⟨data', hdata', -⟩ := hextends.grows.struct hdata
          rw [← hextends.eq t ht.1]
          exact mirrors_layOut h₁ hdata' hts n
      · exact mirrors_pure h ht

/-- **Producing a node in two workspaces that differ in handles.** -/
theorem Workspace.Renamed.produce {old : TypeArena} {ρ : Ty → Ty} {w w' : Workspace}
    (h : Workspace.Renamed old ρ w w') (n : NodeId) (complete : Bool) :
    ∃ ρ₁, Workspace.Renamed old ρ₁ (w.produce n complete).2 (w'.produce n complete).2 ∧
      Extends w.arena ρ (w.produce n complete).2.arena ρ₁ ∧
      Agrees (TypeArena.IsRenamed ρ₁ (w.produce n complete).2.arena) (w.produce n complete).1
        (w'.produce n complete).1 := by
  have hrun (w : Workspace) : produceWithin w.depth n complete w = some (w.produce n complete) :=
    (Option.some_get _).symm
  obtain ⟨ρ₁, result', w₁', hrun', hrenamed, hextends, hagrees⟩ :=
    produceWithin_mirrors w.depth n complete ρ w w' h _ _ (hrun w)
  rw [← h.depth, hrun w', Option.some.injEq] at hrun'
  rw [hrun']
  exact ⟨ρ₁, hrenamed, hextends, hagrees⟩

end ShaderLowering
