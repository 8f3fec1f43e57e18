import ShaderLowering.Proofs.TypeGraph.Completion
import ShaderLowering.Proofs.TypeGraph.SelfContainment

/-!
# Only what is contained by value is completed

Whoever asks for the complete type of a node wants the structs in it laid out that the node
contains by value. No others are: a request that does not want anything complete completes no
struct and gives no type a body, and one that does completes only structs that the node
contains, whether or not it is answered in the end (`ShaderLowering.Produced.touchesOnly`).
Nothing is assumed of the workspace, which may be in the middle of other productions.

What a request touches is stated for any set of nodes that has the structs in question among
its members. The set does not change from a request to those inside, whose nodes contain no
more than that of the request does, so that all of them can be put together one after another.

Over a whole history, every struct that was completed is contained in a node whose complete
type was asked for (`ShaderLowering.Workspace.isComplete_run`).
-/

namespace ShaderLowering

/-- A former gives rise to structural data. -/
theorem Former.isStructural_of_data? {former : Former} {types : List Ty} {data : TypeData}
    (h : former.data? types = some data) : data.IsStructural := by
  unfold data? at h
  split at h
  · exact Option.some.inj h ▸ trivial
  · exact Option.some.inj h ▸ trivial
  · exact Option.some.inj h ▸ trivial
  · exact nomatch h

namespace TypeArena

variable {a b c : TypeArena} {t : Ty} {d : TypeData}

/-! ### Types that get no body -/

/-- The type is what it was, or was made in the meantime and is no struct. -/
def Spares (a b : TypeArena) (t : Ty) : Prop :=
  b.data? t = a.data? t ∨ a.data? t = none ∧ ∃ d, b.data? t = some d ∧ d.IsStructural

theorem Spares.refl (a : TypeArena) (t : Ty) : a.Spares a t :=
  Or.inl rfl

theorem Spares.trans (h : a.Spares b t) (h' : b.Spares c t) : a.Spares c t := by
  rcases h' with heq | ⟨hnone, hnew⟩
  · rw [Spares, heq]
    exact h
  · rcases h with heq | ⟨-, d, hd, -⟩
    · exact Or.inr ⟨heq.symm.trans hnone, hnew⟩
    · exact absurd (hnone.symm.trans hd) nofun

/-- A type that was there is what it was. -/
theorem Spares.data? (h : a.Spares b t) (ht : a.data? t = some d) : b.data? t = some d := by
  rcases h with heq | ⟨hnone, -⟩
  · exact heq.trans ht
  · exact absurd (hnone.symm.trans ht) nofun

/-- No body has been given to the type. -/
theorem Spares.body?_eq (h : a.Spares b t) : b.body? t = a.body? t := by
  rcases h with heq | ⟨hnone, d, hd, hstructural⟩
  · rw [body?, struct?, heq, body?, struct?]
  · rw [body?, struct?, hd, body?, struct?, hnone]
    cases d with
    | struct data => exact hstructural.elim
    | _ => rfl

theorem spares_intern (a : TypeArena) (hd : d.IsStructural) (t : Ty) :
    a.Spares (a.intern d).2 t := by
  rcases a.intern_cases d with ⟨-, heq⟩ | ⟨-, heq⟩
  · rw [heq]
    exact .refl a t
  · rw [heq, Spares, data?_push]
    split
    · rename_i hindex
      exact Or.inr ⟨data?_eq_none_iff.mpr (Nat.le_of_eq hindex.symm), d, rfl, hd⟩
    · exact Or.inl rfl

theorem spares_setBody {s : Ty} {members : List Ty} {packed : Bool}
    (h : a.setBody s members packed = .ok b) (hne : t ≠ s) : a.Spares b t := by
  obtain ⟨_, _, -, hdata⟩ := data?_setBody h
  exact Or.inl (by rw [hdata, if_neg hne])

end TypeArena

namespace Workspace

variable {touched : NodeId → Prop} {u w w' : Workspace} {n m s : NodeId} {t : Ty}

/-! ### What is touched -/

/-- **Nothing is touched but the given nodes**: no other struct is completed, and a type that
is not that of a struct among them gets no body. -/
structure TouchesOnly (touched : NodeId → Prop) (w w' : Workspace) : Prop where
  skeleton : w'.skeleton = w.skeleton
  complete : ∀ s, w'.IsComplete s → w.IsComplete s ∨ touched s
  types : ∀ t, w.arena.Spares w'.arena t ∨ ∃ s, touched s ∧ w.structType? s = some t

namespace TouchesOnly

theorem refl (w : Workspace) : w.TouchesOnly touched w :=
  ⟨rfl, fun _ => Or.inl, fun t => Or.inl (.refl _ t)⟩

theorem trans (h : u.TouchesOnly touched w) (h' : w.TouchesOnly touched w') :
    u.TouchesOnly touched w' := by
  refine ⟨h'.skeleton.trans h.skeleton, fun s hs => ?_, fun t => ?_⟩
  · exact (h'.complete s hs).elim (h.complete s) Or.inr
  · have hlater := h'.types t
    rw [structType?_of_skeleton_eq h.skeleton] at hlater
    rcases h.types t with hspares | htouched
    · exact hlater.imp_left hspares.trans
    · exact Or.inr htouched

end TouchesOnly

theorem touchesOnly_enter (w : Workspace) (n : NodeId) : w.TouchesOnly touched (w.enter n) := by
  refine ⟨w.skeleton_enter n, fun s hs => Or.inl ?_, fun t => Or.inl (.refl _ t)⟩
  rwa [isComplete_enter] at hs

theorem touchesOnly_leave (w : Workspace) (n : NodeId) : w.TouchesOnly touched (w.leave n) := by
  refine ⟨w.skeleton_leave n, fun s hs => Or.inl ?_, fun t => Or.inl (.refl _ t)⟩
  rwa [isComplete_leave] at hs

/-- To be found within itself does not complete a struct. -/
theorem touchesOnly_looped (w : Workspace) (n : NodeId) :
    w.TouchesOnly touched (w.modify n fun node => node.mapLayout Layout.looped) :=
  ⟨w.skeleton_looped n, fun _ hs => Or.inl (isComplete_looped hs), fun t => Or.inl (.refl _ t)⟩

theorem touchesOnly_form (w : Workspace) (n : NodeId) {data : TypeData}
    (hdata : data.IsStructural) : w.TouchesOnly touched (w.form n data) := by
  refine ⟨w.skeleton_form n data, fun s hs => Or.inl ?_,
    fun t => Or.inl (w.arena.spares_intern hdata t)⟩
  rwa [isComplete_form] at hs

/-- To lay a struct out touches the struct alone. -/
theorem touchesOnly_layOut {types : List Ty} {arena : TypeArena} (hn : touched n)
    (hs : w.structType? n = some t) (hb : w.arena.setBody t types false = .ok arena) :
    w.TouchesOnly touched (w.layOut n arena) := by
  refine ⟨w.skeleton_layOut n arena, fun s hc => ?_, fun u => ?_⟩
  · rcases isComplete_layOut hc with hc | rfl
    · exact Or.inl hc
    · exact Or.inr hn
  · by_cases hut : u = t
    · exact Or.inr ⟨n, hn, hut ▸ hs⟩
    · exact Or.inl (TypeArena.spares_setBody hb hut)

/-- The nodes that are touched have the structs among them that a request may complete. -/
def Covers (touched : NodeId → Prop) (r : Request) (w : Workspace) : Prop :=
  ∀ s, r.complete = true → w.Contains r.node s → touched s

theorem Covers.congr {r : Request} (h : Covers touched r w) (hskeleton : w'.skeleton = w.skeleton) :
    Covers touched r w' := by
  intro s hc hs
  rw [contains_congr hskeleton] at hs
  exact h s hc hs

/-- A request inside asks for what the node holds, and wants it complete only if the node has
to be. -/
theorem Covers.inner {complete : Bool} {r : Request} {node : Node}
    (h : Covers touched ⟨n, complete⟩ w) (hn : w.node? n = some node) (ho : node.Opens complete)
    (hr : r ∈ node.requests complete) : Covers touched r w := by
  intro s hc hs
  obtain ⟨hcomplete, hholds⟩ := holds_of_mem_requests hn ho hr hc
  exact h s hcomplete (.head hholds hs)

end Workspace

/-- **A request touches only what its node contains**, and nothing if it does not want a
complete type. -/
theorem Produced.touchesOnly {touched : NodeId → Prop} {r : Request} {w w' : Workspace}
    {result : Except Diagnostic Ty} (h : Produced r w result w')
    (hr : Workspace.Covers touched r w) : w.TouchesOnly touched w' := by
  refine h.induct (motive := fun r w _ w' => Workspace.Covers touched r w →
    w.TouchesOnly touched w') (fun {r w result w'} h hr => ?_) hr
  have hturn {n : NodeId} {complete : Bool} {node : Node} {w₁ : Workspace}
      {result : Except Diagnostic (List Ty)} (hr : Workspace.Covers touched ⟨n, complete⟩ w)
      (hn : w.node? n = some node) (ho : node.Opens complete)
      (h : InTurn (fun r w result w' => Produced r w result w' ∧
        (Workspace.Covers touched r w → w.TouchesOnly touched w'))
        (node.requests complete) (w.enter n) result w₁) : w.TouchesOnly touched w₁ :=
    (w.touchesOnly_enter n).trans (h.keeps_within .refl .trans
      (fun h _ hr => hr.congr h.skeleton_eq)
      fun r' hr' => (hr.inner hn ho hr').congr (w.skeleton_enter n))
  cases h with
  | missing | known | full | unbound => exact .refl w
  | nested => exact w.touchesOnly_looped _
  | failed hn ho h => exact (hturn hr hn ho h).trans (Workspace.touchesOnly_leave _ _)
  | looped hn hs ho h hl => exact (hturn hr hn ho h).trans (Workspace.touchesOnly_leave _ _)
  | refused hn hs ho h hl hb => exact (hturn hr hn ho h).trans (Workspace.touchesOnly_leave _ _)
  | formed hn hs ho h hd =>
    exact ((hturn hr hn ho h).trans (Workspace.touchesOnly_form _ _
      (Former.isStructural_of_data? hd))).trans (Workspace.touchesOnly_leave _ _)
  | @laidOut n complete w w₁ node t layout types arena hn hs ho h hl hb =>
    have hinner := hturn hr hn ho h
    -- the struct has the type that it had before its members were produced
    have htype : w₁.structType? n = some t := by
      rw [Workspace.structType?_of_skeleton_eq hinner.skeleton]
      exact Workspace.structType?_eq_some_iff.mpr
        ⟨layout, Workspace.shape?_eq_of_shape_eq hn hs⟩
    have hself : touched n := hr n (Workspace.opens_struct hs ho).1 .refl
    exact (hinner.trans (Workspace.touchesOnly_layOut hself htype hb)).trans
      (Workspace.touchesOnly_leave _ _)

namespace Workspace

variable {w w' : Workspace} {n s : NodeId} {t : Ty}

/-- A request that wants nothing complete touches nothing. -/
theorem touchesOnly_produce_false (w : Workspace) (n : NodeId) :
    w.TouchesOnly (fun _ => False) (w.produce n false).2 :=
  (w.produced n false).touchesOnly fun _ hc _ => nomatch hc

/-- A request for a complete type touches what the node contains. -/
theorem touchesOnly_produce (w : Workspace) (n : NodeId) (complete : Bool) :
    w.TouchesOnly (w.Contains n) (w.produce n complete).2 :=
  (w.produced n complete).touchesOnly fun _ _ hs => hs

/-- A request that wants nothing complete completes no struct. -/
theorem isComplete_produce_false (w : Workspace) (n s : NodeId) :
    (w.produce n false).2.IsComplete s ↔ w.IsComplete s :=
  ⟨fun hs => ((w.touchesOnly_produce_false n).complete s hs).elim id False.elim,
    (w.produced n false).graphGrows.isComplete⟩

/-- Nor does it give a type a body. -/
theorem body?_produce_false (w : Workspace) (n : NodeId) (t : Ty) :
    (w.produce n false).2.arena.body? t = w.arena.body? t := by
  rcases (w.touchesOnly_produce_false n).types t with hspares | ⟨_, hcon, -⟩
  · exact hspares.body?_eq
  · exact hcon.elim

/-- A request for a complete type completes only structs that the node contains. -/
theorem of_isComplete_produce (hs : (w.produce n true).2.IsComplete s) (hnot : ¬w.IsComplete s) :
    w.IsStruct s ∧ w.Contains n s := by
  have hstruct := isStruct_of_isComplete hs
  rw [isStruct_congr (w.produced n true).skeleton_eq] at hstruct
  exact ⟨hstruct, ((w.touchesOnly_produce n true).complete s hs).resolve_left hnot⟩

/-- And it gives bodies only to the types of such structs. -/
theorem of_body?_produce_ne (hne : (w.produce n true).2.arena.body? t ≠ w.arena.body? t) :
    ∃ s, w.structType? s = some t ∧ w.Contains n s := by
  rcases (w.touchesOnly_produce n true).types t with hspares | ⟨s, hs, ht⟩
  · exact absurd hspares.body?_eq hne
  · exact ⟨s, ht, hs⟩

/-! ### Histories -/

/-- What a node contains it goes on containing. -/
theorem GraphGrows.contains (h : w.GraphGrows w') (hs : w.Contains n s) : w'.Contains n s :=
  Relation.ReflTransGen.mono (fun _ _ => h.holds) _ _ hs

/-- **Only requests for complete types complete structs**, and only such structs as are
contained in what is asked for. -/
theorem Performs.isComplete {action : Action} (h : w.Performs action w')
    (hc : w'.IsComplete s) :
    w.IsComplete s ∨ ∃ n, action = .produce n true ∧ w.Contains n s := by
  rcases h.marks with ⟨n, complete, rfl, rfl⟩ | hmarks
  · cases complete with
    | false => exact Or.inl (((w.touchesOnly_produce_false n).complete s hc).elim id False.elim)
    | true =>
      exact ((w.touchesOnly_produce n true).complete s hc).imp_right fun hs => ⟨n, rfl, hs⟩
  · exact Or.inl ((hmarks s).1 hc)

/-- **Over a history, a struct is completed only as part of something whose complete type was
asked for.** -/
theorem isComplete_run (actions : List Action) (hc : (w.run actions).IsComplete s) :
    w.IsComplete s ∨
      ∃ n, .produce n true ∈ actions ∧ (w.run actions).Contains n s := by
  induction actions generalizing w with
  | nil => exact Or.inl hc
  | cons action actions ih =>
    rcases ih hc with hc | ⟨n, hn, hs⟩
    · refine ((w.performs action).isComplete hc).imp_right fun ⟨n, heq, hs⟩ => ?_
      exact ⟨n, heq ▸ List.mem_cons_self, (w.graphGrows_run (action :: actions)).contains hs⟩
    · exact Or.inr ⟨n, List.mem_cons_of_mem _ hn, hs⟩

end Workspace

end ShaderLowering
