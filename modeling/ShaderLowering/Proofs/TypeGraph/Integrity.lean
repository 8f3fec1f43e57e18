import ShaderLowering.Proofs.Target.Renaming
import ShaderLowering.Proofs.TypeGraph.Recursion

/-!
# Workspaces that are intact

A workspace is intact if nobody has meddled with it: what was produced is the image of what
is declared, no struct was given its body from outside, nodes refer to nodes that are there,
and the types that stand in the graph by themselves are types of the arena
(`ShaderLowering.Workspace.Intact`). Production leaves it so, and every workspace that comes
up in the course of a request is intact if the first one was
(`ShaderLowering.Asks.intact`).

Two things follow. Of what could be wrong with a request little is left: it comes to no end,
or it comes to a pointer without a pointee
(`ShaderLowering.Produced.cause_of_intact`). And no handle leads astray, because whatever
appears in the data of the type of a node is the type of a node again, so that one never gets
out of the arena by looking through a type (`ShaderLowering.Workspace.Intact.whole`). Nothing
is asked of the types that were there before for this: none of them is looked at that is not
the type of a node.
-/

namespace ShaderLowering

namespace TypeArena

variable {a : TypeArena} {t : Ty}

/-! ### Looking through types -/

/-- One type appears in the data of another. -/
def Shows (a : TypeArena) (t u : Ty) : Prop :=
  ∃ d, a.data? t = some d ∧ u ∈ d.parts

/-- **The type is in the arena, and so is whatever is seen by looking through it.** -/
def Whole (a : TypeArena) (t : Ty) : Prop :=
  ∀ u, Relation.ReflTransGen a.Shows t u → a.Has u

/-- Types of the arena that show nothing but each other are whole. -/
theorem whole_of_closed {S : Ty → Prop} (hhas : ∀ t, S t → a.Has t)
    (hshows : ∀ t u, S t → a.Shows t u → S u) (ht : S t) : a.Whole t := by
  intro u hu
  refine hhas u ?_
  induction hu with
  | refl => exact ht
  | tail _ hlast ih => exact hshows _ _ ih hlast

end TypeArena

/-- Whatever is among the parts of the image of a former is the type of one of the nodes that
it refers to. -/
theorem Former.Image.exists_ref {handle : NodeId → Option Ty} {former : Former}
    {data : TypeData} (hi : former.Image handle data) {t : Ty} (ht : t ∈ data.parts) :
    ∃ m ∈ former.refs, handle m = some t := by
  cases hi with
  | @pointer pointee storage type h =>
    obtain rfl : t = type := List.mem_singleton.mp ht
    exact ⟨pointee, List.mem_singleton_self _, h⟩
  | function hresult hparams =>
    rcases List.mem_cons.mp ht with rfl | ht
    · exact ⟨_, List.mem_cons_self, hresult⟩
    · obtain ⟨m, hm, hhandle⟩ := exists_of_forall₂_right hparams ht
      exact ⟨m, List.mem_cons_of_mem _ hm, hhandle⟩
  | @array element count type h =>
    obtain rfl : t = type := List.mem_singleton.mp ht
    exact ⟨element, List.mem_singleton_self _, h⟩

namespace Workspace

variable {w w' : Workspace} {n : NodeId} {node : Node} {t : Ty} {before shape : Shape}

/-! ### Types that stand by themselves -/

/-- The type is a structural one of the arena, made of types that nodes have. -/
def Bases (w : Workspace) (t : Ty) : Prop :=
  ∃ data, w.arena.data? t = some data ∧ data.IsStructural ∧
    ∀ u ∈ data.parts, ∃ m, w.handle? m = some u

/-- The types of nodes that refer to no other are in the arena, and made of types of nodes. -/
def Based (w : Workspace) : Prop :=
  ∀ n t, w.shape? n = some (.simple t) → w.Bases t

theorem Bases.keeps (h : w.Bases t) (hkeeps : w.Keeps w') : w'.Bases t := by
  obtain ⟨data, hdata, hstructural, hparts⟩ := h
  refine ⟨data, hkeeps.1.data? hdata hstructural, hstructural, fun u hu => ?_⟩
  obtain ⟨m, hm⟩ := hparts u hu
  exact ⟨m, hkeeps.2 m u hm⟩

theorem Based.keeps (h : w.Based) (hkeeps : w.Keeps w')
    (hback : ∀ n t, w'.shape? n = some (.simple t) → w.shape? n = some (.simple t)) :
    w'.Based :=
  fun n t hs => (h n t (hback n t hs)).keeps hkeeps

theorem Based.of_skeleton_eq (h : w.Based) (hkeeps : w.Keeps w')
    (hskeleton : w'.skeleton = w.skeleton) : w'.Based :=
  h.keeps hkeeps fun _ _ => simple_of_skeleton_eq hskeleton.symm

theorem based_empty (arena : TypeArena) : ({ arena } : Workspace).Based := by
  intro n t hs
  simp [shape?, node?] at hs

theorem Based.add (h : w.Based) (hnew : ∀ t, node.shape = .simple t → w.Bases t) :
    (w.add node).2.Based := by
  intro n t hs
  refine Bases.keeps ?_ (w.keeps_add node)
  rw [shape?_add] at hs
  split at hs
  · exact hnew t (Option.some.inj hs)
  · exact h n t hs

theorem Based.reshape (h : w.Based) (hs : w.shape? n = some before)
    (hhandle : shape.handle? = before.handle?) (hnot : ∀ t, shape ≠ .simple t) :
    (w.reshape n shape).Based := by
  refine h.keeps (keeps_reshape hs hhandle) fun m t hm => ?_
  rw [shape?_reshape hs] at hm
  split at hm
  · exact absurd (Option.some.inj hm) (hnot t)
  · exact hm

/-- To make a structural type takes no type away. -/
theorem keeps_intern (w : Workspace) (data : TypeData) :
    w.Keeps { w with arena := (w.arena.intern data).2 } :=
  ⟨w.arena.grows_intern data, fun _ _ h => h⟩

/-- To make a struct takes no type away. -/
theorem keeps_struct (w : Workspace) (name : String) :
    w.Keeps { w with arena := (w.arena.struct name).2 } :=
  ⟨w.arena.grows_push _, fun _ _ h => h⟩

/-! ### Intact workspaces -/

/-- **Nobody has meddled with the workspace.** -/
structure Intact (w : Workspace) : Prop where
  faithful : w.Faithful
  untouched : ∀ n, w.Untouched n
  closed : w.Closed
  based : w.Based

theorem Intact.enter (h : w.Intact) (n : NodeId) : (w.enter n).Intact where
  faithful := h.faithful.congr (w.shape?_enter n) rfl
  untouched m := (h.untouched m).congr (w.shape?_enter n) rfl
  closed := h.closed.congr (w.skeleton_enter n)
  based := h.based.of_skeleton_eq (.congr (w.shape?_enter n) rfl) (w.skeleton_enter n)

/-- **The type of a node is in the arena, and made of types of nodes.** -/
theorem Intact.exists_data (h : w.Intact) (ht : w.handle? n = some t) :
    ∃ data, w.arena.data? t = some data ∧ ∀ u ∈ data.parts, ∃ m, w.handle? m = some u := by
  obtain ⟨shape, hs, hhandle⟩ := Option.bind_eq_some_iff.mp ht
  cases shape with
  | simple type =>
    obtain rfl := Option.some.inj hhandle
    obtain ⟨data, hdata, -, hparts⟩ := h.based n type hs
    exact ⟨data, hdata, hparts⟩
  | formed former made =>
    obtain rfl : made = some t := hhandle
    obtain ⟨data, hdata, hi⟩ := h.faithful.formed n former t hs
    exact ⟨data, hdata, fun u hu => (hi.exists_ref hu).imp fun _ hm => hm.2⟩
  | struct type layout =>
    obtain rfl := Option.some.inj hhandle
    obtain ⟨data, hdata, hl⟩ := h.faithful.struct n type layout hs
    refine ⟨_, hdata, fun u hu => ?_⟩
    rw [TypeData.parts] at hu
    cases hc : layout.complete with
    | true =>
      obtain ⟨types, hbody, htypes⟩ := hl.body hc
      rw [hbody] at hu
      obtain ⟨m, -, hm⟩ := exists_of_forall₂_right htypes hu
      exact ⟨m, hm⟩
    -- a struct that is not complete has no body
    | false =>
      obtain ⟨name, packed, hnone⟩ := h.untouched n type layout hs hc
      obtain rfl : data = ⟨name, none, packed⟩ :=
        TypeData.struct.inj (Option.some.inj (hdata.symm.trans hnone))
      exact absurd hu List.not_mem_nil

/-- The types of all nodes are whole. -/
def Whole (w : Workspace) : Prop :=
  ∀ n t, w.handle? n = some t → w.arena.Whole t

/-- **The types of the nodes of an intact workspace are whole.** -/
theorem Intact.whole (h : w.Intact) : w.Whole := by
  intro n t ht
  refine TypeArena.whole_of_closed (S := fun t => ∃ n, w.handle? n = some t) ?_ ?_ ⟨n, ht⟩
  · rintro t ⟨n, ht⟩
    obtain ⟨data, hdata, -⟩ := h.exists_data ht
    exact TypeArena.has_of_data? hdata
  · rintro t u ⟨n, ht⟩ ⟨data, hdata, hu⟩
    obtain ⟨data', hdata', hparts⟩ := h.exists_data ht
    obtain rfl := Option.some.inj (hdata.symm.trans hdata')
    exact hparts u hu

end Workspace

open Workspace

variable {r r' : Request} {w w₁ w' : Workspace}

/-! ### In the course of a request -/

/-- **Production leaves a workspace intact.** -/
theorem Produced.intact {result : Except Diagnostic Ty} (h : Produced r w result w')
    (hw : w.Intact) : w'.Intact where
  faithful := (h.imaged hw.faithful).1
  untouched n := h.untouched hw.faithful (hw.untouched n)
  closed := hw.closed.congr h.skeleton_eq
  based := hw.based.of_skeleton_eq (h.imaged hw.faithful).2.1 h.skeleton_eq

theorem InTurn.intact {rs : List Request} {result : Except Diagnostic (List Ty)}
    (h : InTurn Produced rs w result w') (hw : w.Intact) : w'.Intact :=
  (h.imp fun _ _ _ _ h => h.intact).keeps (R := fun w w' => w.Intact → w'.Intact)
    (fun _ => id) (fun h h' => h' ∘ h) hw

/-- **A workspace that comes up in the course of a request is intact.** -/
theorem Asks.intact (h : Asks r w r' w₁) (hw : w.Intact) : w₁.Intact := by
  induction h with
  | self => exact hw
  | @inner n _ _ _ _ _ _ _ _ _ _ _ _ _ hbefore _ ih => exact ih (hbefore.intact (hw.enter n))

/-- What is answered is whole. -/
theorem Produced.whole {t : Ty} (h : Produced r w (.ok t) w') (hw : w.Intact) :
    w'.arena.Whole t :=
  (h.intact hw).whole r.node t ((h.imaged hw.faithful).2.2 t rfl)

/-! ### What can be wrong with a request -/

/-- **A request for a node of an intact workspace** is reported only because it comes to no
end, or to a pointer without a pointee. -/
theorem Produced.cause_of_intact {e : Diagnostic} (h : Produced r w (.error e) w')
    (hw : w.Intact) (hr : (w.node? r.node).isSome) :
    e.cause = .tooManyRecursions ∨ e.cause = .unboundPointer := by
  refine h.induct (motive := fun r w result _ => ∀ e, result = .error e → w.Intact →
    (w.node? r.node).isSome → e.cause = .tooManyRecursions ∨ e.cause = .unboundPointer)
    (fun {r w result w'} h => ?_) e rfl hw hr
  intro e he hw hr
  cases h with
  | known | nested | formed | laidOut => exact nomatch he
  | missing hn =>
    rw [hn] at hr
    exact absurd hr (by simp)
  | full | looped =>
    cases he
    exact Or.inl rfl
  | unbound =>
    cases he
    exact Or.inr rfl
  | @failed n complete w w₁ node d hn ho h =>
    cases he
    obtain ⟨before, r, after, types, w₂, hrs, hbefore, -, hinner⟩ := h.split_error
    obtain ⟨-, -, hthere⟩ := hw.closed.inner hn hrs hbefore.left
    exact hinner e rfl (hbefore.left.intact (hw.enter n)) hthere
  -- a struct that is laid out has no body yet
  | @refused n complete w w₁ node t layout types fault hn hs ho h hl hb =>
    have hproduced := h.left
    have hw₁ := hproduced.intact (hw.enter n)
    obtain ⟨layout₁, hs₁, -⟩ := struct_of_skeleton_eq
      (hproduced.skeleton_eq.trans (w.skeleton_enter n)) (shape?_eq_of_shape_eq hn hs)
    obtain ⟨arena, harena⟩ := (hw₁.untouched n).exists_setBody hs₁
      (hproduced.not_isComplete hn hs ho) types
    exact nomatch hb.symm.trans harena

end ShaderLowering
