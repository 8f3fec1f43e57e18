import ShaderLowering.Proofs.TypeGraph.Completion
import ShaderLowering.Proofs.TypeGraph.Stability

/-!
# Structs that lie within themselves

A struct that contains itself by value has no layout. Production notices when it comes back
to a struct that is being laid out: the opaque type stands in, the struct is marked, and its
own layout fails in the end. The structs that were passed on the way back are laid out
nevertheless, so that a struct on such a cycle may well be complete
(`ShaderLowering.Workspace.run_complete_within_itself`). What holds is that the cycle has a
marked struct on it, which never is complete
(`ShaderLowering.Workspace.run_complete_cycle_marked`).

The reason is the order in which structs are completed. When a struct is laid out, whatever
struct is *met* in it – found in it by value, with no other struct in between – has just been
answered, and is complete or marked. So a struct that is completed is met in none that is
complete already, and no cycle of complete structs is ever closed.

This relies on the answers being right. An array or a function that has a type is answered by
it, whatever is asked for: if the type was made when nothing had to be complete, the structs
met in it may be neither complete nor marked, and a struct is laid out over them. A history in
which that happened is left out, but only for the structs that hold the array or the function
that was answered so (`ShaderLowering.Workspace.KnownClear`). What happened to other arrays and
functions does not matter, and that a marked struct is not complete holds in every history.
-/

namespace ShaderLowering

namespace Workspace

variable {w w' : Workspace} {n m s : NodeId} {node : Node} {r : Request} {among : NodeId → Prop}

/-! ### The structs met in a node -/

/-- **A struct is met in a node**: the way to it goes through no other struct. -/
inductive Meets (w : Workspace) : NodeId → NodeId → Prop
  /-- A struct is met in itself. -/
  | struct {s : NodeId} (hs : w.IsStruct s) : Meets w s s
  /-- It is met in something that the node, being no struct, holds. -/
  | held {n m s : NodeId} (hn : ¬w.IsStruct n) (hm : w.Holds n m) (h : Meets w m s) :
    Meets w n s

/-- The structs met in a node are complete, or were found among their own members. -/
def Clear (w : Workspace) (n : NodeId) : Prop :=
  ∀ s, w.Meets n s → w.IsComplete s ∨ w.Looped s

/-- One complete struct is met in what another one holds. -/
def Nests (w : Workspace) (n s : NodeId) : Prop :=
  w.IsComplete n ∧ w.IsComplete s ∧ ∃ m, w.Holds n m ∧ w.Meets m s

/-- What nodes of one kind hold is of that kind too. -/
def Encloses (w : Workspace) (among : NodeId → Prop) : Prop :=
  ∀ n m, among n → w.Holds n m → among m

/-- **What is true of complete structs.** None of them was found among its own members. Among
the nodes of some kind, what they hold is clear, and there is no cycle of them. -/
structure Tidy (w : Workspace) (among : NodeId → Prop) : Prop where
  unmarked : ∀ n, w.IsComplete n → ¬w.Looped n
  clear : ∀ n m, among n → w.IsComplete n → w.Holds n m → w.Clear m
  acyclic : ∀ n, among n → ¬Relation.TransGen w.Nests n n

/-- Where an array or a function of some kind is asked for in the course of a request, is to be
complete, and is answered by a type it has, it is clear: the structs met in it are complete, or
marked. This fails only where the type was made when they had not to be complete, and they have
not been completed since. -/
def KnownClear (w : Workspace) (among : NodeId → Prop) (r : Request) : Prop :=
  ∀ m w₁, Asks r w ⟨m, true⟩ w₁ → among m → ¬w₁.IsStruct m → w₁.Knows m → w₁.Clear m

theorem Meets.eq_of_isStruct (h : w.Meets n s) (hn : w.IsStruct n) : s = n := by
  cases h with
  | struct => rfl
  | held hnot => exact absurd hn hnot

theorem meets_congr (h : w'.skeleton = w.skeleton) : w'.Meets = w.Meets := by
  have hiff {u v : Workspace} (h : v.skeleton = u.skeleton) {n s : NodeId} (hs : v.Meets n s) :
      u.Meets n s := by
    induction hs with
    | struct hs => exact .struct (isStruct_congr h ▸ hs)
    | held hn hm _ ih => exact .held (isStruct_congr h ▸ hn) (holds_congr h ▸ hm) ih
  funext n s
  exact propext ⟨hiff h, hiff h.symm⟩

/-- A struct is clear if it is complete itself, or marked. -/
theorem clear_of_isStruct (hn : w.IsStruct n) (h : w.IsComplete n ∨ w.Looped n) : w.Clear n := by
  intro s hs
  rw [hs.eq_of_isStruct hn]
  exact h

/-- What is no struct is clear if all that it holds is. -/
theorem clear_of_holds (hn : ¬w.IsStruct n) (h : ∀ m, w.Holds n m → w.Clear m) : w.Clear n := by
  intro s hs
  cases hs with
  | struct hstruct => exact absurd hstruct hn
  | held _ hm hs => exact h _ hm s hs

/-- What a clear node holds is clear, if the node is no struct. -/
theorem Clear.of_holds (h : w.Clear n) (hn : ¬w.IsStruct n) (hm : w.Holds n m) : w.Clear m :=
  fun s hs => h s (.held hn hm hs)

theorem Clear.grows (h : w.Clear n) (hgrows : w.GraphGrows w')
    (hskeleton : w'.skeleton = w.skeleton) : w'.Clear n := by
  intro s hs
  rw [meets_congr hskeleton] at hs
  exact (h s hs).imp hgrows.isComplete hgrows.looped

theorem isStruct_of_isComplete (h : w.IsComplete n) : w.IsStruct n := by
  obtain ⟨layout, hlayout, -⟩ := h
  obtain ⟨t, hs⟩ := layout?_eq_some_iff.mp hlayout
  exact ⟨t, layout, hs⟩

theorem encloses_congr (h : w'.skeleton = w.skeleton) : w'.Encloses = w.Encloses := by
  funext among
  rw [Encloses, Encloses, holds_congr h]

/-- What a workspace that grew encloses was enclosed before. -/
theorem GraphGrows.encloses (h : w.GraphGrows w') (hamong : w'.Encloses among) :
    w.Encloses among :=
  fun n m hn hm => hamong n m hn (h.holds hm)

/-- What is met in something a node holds is of the node's kind too. -/
theorem Encloses.nests (h : w.Encloses among) (hn : among n) (hs : w.Nests n s) : among s := by
  have hmeets {m s : NodeId} (hs : w.Meets m s) (hm : among m) : among s := by
    induction hs with
    | struct => exact hm
    | held _ hl _ ih => exact ih (h _ _ hm hl)
  obtain ⟨-, -, m, hm, hs⟩ := hs
  exact hmeets hs (h n m hn hm)

/-- Where a way leads to a complete struct and past none that is marked, a complete struct is
met first, and complete ones only from there on. -/
theorem Tidy.exists_meets (hw : w.Tidy among) (hamong : w.Encloses among) (hs : w.IsComplete s)
    (hway : Relation.ReflTransGen (fun a b => w.Holds a b ∧ ¬w.Looped a) n s) (ha : among n)
    (hn : w.Clear n) :
    ∃ l, w.Meets n l ∧ w.IsComplete l ∧ Relation.ReflTransGen w.Nests l s := by
  induction hway using Relation.ReflTransGen.head_induction_on with
  | refl => exact ⟨s, .struct (isStruct_of_isComplete hs), hs, .refl⟩
  | @head a b hab _ ih =>
    have hb := hamong a b ha hab.1
    by_cases hstruct : w.IsStruct a
    · have hcomplete : w.IsComplete a := (hn a (.struct hstruct)).resolve_right hab.2
      obtain ⟨l, hl, hlc, hrest⟩ := ih hb (hw.clear a b ha hcomplete hab.1)
      exact ⟨a, .struct hstruct, hcomplete, .head ⟨hcomplete, hlc, b, hab.1, hl⟩ hrest⟩
    · obtain ⟨l, hl, hlc, hrest⟩ := ih hb (hn.of_holds hstruct hab.1)
      exact ⟨l, .held hstruct hab.1 hl, hlc, hrest⟩

/-- **A complete struct gets back to itself through a marked one only.** -/
theorem Tidy.not_transGen (hw : w.Tidy among) (hamong : w.Encloses among) (ha : among s)
    (hs : w.IsComplete s) : ¬Relation.TransGen (fun a b => w.Holds a b ∧ ¬w.Looped a) s s := by
  intro hcon
  obtain ⟨b, ⟨hb, -⟩, hback⟩ := Relation.TransGen.head'_iff.mp hcon
  obtain ⟨l, hl, hlc, hway⟩ :=
    hw.exists_meets hamong hs hback (hamong s b ha hb) (hw.clear s b ha hs hb)
  exact hw.acyclic s ha (.head' ⟨hs, hlc, b, hb, hl⟩ hway)

/-! ### What a production does -/

theorem Tidy.congr (hw : w.Tidy among) (hlayout : w'.layout? = w.layout?)
    (hskeleton : w'.skeleton = w.skeleton) : w'.Tidy among := by
  have hcomplete := isComplete_congr hlayout
  have hlooped := looped_congr hlayout
  have hclear : w'.Clear = w.Clear := by
    funext n
    rw [Clear, Clear, meets_congr hskeleton, hcomplete, hlooped]
  have hnests : w'.Nests = w.Nests := by
    funext n s
    rw [Nests, Nests, meets_congr hskeleton, holds_congr hskeleton, hcomplete]
  refine ⟨?_, ?_, ?_⟩
  · rw [hcomplete, hlooped]
    exact hw.unmarked
  · rw [hcomplete, holds_congr hskeleton, hclear]
    exact hw.clear
  · rw [hnests]
    exact hw.acyclic

/-- A struct that is not complete is marked. -/
theorem Tidy.looped (hw : w.Tidy among) (hn : ¬w.IsComplete n) :
    (w.modify n fun node => node.mapLayout Layout.looped).Tidy among := by
  have hskeleton := w.skeleton_looped n
  have hgrows : w.GraphGrows (w.modify n fun node => node.mapLayout Layout.looped) :=
    .modify fun node => node.grows_mapLayout Layout.grows_looped
  refine ⟨fun s hs hl => ?_, fun s m ha hs hm => ?_, fun s ha hcon => ?_⟩
  · rcases looped_looped hl with hl | rfl
    · exact hw.unmarked s (isComplete_looped hs) hl
    · exact hn (isComplete_looped hs)
  · rw [holds_congr hskeleton] at hm
    exact (hw.clear s m ha (isComplete_looped hs) hm).grows hgrows hskeleton
  · refine hw.acyclic s ha (Relation.TransGen.mono (fun a b hab => ?_) s s hcon)
    obtain ⟨ha, hb, m, hm, hmb⟩ := hab
    rw [holds_congr hskeleton] at hm
    rw [meets_congr hskeleton] at hmb
    exact ⟨isComplete_looped ha, isComplete_looped hb, m, hm, hmb⟩

/-- **A struct is laid out whose members are clear.** It is met in no struct that is complete,
not even in itself, so that no cycle is closed. -/
theorem Tidy.layOut (hw : w.Tidy among) {arena : TypeArena} (hamong : w.Encloses among)
    (hc : ¬w.IsComplete n) (hl : ¬w.Looped n)
    (hmembers : among n → ∀ m, w.Holds n m → w.Clear m) : (w.layOut n arena).Tidy among := by
  have hskeleton := w.skeleton_layOut n arena
  have hgrows := w.graphGrows_layOut n arena
  have hclear {a m : NodeId} (ha : among a) (hcomplete : (w.layOut n arena).IsComplete a)
      (hm : w.Holds a m) : w.Clear m := by
    rcases isComplete_layOut hcomplete with hcomplete | rfl
    · exact hw.clear a m ha hcomplete hm
    · exact hmembers ha m hm
  -- whatever is met in a complete struct was complete before
  have hbefore {a b : NodeId} (ha : among a) (hab : (w.layOut n arena).Nests a b) :
      w.IsComplete b := by
    obtain ⟨hcomplete, hb, m, hm, hmb⟩ := hab
    rw [holds_congr hskeleton] at hm
    rw [meets_congr hskeleton] at hmb
    rcases isComplete_layOut hb with hb | rfl
    · exact hb
    · exact absurd (hclear ha hcomplete hm b hmb) (not_or.mpr ⟨hc, hl⟩)
  have hnests {a b : NodeId} (ha : among a) (hcomplete : w.IsComplete a)
      (hab : (w.layOut n arena).Nests a b) : w.Nests a b := by
    have hb := hbefore ha hab
    obtain ⟨-, -, m, hm, hmb⟩ := hab
    rw [holds_congr hskeleton] at hm
    rw [meets_congr hskeleton] at hmb
    exact ⟨hcomplete, hb, m, hm, hmb⟩
  refine ⟨fun s hs hcon => ?_, fun s m ha hs hm => ?_, fun s hsa hcon => ?_⟩
  · rcases isComplete_layOut hs with hs | rfl
    · exact hw.unmarked s hs (looped_layOut hcon)
    · exact hl (looped_layOut hcon)
  · rw [holds_congr hskeleton] at hm
    exact (hclear ha hs hm).grows hgrows hskeleton
  · -- each struct of a cycle is met in another one of it
    have hafter : (w.layOut n arena).Encloses among := encloses_congr hskeleton ▸ hamong
    have hmem {b : NodeId} (hb : Relation.ReflTransGen (w.layOut n arena).Nests s b) :
        among b := by
      induction hb with
      | refl => exact hsa
      | tail _ hab ih => exact hafter.nests ih hab
    have hs : w.IsComplete s := by
      obtain ⟨a, hsa, has⟩ := Relation.TransGen.tail'_iff.mp hcon
      exact hbefore (hmem hsa) has
    have hway {b : NodeId} (hb : Relation.TransGen (w.layOut n arena).Nests s b) :
        Relation.TransGen w.Nests s b ∧ w.IsComplete b := by
      induction hb with
      | single hab => exact ⟨.single (hnests hsa hs hab), hbefore hsa hab⟩
      | tail hway hab ih =>
        have ha := hmem hway.to_reflTransGen
        exact ⟨ih.1.tail (hnests ha ih.2 hab), hbefore ha hab⟩
    exact hw.acyclic s hsa (hway hcon).1

end Workspace

/-- What a request does to a tidy workspace: it stays so, and a node whose complete type was
answered is clear. -/
def Clears (among : NodeId → Prop) : Answers := fun r w result w' =>
  w.Encloses among → w.KnownClear among r → w.Tidy among →
    w'.Tidy among ∧
      (among r.node → r.complete = true → (∃ t, result = .ok t) → w'.Clear r.node)

section

variable {among : NodeId → Prop}

theorem InTurn.tidy {rs : List Request} {w w' : Workspace} {result : Except Diagnostic (List Ty)}
    (h : InTurn (fun r w result w' => Produced r w result w' ∧ Clears among r w result w')
      rs w result w') (hamong : w.Encloses among)
    (hknown : ∀ before r after types w₁, rs = before ++ r :: after →
      InTurn Produced before w (.ok types) w₁ → w₁.KnownClear among r) (hw : w.Tidy among) :
    w'.Tidy among ∧ ∀ r ∈ rs, among r.node → r.complete = true →
      (∃ types, result = .ok types) → w'.Clear r.node := by
  have hlater {r₀ : Request} {rs : List Request} {w w₁ : Workspace} {t : Ty}
      (head : Produced r₀ w (.ok t) w₁)
      (hknown : ∀ before r after types w₂, r₀ :: rs = before ++ r :: after →
        InTurn Produced before w (.ok types) w₂ → w₂.KnownClear among r) :
      ∀ before r after types w₂, rs = before ++ r :: after →
        InTurn Produced before w₁ (.ok types) w₂ → w₂.KnownClear among r :=
    fun before r after types w₂ hrs hbefore =>
      hknown (r₀ :: before) r after (t :: types) w₂ (by rw [hrs]; rfl) (.cons head hbefore)
  induction h with
  | nil w => exact ⟨hw, nofun⟩
  | stop head => exact ⟨(head.2 hamong (hknown [] _ _ [] _ rfl (.nil _)) hw).1, nofun⟩
  | stopLater head _ ih =>
    have hw₁ := (head.2 hamong (hknown [] _ _ [] _ rfl (.nil _)) hw).1
    have hamong₁ := Workspace.encloses_congr head.1.skeleton_eq ▸ hamong
    exact ⟨(ih hamong₁ (hlater head.1 hknown) hw₁).1, nofun⟩
  | cons head tail ih =>
    obtain ⟨hw₁, hclear⟩ := head.2 hamong (hknown [] _ _ [] _ rfl (.nil _)) hw
    have hamong₁ := Workspace.encloses_congr head.1.skeleton_eq ▸ hamong
    obtain ⟨hw', hrest⟩ := ih hamong₁ (hlater head.1 hknown) hw₁
    refine ⟨hw', fun r hr ha hc hok => ?_⟩
    rcases List.mem_cons.mp hr with rfl | hr
    · exact (hclear ha hc ⟨_, rfl⟩).grows tail.left.graphGrows tail.left.skeleton_eq
    · exact hrest r hr ha hc ⟨_, rfl⟩

/-- **Production leaves a tidy workspace tidy**, and what it answers clear. -/
theorem Produced.clears {r : Request} {w w' : Workspace} {result : Except Diagnostic Ty}
    (h : Produced r w result w') : Clears among r w result w' := by
  refine h.induct (motive := Clears among) fun {r w result w'} h hamong hknown hw => ?_
  have hturn {n : NodeId} {complete : Bool} {node : Node} {w₁ : Workspace}
      {result : Except Diagnostic (List Ty)} (hamong : w.Encloses among)
      (hknown : w.KnownClear among ⟨n, complete⟩)
      (hn : w.node? n = some node) (ho : node.Opens complete)
      (h : InTurn (fun r w result w' => Produced r w result w' ∧ Clears among r w result w')
        (node.requests complete) (w.enter n) result w₁) :
      w₁.Tidy among ∧ ∀ r ∈ node.requests complete, among r.node → r.complete = true →
        (∃ types, result = .ok types) → w₁.Clear r.node :=
    h.tidy (Workspace.encloses_congr (w.skeleton_enter n) ▸ hamong)
      (fun before r after types w₂ hrs hbefore m w₃ hasks =>
        hknown m w₃ (.inner hn ho hrs hbefore hasks))
      (hw.congr (w.layout?_enter n) (w.skeleton_enter n))
  have hleave {n : NodeId} {w₁ : Workspace} (hw₁ : w₁.Tidy among) : (w₁.leave n).Tidy among :=
    hw₁.congr (w₁.layout?_leave n) (w₁.skeleton_leave n)
  have hfailed {d : Diagnostic} : ¬∃ t : Ty, Except.error d = .ok t := nofun
  cases h with
  | missing | full | unbound => exact ⟨hw, fun _ _ hok => absurd hok hfailed⟩
  | failed hn ho h =>
    exact ⟨hleave (hturn hamong hknown hn ho h).1, fun _ _ hok => absurd hok hfailed⟩
  | looped hn hs ho h hl =>
    exact ⟨hleave (hturn hamong hknown hn ho h).1, fun _ _ hok => absurd hok hfailed⟩
  | refused hn hs ho h hl hb =>
    exact ⟨hleave (hturn hamong hknown hn ho h).1, fun _ _ hok => absurd hok hfailed⟩
  | @known n complete w node t hn ht =>
    refine ⟨hw, fun ha hc _ => ?_⟩
    obtain rfl : complete = true := hc
    by_cases hstruct : w.IsStruct n
    · exact Workspace.clear_of_isStruct hstruct
        (Or.inl (Workspace.isComplete_of_known? hn hstruct ht))
    · exact hknown n w (.self _ _) ha hstruct ⟨node, t, hn, ht⟩
  | @nested n complete w node t layout hn hs hk hroom hheld =>
    have hmarked := Workspace.shape?_mapLayout (Workspace.shape?_eq_of_shape_eq hn hs)
      Layout.looped n
    rw [if_pos rfl] at hmarked
    exact ⟨hw.looped (Workspace.not_isComplete_of_known? hn hk), fun _ _ _ =>
      Workspace.clear_of_isStruct ⟨t, _, hmarked⟩
        (Or.inr (Workspace.looped_iff.mpr ⟨t, _, hmarked, rfl⟩))⟩
  | @formed n complete w w₁ node former types data hn hs ho h hd =>
    obtain ⟨hw₁, hclear⟩ := hturn hamong hknown hn ho h
    have hskeleton := h.left.skeleton_eq.trans (w.skeleton_enter n)
    obtain ⟨made, hs₁⟩ := Workspace.formed_of_skeleton_eq hskeleton
      (Workspace.shape?_eq_of_shape_eq hn hs)
    refine ⟨hleave (hw₁.congr (w₁.layout?_form n data) (w₁.skeleton_form n data)),
      fun ha hc _ => ?_⟩
    obtain rfl : complete = true := hc
    have hheld : w₁.Clear n := by
      refine Workspace.clear_of_holds (Workspace.not_isStruct_of_formed hs₁) fun m hm => ?_
      rw [Workspace.holds_congr hskeleton] at hm
      exact hclear _ (Workspace.mem_requests_of_holds hn hm) (hamong n m ha hm) rfl ⟨_, rfl⟩
    exact hheld.grows ((w₁.graphGrows_form n data).trans (Workspace.graphGrows_leave _ n))
      (by rw [Workspace.skeleton_leave, Workspace.skeleton_form])
  | @laidOut n complete w w₁ node t layout types arena hn hs ho h hl hb =>
    obtain ⟨hw₁, hclear⟩ := hturn hamong hknown hn ho h
    have hskeleton := h.left.skeleton_eq.trans (w.skeleton_enter n)
    have hamong₁ := Workspace.encloses_congr hskeleton ▸ hamong
    obtain ⟨rfl, -⟩ := Workspace.opens_struct hs ho
    obtain ⟨layout₁, hs₁, -⟩ := Workspace.struct_of_skeleton_eq hskeleton
      (Workspace.shape?_eq_of_shape_eq hn hs)
    have hcomplete : ((w₁.layOut n arena).leave n).IsComplete n := by
      rw [Workspace.isComplete_leave]
      exact Workspace.isComplete_layOut_self arena ⟨t, layout₁, hs₁⟩
    refine ⟨hleave (hw₁.layOut hamong₁ (h.left.not_isComplete hn hs ho) hl fun ha m hm => ?_),
      fun _ _ _ => Workspace.clear_of_isStruct (Workspace.isStruct_of_isComplete hcomplete)
        (Or.inl hcomplete)⟩
    rw [Workspace.holds_congr hskeleton] at hm
    exact hclear _ (Workspace.mem_requests_of_holds hn hm) (hamong n m ha hm) rfl ⟨_, rfl⟩

end

namespace Workspace

variable {w w' : Workspace} {n m s : NodeId} {among : NodeId → Prop}

/-! ### What other actions do -/

/-- What a node holds can be seen by its shape. -/
theorem Holds.of_shape?_eq (h : w'.Holds n m) (hs : w'.shape? n = w.shape? n) : w.Holds n m := by
  obtain ⟨⟨node, hn, hm⟩, hpointer⟩ := h
  rw [shape?_eq hn] at hs
  refine ⟨(refers_iff_of_shape? hs.symm).mpr hm, ?_⟩
  rw [IsPointer, ← hs, ← shape?_eq hn]
  exact hpointer

/-- A struct whose layout records what it did before, if anything, is complete and marked only
if it was. -/
theorem marks_of_layouts (h : ∀ t layout', w'.shape? n = some (.struct t layout') →
    (layout'.complete = false ∧ layout'.containsItself = false) ∨
      ∃ t layout, w.shape? n = some (.struct t layout) ∧ layout'.complete = layout.complete ∧
        layout'.containsItself = layout.containsItself) :
    (w'.IsComplete n → w.IsComplete n) ∧ (w'.Looped n → w.Looped n) := by
  constructor
  · rintro ⟨layout', hlayout', hc⟩
    obtain ⟨t, hs'⟩ := layout?_eq_some_iff.mp hlayout'
    rcases h t layout' hs' with ⟨hnot, -⟩ | ⟨t₀, layout, hs, heq, -⟩
    · exact absurd (hnot.symm.trans hc) nofun
    · exact ⟨layout, layout?_eq_some_iff.mpr ⟨t₀, hs⟩, heq.symm.trans hc⟩
  · intro hlooped
    obtain ⟨t, layout', hs', hl⟩ := looped_iff.mp hlooped
    rcases h t layout' hs' with ⟨-, hnot⟩ | ⟨t₀, layout, hs, -, heq⟩
    · exact absurd (hnot.symm.trans hl) nofun
    · exact looped_iff.mpr ⟨t₀, layout, hs, heq.symm.trans hl⟩

/-- An action other than a production completes no struct and marks none. -/
theorem Performs.marks {action : Action} (h : w.Performs action w') :
    (∃ n complete, action = .produce n complete ∧ w' = (w.produce n complete).2) ∨
      ∀ n, (w'.IsComplete n → w.IsComplete n) ∧ (w'.Looped n → w.Looped n) := by
  rcases h with _ | a | ⟨node, -, -, hstruct⟩ | ⟨name, members, start⟩ | ⟨hs, -⟩ |
    ⟨hs, -, -⟩ | ⟨m, complete⟩
  · exact Or.inr fun n => ⟨id, id⟩
  · exact Or.inr fun n => ⟨id, id⟩
  · refine Or.inr fun n => marks_of_layouts fun t layout' hs' => ?_
    rw [shape?_add] at hs'
    split at hs'
    · rw [Option.some.inj hs'] at hstruct
      exact nomatch hstruct
    · exact Or.inr ⟨t, layout', hs', rfl, rfl⟩
  · refine Or.inr fun n => marks_of_layouts fun t layout' hs' => ?_
    rw [shape?_withStruct] at hs'
    split at hs'
    · cases hs'
      rw [← Layout.skeleton_ofMembers]
      exact Or.inl ⟨rfl, rfl⟩
    · exact Or.inr ⟨t, layout', hs', rfl, rfl⟩
  · refine Or.inr fun n => marks_of_layouts fun t layout' hs' => ?_
    rw [shape?_reshape hs] at hs'
    split at hs'
    · exact absurd hs' (by simp)
    · exact Or.inr ⟨t, layout', hs', rfl, rfl⟩
  · refine Or.inr fun n => marks_of_layouts fun t layout' hs' => ?_
    rw [shape?_reshape hs] at hs'
    split at hs'
    · rename_i hmn
      cases hs'
      rw [← hmn] at hs
      exact Or.inr ⟨_, _, hs, rfl, rfl⟩
    · exact Or.inr ⟨t, layout', hs', rfl, rfl⟩
  · exact Or.inl ⟨m, complete, rfl, rfl⟩

/-- An action changes what a node holds only if the node is a struct that is not complete. -/
theorem Performs.holds {action : Action} (h : w.Performs action w') (hn : (w.node? n).isSome)
    (hstruct : w.IsStruct n → w.IsComplete n) (hm : w'.Holds n m) : w.Holds n m := by
  have hindex := lt_size_iff.mpr hn
  rcases h with _ | a | ⟨node⟩ | ⟨name, members, start⟩ | @⟨pointer, pointee, storage, made, hs⟩ |
    @⟨struct, member, decorations, type, layout, hs, hc⟩ | ⟨l, complete⟩
  · exact hm
  · exact hm
  · exact hm.of_shape?_eq (by rw [shape?_add, if_neg (by omega)])
  · exact hm.of_shape?_eq (by rw [shape?_withStruct, if_neg (by omega)])
  -- a pointer holds nothing, whether or not it has a pointee
  · by_cases hnp : n = pointer
    · refine absurd ⟨some pointee, storage, made, ?_⟩ hm.2
      rw [shape?_reshape hs, if_pos hnp]
    · exact hm.of_shape?_eq (by rw [shape?_reshape hs, if_neg hnp])
  · by_cases hns : n = struct
    · rw [← hns] at hs
      obtain ⟨layout', hlayout', hcomplete⟩ := hstruct ⟨type, layout, hs⟩
      rw [layout?_eq_some_iff.mpr ⟨type, hs⟩, Option.some.injEq] at hlayout'
      rw [← hlayout', hc] at hcomplete
      exact absurd hcomplete nofun
    · exact hm.of_shape?_eq (by rw [shape?_reshape hs, if_neg hns])
  · rw [holds_congr (w.produced l complete).skeleton_eq] at hm
    exact hm

/-- What is met in a node that is there was met before. -/
theorem Performs.meets {action : Action} (h : w.Performs action w') (hclosed : w.Closed)
    (hn : (w.node? n).isSome) (hs : w'.Meets n s) : w.Meets n s := by
  have hgrows : w.GraphGrows w' := h.graphGrows
  induction hs with
  | struct hs =>
    exact .struct (hgrows.isStruct_of_isSome (by rwa [shape?, Option.isSome_map]) hs)
  | held hnot hm _ ih =>
    have hnot' := fun hstruct => hnot (hgrows.isStruct hstruct)
    have hm' := h.holds hn (fun hstruct => absurd hstruct hnot') hm
    exact .held hnot' hm' (ih (hclosed _ _ hm'.1))

theorem Performs.tidy {action : Action} (h : w.Performs action w') (hclosed : w.Closed)
    (hamong : w.Encloses among)
    (hknown : ∀ n complete, action = .produce n complete → w.KnownClear among ⟨n, complete⟩)
    (hw : w.Tidy among) : w'.Tidy among := by
  rcases h.marks with ⟨n, complete, haction, rfl⟩ | hmarks
  · exact ((w.produced n complete).clears hamong (hknown n complete haction) hw).1
  · have hgrows : w.GraphGrows w' := h.graphGrows
    -- what a complete struct holds it held before, and what is met there was met there
    have hbefore {n m : NodeId} (hn : w.IsComplete n) (hm : w'.Holds n m) :
        w.Holds n m ∧ ∀ s, w'.Meets m s → w.Meets m s := by
      obtain ⟨t, layout, hs⟩ := isStruct_of_isComplete hn
      obtain ⟨node, hnode, -⟩ := Option.map_eq_some_iff.mp hs
      have hm' := h.holds (Option.isSome_of_eq_some hnode) (fun _ => hn) hm
      exact ⟨hm', fun s => h.meets hclosed (hclosed n m hm'.1)⟩
    refine ⟨fun n hn hl => ?_, fun n m ha hn hm s hs => ?_, fun n ha hcon => ?_⟩
    · exact hw.unmarked n ((hmarks n).1 hn) ((hmarks n).2 hl)
    · obtain ⟨hm', hmeets⟩ := hbefore ((hmarks n).1 hn) hm
      exact (hw.clear n m ha ((hmarks n).1 hn) hm' s (hmeets s hs)).imp hgrows.isComplete
        hgrows.looped
    · refine hw.acyclic n ha (Relation.TransGen.mono (fun a b hab => ?_) n n hcon)
      obtain ⟨ha, hb, m, hm, hmb⟩ := hab
      obtain ⟨hm', hmeets⟩ := hbefore ((hmarks a).1 ha) hm
      exact ⟨(hmarks a).1 ha, (hmarks b).1 hb, m, hm', hmeets b hmb⟩

theorem tidy_empty (arena : TypeArena) (among : NodeId → Prop) :
    ({ arena } : Workspace).Tidy among := by
  have hnone (n : NodeId) : ¬({ arena } : Workspace).IsComplete n := by
    rintro ⟨layout, hlayout, -⟩
    simp [layout?, node?] at hlayout
  refine ⟨fun n hn => absurd hn (hnone n), fun n _ _ hn => absurd hn (hnone n),
    fun n _ hcon => ?_⟩
  obtain ⟨m, hm, -⟩ := Relation.TransGen.head'_iff.mp hcon
  exact hnone n hm.1

theorem Tidy.run (hw : w.Tidy among) (hclosed : w.Closed) {actions : List Action}
    (hamong : (w.run actions).Encloses among)
    (hknown : ∀ earlier n complete later, actions = earlier ++ .produce n complete :: later →
      (w.run earlier).KnownClear among ⟨n, complete⟩) : (w.run actions).Tidy among := by
  induction actions generalizing w with
  | nil => exact hw
  | cons action actions ih =>
    have hperforms := w.performs action
    have hbefore := (w.graphGrows_run (action :: actions)).encloses hamong
    refine ih (hperforms.tidy hclosed hbefore (fun n complete haction => ?_) hw)
      (hperforms.closed hclosed) hamong fun earlier n complete later heq => ?_
    · exact hknown [] n complete actions (by rw [haction]; rfl)
    · exact hknown (action :: earlier) n complete later (by rw [heq]; rfl)

/-- Where arrays and functions of some kind are formed from simple nodes alone, no struct is met
in them. -/
theorem knownClear_of_simple (h : ∀ n m, among n → w.Holds n m → ¬w.IsStruct n →
    ∃ t, w.shape? m = some (.simple t)) (r : Request) : w.KnownClear among r := by
  intro n w₁ hasks ha hn _ s hs
  rw [meets_congr hasks.skeleton_eq] at hs
  rw [isStruct_congr hasks.skeleton_eq] at hn
  cases hs with
  | struct hstruct => exact absurd hstruct hn
  | held _ hm hs =>
    obtain ⟨t, hsimple⟩ := h n _ ha hm hn
    cases hs with
    | struct hstruct =>
      obtain ⟨_, _, hstruct⟩ := hstruct
      exact absurd (hsimple.symm.trans hstruct) nofun
    | held _ hl => exact absurd ((refers_iff_of_shape? hsimple).mp hl.1) List.not_mem_nil

/-- **A complete struct lies within itself only through a struct that is marked.** Whatever was
done to the workspace, a struct that was found among its own members is not complete. And no
way leads by value from a complete struct back to it without going through such a struct, as
long as the arrays and functions the struct holds, directly or through others, were clear
whenever they were asked for complete and answered by a type they had.

The histories left out are those in which an array or a function within the struct was given
its type when nothing had to be complete, and later answered by it, although a struct met in it
still was neither complete nor marked. Arrays and functions elsewhere may have been answered
so. -/
theorem run_complete_cycle_marked (actions : List Action) :
    let w := ({} : Workspace).run actions
    (∀ s, w.Looped s → ¬w.IsComplete s) ∧
      ∀ s, w.IsComplete s →
        (∀ earlier n complete later, actions = earlier ++ .produce n complete :: later →
          (({} : Workspace).run earlier).KnownClear (Relation.ReflTransGen w.Holds s)
            ⟨n, complete⟩) →
        ¬Relation.TransGen (fun a b => w.Holds a b ∧ ¬w.Looped a) s s := by
  intro w
  refine ⟨fun s hl hs => ?_, fun s hs hknown => ?_⟩
  · -- what was answered does not matter here
    have htidy : w.Tidy fun _ => False := (tidy_empty {} _).run (closed_empty {})
      (fun _ _ ha => ha.elim) fun _ _ _ _ _ _ _ _ ha => ha.elim
    exact htidy.unmarked s hs hl
  · have hamong : w.Encloses (Relation.ReflTransGen w.Holds s) := fun _ _ ha hm => ha.tail hm
    exact ((tidy_empty {} _).run (closed_empty {}) hamong hknown).not_transGen hamong .refl hs

/-- Two structs that contain each other, and an array each. The array is asked for in both, and
answered the second time by the type it got the first time. An array of another struct is
answered by the type it got when nothing had to be complete, which is no matter for the two. -/
theorem run_complete_cycle_marked_pair :
    let actions : List Action :=
      [.arena (.int 32), .addSimple ⟨0⟩ 0, .addFormed (.array ⟨0⟩ 4) 1,
        .addStruct "A" [([], ⟨1⟩)] 10, .addStruct "B" [([], ⟨1⟩), ([], ⟨2⟩)] 20,
        .addMember ⟨2⟩ [] ⟨3⟩, .addStruct "C" [([], ⟨0⟩)] 30, .addFormed (.array ⟨4⟩ 4) 40,
        .produce ⟨5⟩ false, .produce ⟨5⟩ true, .produce ⟨2⟩ true]
    let w := ({} : Workspace).run actions
    (∀ earlier n complete later, actions = earlier ++ .produce n complete :: later →
        (({} : Workspace).run earlier).KnownClear (Relation.ReflTransGen w.Holds ⟨3⟩)
          ⟨n, complete⟩) ∧
      w.IsComplete ⟨3⟩ ∧ w.Looped ⟨2⟩ ∧
        ¬Relation.TransGen (fun a b => w.Holds a b ∧ ¬w.Looped a) ⟨3⟩ ⟨3⟩ := by
  intro actions w
  -- what the struct holds is one of the first four nodes
  have hlow {m : NodeId} (hm : Relation.ReflTransGen w.Holds ⟨3⟩ m) : m.index < 4 := by
    have hcheck : ((List.range 4).all fun i => (w.node? ⟨i⟩).all fun node =>
        node.refs.all fun m => m.index < 4) = true := by decide +kernel
    induction hm with
    | refl => decide
    | @tail a b _ hab ih =>
      obtain ⟨⟨node, hnode, hb⟩, -⟩ := hab
      have ha := List.all_eq_true.mp hcheck a.index (List.mem_range.mpr ih)
      rw [show (⟨a.index⟩ : NodeId) = a from rfl, hnode, Option.all_some] at ha
      exact of_decide_eq_true (List.all_eq_true.mp ha b hb)
  have hknown : ∀ earlier n complete later, actions = earlier ++ .produce n complete :: later →
      (({} : Workspace).run earlier).KnownClear (Relation.ReflTransGen w.Holds ⟨3⟩)
        ⟨n, complete⟩ := by
    intro earlier n complete later heq
    let rank (l : NodeId) : Nat := if l.index = 0 then 0 else if l.index < 4 then 1 else l.index
    have hcheck : ∀ k ∈ [8, 9, 10],
        (({} : Workspace).run (actions.take k)).ranked Node.isStruct rank = true ∧
          (({} : Workspace).run (actions.take k)).shape? ⟨0⟩ = some (.simple ⟨0⟩) := by
      decide +kernel
    have hproduce : ∀ action ∈ actions.take 8, ∀ n complete, action ≠ .produce n complete := by
      simp [actions]
    have hearlier : earlier = actions.take earlier.length := by rw [heq, List.take_left]
    have hget : actions[earlier.length]? = some (.produce n complete) := by
      rw [heq, List.getElem?_append_right (Nat.le_refl _), Nat.sub_self, List.getElem?_cons_zero]
    have hk : earlier.length ∈ [8, 9, 10] := by
      have hlt : earlier.length < 11 := (List.getElem?_eq_some_iff.mp hget).1
      have hle : 8 ≤ earlier.length := by
        by_contra hcon
        have htake := (List.getElem?_take_of_lt (Nat.lt_of_not_le hcon)).trans hget
        exact hproduce _ (List.mem_of_getElem? htake) n complete rfl
      simp only [List.mem_cons, List.not_mem_nil, or_false]
      omega
    obtain ⟨hranked, hsimple⟩ := hcheck _ hk
    rw [← hearlier] at hranked hsimple
    refine knownClear_of_simple (fun l m ha hm hl => ?_) _
    obtain ⟨⟨node, hnode, hmem⟩, -⟩ := hm
    have hstruct : node.isStruct = false := by
      refine Bool.eq_false_iff.mpr fun hcon => hl ?_
      obtain ⟨layout, hlayout⟩ := Option.isSome_iff_exists.mp hcon
      obtain ⟨t, hs⟩ := layout?_eq_some_iff.mp ((layout?_eq hnode).trans hlayout)
      exact ⟨t, layout, hs⟩
    have hrank := rank_lt_of_ranked hranked hnode hstruct hmem
    have hzero : m.index = 0 := by
      have hlow := hlow ha
      simp only [rank, hlow, if_true] at hrank
      by_contra hm
      rw [if_neg hm] at hrank
      split at hrank <;> split at hrank <;> omega
    obtain ⟨_⟩ := m
    obtain rfl := hzero
    exact ⟨⟨0⟩, hsimple⟩
  have hb : (w.layout? ⟨3⟩).map Layout.complete = some true := by decide +kernel
  have ha : (w.layout? ⟨2⟩).map Layout.containsItself = some true := by decide +kernel
  obtain ⟨layout, hlayout, hc⟩ := Option.map_eq_some_iff.mp hb
  have hcomplete : w.IsComplete ⟨3⟩ := ⟨layout, hlayout, hc⟩
  exact ⟨hknown, hcomplete, Option.map_eq_some_iff.mp ha,
    (run_complete_cycle_marked actions).2 ⟨3⟩ hcomplete hknown⟩

/-- Two structs that contain each other. The one that is asked for is found among its own
members and fails; the other one is complete, and contains itself through the first. -/
theorem run_complete_within_itself :
    ∃ actions n, (∀ action ∈ actions, ∀ t members packed,
        action ≠ .arena (.setBody t members packed)) ∧
      (({} : Workspace).run actions).IsComplete n ∧
        Relation.TransGen (({} : Workspace).run actions).Holds n n := by
  let actions : List Action :=
    [.addStruct "A" [] 10, .addStruct "B" [([], ⟨0⟩)] 20, .addMember ⟨0⟩ [] ⟨1⟩, .produce ⟨0⟩ true]
  have ha : (({} : Workspace).run actions).shape? ⟨0⟩ =
      some (.struct ⟨0⟩
        { members := [{ decorations := [], type := ⟨1⟩ }], containsItself := true }) := by
    decide +kernel
  have hb : (({} : Workspace).run actions).shape? ⟨1⟩ =
      some (.struct ⟨1⟩
        { complete := true
          members := [{ decorations := [], type := ⟨0⟩, bodyIndex := some 0 }] }) := by
    decide +kernel
  have hab : (({} : Workspace).run actions).Holds ⟨0⟩ ⟨1⟩ :=
    holds_of_shape? ha nofun (List.mem_singleton_self _)
  have hba : (({} : Workspace).run actions).Holds ⟨1⟩ ⟨0⟩ :=
    holds_of_shape? hb nofun (List.mem_singleton_self _)
  refine ⟨actions, ⟨1⟩, by simp [actions], ⟨_, layout?_eq_some_iff.mpr ⟨⟨1⟩, hb⟩, rfl⟩, ?_⟩
  exact .tail (.single hba) hab

end Workspace

end ShaderLowering
