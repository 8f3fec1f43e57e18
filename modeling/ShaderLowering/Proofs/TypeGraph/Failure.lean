import ShaderLowering.Proofs.TypeGraph.ByValue
import ShaderLowering.Proofs.TypeGraph.Lifetime
import ShaderLowering.Proofs.TypeGraph.Stability

/-!
# Productions that fail

A production may fail at any depth, and leaves behind what was made until then: types,
and structs that were laid out on the way. So it has to be said what a failure does not
touch. Guards are as they were, since whoever enters a node leaves it. And the struct
whose complete type was asked for is as open as it was. Inside a production of it nothing
happens to it, except that it may be found among its own members
(`ShaderLowering.Produced.leavesOpen`): only a struct of which no production is under way
is laid out, and no other node has the same type to give it a body
(`ShaderLowering.Workspace.OwnTypes`).
-/

namespace ShaderLowering

namespace Workspace

variable {u w w' : Workspace} {n s : NodeId} {t : Ty} {layout : Layout}

/-! ### Types of structs -/

/-- **Every struct has a type of its own**, and the type is there. -/
structure OwnTypes (w : Workspace) : Prop where
  made : ∀ s t, w.structType? s = some t → t.index < w.arena.size
  distinct : ∀ n s t, w.structType? n = some t → w.structType? s = some t → n = s

theorem ownTypes_empty (arena : TypeArena) : ({ arena } : Workspace).OwnTypes := by
  have hnone (n : NodeId) : ({ arena } : Workspace).structType? n = none := by
    simp [structType?, shape?, node?]
  exact ⟨fun s t hs => absurd ((hnone s).symm.trans hs) (by simp),
    fun n s t hn => absurd ((hnone n).symm.trans hn) (by simp)⟩

theorem Performs.ownTypes {action : Action} (h : w.Performs action w') (hw : w.OwnTypes) :
    w'.OwnTypes := by
  refine ⟨fun s t hs => ?_, fun n s t hn hs => ?_⟩
  · rcases h.structType? hs with hs | ⟨name, members, start, -, rfl, rfl⟩
    · exact Nat.lt_of_lt_of_le (hw.made s t hs) h.operates.grows.size_le
    · exact Nat.lt_of_lt_of_eq (Nat.lt_succ_self _) (TypeArena.size_push w.arena _).symm
  -- an older struct does not have a type that is new
  · have hnew {n : NodeId} (hn : w.structType? n = some ⟨w.arena.size⟩) : False :=
      Nat.lt_irrefl _ (hw.made n _ hn)
    rcases h.structType? hn with hn | ⟨_, _, _, hindex, rfl, -⟩
    · rcases h.structType? hs with hs | ⟨_, _, _, -, rfl, -⟩
      · exact hw.distinct n s t hn hs
      · exact (hnew hn).elim
    · rcases h.structType? hs with hs | ⟨_, _, _, hindex', -, -⟩
      · exact (hnew hs).elim
      · cases n
        cases s
        exact congrArg NodeId.mk (hindex.trans hindex'.symm)

theorem OwnTypes.detachAll (hw : w.OwnTypes) : w.detachAll.OwnTypes := by
  refine ⟨?_, ?_⟩
  · rw [structType?_detachAll]
    exact hw.made
  · rw [structType?_detachAll]
    exact hw.distinct

theorem OwnTypes.lived (hw : w.OwnTypes) (events : List Event) : (w.lived events).OwnTypes :=
  lived_preserves Performs.ownTypes OwnTypes.detachAll hw events

/-- **A struct is reserved**: a production of it is under way, and no other struct has its
type. -/
structure Reserved (s : NodeId) (t : Ty) (w : Workspace) : Prop where
  held : 0 < w.held s
  own : ∀ n, w.structType? n = some t → n = s

theorem Reserved.congr (h : Reserved s t w) (hheld : w'.held = w.held)
    (hskeleton : w'.skeleton = w.skeleton) : Reserved s t w' where
  held := hheld ▸ h.held
  own := structType?_of_skeleton_eq hskeleton ▸ h.own

theorem Reserved.enter (h : Reserved s t w) (n : NodeId) : Reserved s t (w.enter n) where
  held := Nat.lt_of_lt_of_le h.held (w.held_le_enter n s)
  own := structType?_of_skeleton_eq (w.skeleton_enter n) ▸ h.own

/-- Whoever enters a struct reserves it. -/
theorem reserved_enter {node : Node} (hn : w.node? s = some node)
    (hown : ∀ n, w.structType? n = some t → n = s) : Reserved s t (w.enter s) where
  held := by
    rw [held_enter_self hn]
    exact Nat.succ_pos _
  own := structType?_of_skeleton_eq (w.skeleton_enter s) ▸ hown

/-! ### Structs that are left open -/

/-- **A struct is left open**: it has at most been found among its own members, and its type
is what it was. -/
structure LeavesOpen (s : NodeId) (t : Ty) (w w' : Workspace) : Prop where
  layout : w'.layout? s = w.layout? s ∨ w'.layout? s = (w.layout? s).map Layout.looped
  type : w.arena.Spares w'.arena t

namespace LeavesOpen

theorem refl (w : Workspace) : LeavesOpen s t w w :=
  ⟨Or.inl rfl, .refl _ t⟩

theorem trans (h : LeavesOpen s t u w) (h' : LeavesOpen s t w w') : LeavesOpen s t u w' := by
  have hlooped (l : Option Layout) :
      (l.map Layout.looped).map Layout.looped = l.map Layout.looped := by
    cases l <;> rfl
  refine ⟨?_, h.type.trans h'.type⟩
  rcases h'.layout with heq | heq
  · rw [heq]
    exact h.layout
  · rcases h.layout with heq' | heq'
    · exact Or.inr (heq.trans (by rw [heq']))
    · exact Or.inr (heq.trans (by rw [heq', hlooped]))

theorem congr (hlayout : w'.layout? = w.layout?) (harena : w.arena.Spares w'.arena t) :
    LeavesOpen s t w w' :=
  ⟨Or.inl (by rw [hlayout]), harena⟩

end LeavesOpen

theorem leavesOpen_enter (w : Workspace) (n : NodeId) : LeavesOpen s t w (w.enter n) :=
  .congr (w.layout?_enter n) (.refl _ t)

theorem leavesOpen_leave (w : Workspace) (n : NodeId) : LeavesOpen s t w (w.leave n) :=
  .congr (w.layout?_leave n) (.refl _ t)

theorem leavesOpen_looped (w : Workspace) (n : NodeId) :
    LeavesOpen s t w (w.modify n fun node => node.mapLayout Layout.looped) := by
  refine ⟨?_, .refl _ t⟩
  rw [layout?_mapLayout]
  split
  · exact Or.inr rfl
  · exact Or.inl rfl

theorem leavesOpen_form (w : Workspace) (n : NodeId) {data : TypeData}
    (hdata : data.IsStructural) : LeavesOpen s t w (w.form n data) :=
  .congr (w.layout?_form n data) (w.arena.spares_intern hdata t)

/-- To lay out another struct, whose type is another one, leaves the struct open. -/
theorem leavesOpen_layOut {other : Ty} {types : List Ty} {arena : TypeArena} (hn : s ≠ n)
    (ht : t ≠ other) (hb : w.arena.setBody other types false = .ok arena) :
    LeavesOpen s t w (w.layOut n arena) := by
  refine ⟨Or.inl ?_, TypeArena.spares_setBody hb ht⟩
  rw [layOut, layout?_mapLayout, if_neg hn]
  rfl

end Workspace

/-- Requests answered one after another leave a struct open that is reserved, if each of them
does. -/
theorem InTurn.leavesOpen_of_reserved {s : NodeId} {t : Ty} {rs : List Request} {w w' : Workspace}
    {result : Except Diagnostic (List Ty)}
    (h : InTurn (fun r w result w' => Produced r w result w' ∧
      (Workspace.Reserved s t w → Workspace.LeavesOpen s t w w')) rs w result w')
    (hw : Workspace.Reserved s t w) : Workspace.LeavesOpen s t w w' :=
  h.keeps_within (P := fun _ => Workspace.Reserved s t) .refl .trans
    (fun h _ hw => hw.congr h.held_eq h.skeleton_eq) fun _ _ => hw

/-- **What is produced inside a production of a struct leaves the struct open.** -/
theorem Produced.leavesOpen {s : NodeId} {t : Ty} {r : Request} {w w' : Workspace}
    {result : Except Diagnostic Ty} (h : Produced r w result w')
    (hw : Workspace.Reserved s t w) : Workspace.LeavesOpen s t w w' := by
  refine h.induct (motive := fun _ w _ w' => Workspace.Reserved s t w →
    Workspace.LeavesOpen s t w w') (fun {r w result w'} h hw => ?_) hw
  have hturn {n : NodeId} {rs : List Request} {w₁ : Workspace}
      {result : Except Diagnostic (List Ty)}
      (h : InTurn (fun r w result w' => Produced r w result w' ∧
        (Workspace.Reserved s t w → Workspace.LeavesOpen s t w w')) rs (w.enter n) result w₁) :
      Workspace.LeavesOpen s t w w₁ :=
    (w.leavesOpen_enter n).trans (h.leavesOpen_of_reserved (hw.enter n))
  cases h with
  | missing | known | full | unbound => exact .refl w
  | nested => exact w.leavesOpen_looped _
  | failed hn ho h => exact (hturn h).trans (Workspace.leavesOpen_leave _ _)
  | looped hn hs ho h hl => exact (hturn h).trans (Workspace.leavesOpen_leave _ _)
  | refused hn hs ho h hl hb => exact (hturn h).trans (Workspace.leavesOpen_leave _ _)
  | formed hn hs ho h hd =>
    exact ((hturn h).trans (Workspace.leavesOpen_form _ _
      (Former.isStructural_of_data? hd))).trans (Workspace.leavesOpen_leave _ _)
  | @laidOut n _ _ w₁ node other layout _ _ hn hs ho h hl hb =>
    -- a struct is laid out by its first production only, and this is not that of `s`
    have hother : w.structType? n = some other := Workspace.structType?_eq_some_iff.mpr
      ⟨layout, Workspace.shape?_eq_of_shape_eq hn hs⟩
    have hne : s ≠ n := by
      rintro rfl
      have hfirst := ho.first (by rw [Node.isStruct, Node.layout?, hs]; rfl)
      exact Nat.ne_of_gt hw.held (by rw [Workspace.held_eq hn, hfirst])
    have htype : t ≠ other := by
      rintro rfl
      exact hne (hw.own n hother).symm
    exact ((hturn h).trans (Workspace.leavesOpen_layOut hne htype hb)).trans
      (Workspace.leavesOpen_leave _ _)

/-- **A struct whose production fails is left open**, however deep the failure is. -/
theorem Produced.leavesOpen_of_error {s : NodeId} {t : Ty} {complete : Bool} {w w' : Workspace}
    {e : Diagnostic} (h : Produced ⟨s, complete⟩ w (.error e) w')
    (hown : ∀ n, w.structType? n = some t → n = s) : Workspace.LeavesOpen s t w w' := by
  have hturn {node : Node} {rs : List Request} {w₁ : Workspace}
      {result : Except Diagnostic (List Ty)} (hn : w.node? s = some node)
      (h : InTurn Produced rs (w.enter s) result w₁) :
      Workspace.LeavesOpen s t w (w₁.leave s) := by
    have hinner := (h.imp fun _ _ _ _ h => ⟨h, h.leavesOpen⟩).leavesOpen_of_reserved
      (Workspace.reserved_enter hn hown)
    exact ((w.leavesOpen_enter s).trans hinner).trans (w₁.leavesOpen_leave s)
  cases h.answer with
  | missing | full | unbound => exact .refl w
  | failed hn _ hinner => exact hturn hn hinner
  | looped hn _ _ hinner => exact hturn hn hinner
  | refused hn _ _ hinner => exact hturn hn hinner

namespace Workspace

variable {w w' : Workspace} {n s : NodeId} {t : Ty} {layout : Layout} {e : Diagnostic}

/-! ### Failures from outside -/

theorem Idle.produce (h : w.Idle) (n : NodeId) (complete : Bool) :
    (w.produce n complete).2.Idle := by
  rwa [Idle, (w.produced n complete).held_eq]

/-- Members are read off after a production of the struct, if they are to have places. -/
theorem of_members? {placed : Bool} {answer : Except Diagnostic (List Member)}
    (h : w.members? n placed = some (answer, w')) :
    (w' = w ∧ ∃ members, answer = .ok members) ∨
      w' = (w.produce n true).2 ∧ ∀ e, answer = .error e → (w.produce n true).1 = .error e := by
  obtain ⟨layout, -, h⟩ := Option.map_eq_some_iff.mp h
  cases placed with
  | false =>
    cases h
    exact Or.inl ⟨rfl, _, rfl⟩
  | true =>
    rcases hproduced : w.produce n true with ⟨result, w₁⟩
    rw [if_pos rfl, hproduced] at h
    obtain ⟨hanswer, rfl⟩ := Prod.mk.inj h
    refine Or.inr ⟨rfl, fun e he => ?_⟩
    cases result with
    | error d => exact congrArg Except.error (Except.error.inj (hanswer.trans he))
    | ok t => exact nomatch hanswer.trans he

/-- A struct that is not complete accepts another member. -/
theorem addMember?_eq (hs : w.shape? s = some (.struct t layout)) (hc : layout.complete = false)
    (member : Member) :
    w.addMember? s member = some (.ok (w.reshape s (.struct t (layout.push member)))) := by
  obtain ⟨node, hn, hshape⟩ := Option.map_eq_some_iff.mp hs
  have hadded : node.addMember? member =
      some (.ok { node with shape := .struct t (layout.push member) }) := by
    simp [Node.addMember?, hshape, hc]
  rw [addMember?, hn, Option.bind_some, hadded]
  exact congrArg (some ∘ Except.ok) (modify_congr hn rfl)

/-- A struct that is not complete is answered with its type when it need not be, and nothing
is done. -/
theorem produce_false_eq (hs : w.shape? s = some (.struct t layout)) :
    w.produce s false = (.ok t, w) := by
  obtain ⟨node, hn, hshape⟩ := Option.map_eq_some_iff.mp hs
  have hknown : node.known? false = some t := by
    rw [Node.known?, hshape]
    rfl
  obtain ⟨hresult, hw⟩ := (w.produced s false).of_known? hn hknown
  exact Prod.ext hresult hw

/-- **What a failure does to the struct** that was to be completed: nothing, except that it may
have been found among its own members. -/
theorem OwnTypes.of_produce_error (hw : w.OwnTypes)
    (hs : w.shape? s = some (.struct t layout)) (he : (w.produce s true).1 = .error e) :
    layout.complete = false ∧
      (w.produce s true).2.arena.data? t = w.arena.data? t ∧
      ∃ layout', (w.produce s true).2.shape? s = some (.struct t layout') ∧
        (layout' = layout ∨ layout' = layout.looped) := by
  have hproduced : Produced ⟨s, true⟩ w (.error e) (w.produce s true).2 :=
    he ▸ w.produced s true
  have htype : w.structType? s = some t := structType?_eq_some_iff.mpr ⟨layout, hs⟩
  have hopen := hproduced.leavesOpen_of_error fun n hn => hw.distinct n s t hn htype
  refine ⟨Bool.eq_false_iff.mpr fun hc => ?_, ?_, ?_⟩
  -- a struct that is complete is answered
  · obtain ⟨node, hn, hshape⟩ := Option.map_eq_some_iff.mp hs
    have hknown : node.known? true = some t := by
      rw [Node.known?, hshape]
      simp [hc]
    exact absurd (hproduced.of_known? hn hknown).1 (by simp)
  · obtain ⟨d, hd⟩ : ∃ d, w.arena.data? t = some d :=
      Option.ne_none_iff_exists'.mp fun hnone =>
        absurd (TypeArena.data?_eq_none_iff.mp hnone) (Nat.not_le_of_lt (hw.made s t htype))
    rw [hopen.type.data? hd, hd]
  · obtain ⟨layout', hs', -⟩ := struct_of_skeleton_eq hproduced.skeleton_eq hs
    refine ⟨layout', hs', ?_⟩
    have hlayout : w.layout? s = some layout := layout?_eq_some_iff.mpr ⟨t, hs⟩
    have hlayout' := layout?_eq_some_iff.mpr ⟨t, hs'⟩
    rcases hopen.layout with heq | heq
    · exact Or.inl (Option.some.inj (hlayout'.symm.trans (heq.trans hlayout)))
    · rw [hlayout', hlayout] at heq
      exact Or.inr (Option.some.inj heq)

end Workspace

/-- No member of a struct has a place before the struct is complete. -/
def Layout.Unplaced (l : Layout) : Prop :=
  l.complete = false → ∀ m ∈ l.members, m.bodyIndex = none

theorem Layout.isKept_unplaced : Layout.IsKept Layout.Unplaced where
  new members _ m hm := by
    rw [members_ofMembers] at hm
    obtain ⟨member, -, rfl⟩ := List.mem_map.mp hm
    rfl
  push l decorations type hl hc m hm := by
    rcases List.mem_append.mp hm with hm | hm
    · exact hl hc m hm
    · rw [List.mem_singleton.mp hm]
  looped l hl := hl
  -- a struct that is laid out is complete
  laidOut l _ hc := nomatch hc

namespace Workspace

/-- **A failure releases every guard and leaves its struct as open as it was.** Whatever has
happened to a workspace, no production is under way after a node was produced or the members of
a struct were asked for, successfully or not. And if a struct was to be completed and was not,
at whatever depth and for whatever reason: its members and its bindings are what they were, none
of the members has a place, and its type is what it was, without a body if it had none. The
struct is still answered with its type when it need not be complete, and goes on accepting
members. -/
theorem lived_failure_leaves_open (arena : TypeArena) (events : List Event) (n : NodeId)
    (complete placed : Bool) :
    let w := ({ arena } : Workspace).lived events
    (w.produce n complete).2.Idle ∧
      (∀ answer w', w.members? n placed = some (answer, w') → w'.Idle) ∧
      ∀ s t layout e w', w.shape? s = some (.struct t layout) →
        w.produce s true = (.error e, w') ∨ w.members? s true = some (.error e, w') →
        ∃ layout', w'.shape? s = some (.struct t layout') ∧ layout'.complete = false ∧
          layout'.members = layout.members ∧ layout'.slots = layout.slots ∧
          (∀ m ∈ layout'.members, m.bodyIndex = none) ∧
          w'.arena.data? t = w.arena.data? t ∧ w'.produce s false = (.ok t, w') ∧
          ∀ m, w'.addMember? s m = some (.ok (w'.reshape s (.struct t (layout'.push m)))) := by
  intro w
  have hidle : w.Idle := (idle_empty arena).lived events
  have hown : w.OwnTypes := (ownTypes_empty arena).lived events
  refine ⟨hidle.produce n complete, fun answer w' h => ?_, fun s t layout e w' hs h => ?_⟩
  · rcases of_members? h with ⟨rfl, -⟩ | ⟨rfl, -⟩
    · exact hidle
    · exact hidle.produce n true
  · -- to ask for the members is to produce the struct
    obtain ⟨he, rfl⟩ : (w.produce s true).1 = .error e ∧ w' = (w.produce s true).2 := by
      rcases h with h | h
      · rw [h]
        exact ⟨rfl, rfl⟩
      · rcases of_members? h with ⟨-, members, hok⟩ | ⟨rfl, herror⟩
        · exact nomatch hok
        · exact ⟨herror e rfl, rfl⟩
    obtain ⟨hincomplete, hdata, layout', hs', heq⟩ := hown.of_produce_error hs he
    have hunplaced := (eachLayout_empty _ arena).lived Layout.isKept_unplaced events s layout
      (layout?_eq_some_iff.mpr ⟨t, hs⟩) hincomplete
    have hsame : layout'.complete = layout.complete ∧ layout'.members = layout.members ∧
        layout'.slots = layout.slots := by
      rcases heq with rfl | rfl <;> exact ⟨rfl, rfl, rfl⟩
    obtain ⟨hcomplete, hmembers, hslots⟩ := hsame
    exact ⟨layout', hs', hcomplete.trans hincomplete, hmembers, hslots, hmembers ▸ hunplaced,
      hdata, produce_false_eq hs', addMember?_eq hs' (hcomplete.trans hincomplete)⟩

/-- A struct of a struct and a pointer that is not bound: the former is completed on the way, and
the latter makes the production fail. -/
theorem lived_failure_leaves_open_unbound :
    let w := ({} : Workspace).lived [.acted (.addStruct "inner" [] 0),
      .acted (.addFormed (.pointer none .function) 1),
      .acted (.addStruct "outer" [([], ⟨0⟩), ([], ⟨1⟩)] 2)]
    let w' := (w.produce ⟨2⟩ true).2
    (w.produce ⟨2⟩ true).1 = .error (.pointing 1 .unboundPointer) ∧ w'.IsComplete ⟨0⟩ ∧
      w'.Idle ∧ ¬w'.IsComplete ⟨2⟩ ∧ w'.produce ⟨2⟩ false = (.ok ⟨1⟩, w') := by
  intro w w'
  have hfails : (w.produce ⟨2⟩ true).1 = .error (.pointing 1 .unboundPointer) := by decide +kernel
  have hinner : w'.layout? ⟨0⟩ = some { complete := true } := by decide +kernel
  have hs : w.shape? ⟨2⟩ =
      some (.struct ⟨1⟩ { members := [⟨[], ⟨0⟩, none⟩, ⟨[], ⟨1⟩, none⟩] }) := by
    decide +kernel
  obtain ⟨hidle, -, hstruct⟩ := lived_failure_leaves_open {} _ ⟨2⟩ true false
  obtain ⟨layout, hs', hincomplete, -, -, -, -, hopaque, -⟩ :=
    hstruct ⟨2⟩ ⟨1⟩ _ _ w' hs (Or.inl (Prod.ext hfails rfl))
  refine ⟨hfails, ⟨_, hinner, rfl⟩, hidle, ?_, hopaque⟩
  rintro ⟨layout₁, hlayout₁, hc⟩
  obtain rfl := Option.some.inj ((layout?_eq_some_iff.mpr ⟨_, hs'⟩).symm.trans hlayout₁)
  exact absurd (hincomplete.symm.trans hc) nofun

end Workspace

end ShaderLowering
