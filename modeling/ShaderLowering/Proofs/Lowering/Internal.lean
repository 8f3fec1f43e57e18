import ShaderLowering.Proofs.Lowering.Emitted
import ShaderLowering.Proofs.Lowering.Gathered
import ShaderLowering.Proofs.Lowering.Places
import ShaderLowering.Proofs.TypeGraph.ByValue
import ShaderLowering.Proofs.TypeGraph.Integrity

/-!
# What never goes wrong

Some reports are not about the shader: a struct is complete before its time or has a body
already, a pointer is bound twice or loses its pointee, a literal has a shape that no constant
has. They are there for what the lowering itself might get wrong, and none of them is ever made
(`ShaderLowering.lower_never_internal`).

Each of them is ruled out by something else that is true at every point of a walk. The struct
of the interface gets its members one by one while vectors have types made for them; but
nothing refers to it, and production completes only what it reaches, so that it stays open.
Scalars are as wide as the target allows, which fits into two words. A variable is noted only
if its pointer has a pointee, and pointees stay. The rest comes down to the workspace being
intact (`ShaderLowering.Workspace.Intact`), which is also why no handle is ever looked up that
the arena has not given out.
-/

namespace ShaderLowering

theorem Cause.isInternal_of_isOrdinary {cause : Cause} (h : cause.isOrdinary = true) :
    cause.isInternal = false := by
  rw [isOrdinary, Bool.and_eq_true, Bool.not_eq_true', Bool.not_eq_true'] at h
  exact h.2

/-- What is declared is no complete struct. -/
def Shape.Incomplete (shape : Shape) : Prop :=
  ∀ t layout, shape = .struct t layout → layout.complete = false

namespace Workspace

variable {w w' : Workspace} {n m : NodeId} {node : Node} {before shape : Shape} {t : Ty}
  {layout : Layout}

/-! ### What is complete -/

theorem isComplete_iff_of_shape? (hs : w.shape? n = some (.struct t layout)) :
    w.IsComplete n ↔ layout.complete = true := by
  rw [IsComplete, layout?_eq_some_iff.mpr ⟨t, hs⟩]
  simp

/-- A node that either declares no complete struct or what it declared before is complete only if
it was. -/
theorem isComplete_of_incomplete (hnew : shape.Incomplete)
    (hsame : w'.shape? n = some shape ∨ w'.shape? n = w.shape? n) (h : w'.IsComplete n) :
    w.IsComplete n := by
  obtain ⟨layout, hlayout, hc⟩ := h
  obtain ⟨t, hs⟩ := layout?_eq_some_iff.mp hlayout
  rcases hsame with heq | heq
  · exact absurd ((hnew t layout (Option.some.inj (heq.symm.trans hs))).symm.trans hc) nofun
  · exact (isComplete_iff_of_shape? (heq.symm.trans hs)).mpr hc

/-- A node that is added completes no other, and is not complete itself. -/
theorem isComplete_of_add (hnew : node.shape.Incomplete) (h : (w.add node).2.IsComplete n) :
    w.IsComplete n := by
  refine isComplete_of_incomplete hnew ?_ h
  rw [shape?_add]
  exact ite_eq_or_eq _ _ _

/-- A node that comes to declare something else is not complete then, and completes no other. -/
theorem isComplete_of_reshape (hs : w.shape? m = some before) (hnew : shape.Incomplete)
    (h : (w.reshape m shape).IsComplete n) : w.IsComplete n := by
  refine isComplete_of_incomplete hnew ?_ h
  rw [shape?_reshape hs]
  exact ite_eq_or_eq _ _ _

/-- A struct answers when it is given a member. -/
theorem addMember?_ne_none (hs : w.shape? n = some (.struct t layout)) (member : Member) :
    w.addMember? n member ≠ none := by
  obtain ⟨⟨start, guard, shape⟩, hn, rfl⟩ := Option.map_eq_some_iff.mp hs
  rw [addMember?, hn, Option.bind_some, Node.addMember?]
  cases hcomplete : layout.complete <;> simp [hcomplete]

end Workspace

namespace Declarations

open Workspace

variable {d d' : Declarations} {arena : TypeArena} {i : Instruction} {n m : NodeId}
  {shape : Shape} {w : Workspace} {instructions : List Instruction} {e : Diagnostic}

/-! ### Types that stand by themselves -/

/-- What is made for a node that is to be added stands by itself. -/
theorem Makes.based (h : d.Makes i shape w) (hw : d.workspace.Faithful) (hb : d.workspace.Based) :
    w.Based ∧ ∀ t, shape = .simple t → w.Bases t := by
  cases h with
  | formed => exact ⟨hb, fun t ht => absurd ht (by simp)⟩
  | @simple data hdata hparts =>
    refine ⟨hb.of_skeleton_eq (d.workspace.keeps_intern data) rfl, fun t ht => ?_⟩
    obtain rfl := Shape.simple.inj ht
    refine ⟨data, TypeArena.data?_intern _ data, hdata, ?_⟩
    rw [hparts]
    exact List.forall_mem_nil _
  | @composite component t w₁ data hcomponent h hdata hparts =>
    obtain ⟨-, hkeeps, htype⟩ := h.imaged hw
    refine ⟨hb.of_skeleton_eq (hkeeps.trans (w₁.keeps_intern data)) h.skeleton_eq,
      fun t' ht' => ?_⟩
    obtain rfl := Shape.simple.inj ht'
    refine ⟨data, TypeArena.data?_intern _ data, hdata, ?_⟩
    rw [hparts]
    exact List.forall_mem_singleton.mpr ⟨component, htype t rfl⟩
  | struct name =>
    exact ⟨hb.of_skeleton_eq (d.workspace.keeps_struct name) rfl, fun t ht => absurd ht (by simp)⟩

theorem based_openInterface (hb : d.workspace.Based) (start : Nat) :
    (d.openInterface start).2.Based := by
  rw [openInterface]
  split
  · exact hb
  · refine Based.add (w := { d.workspace with
      arena := (d.workspace.arena.struct interfaceStructName).2 }) ?_ fun t ht => ?_
    · exact hb.of_skeleton_eq (d.workspace.keeps_struct interfaceStructName) rfl
    · exact absurd ht (by simp)

theorem Extends.based (h : Extends d i d') (hw : d.workspace.Faithful)
    (hb : d.workspace.Based) : d'.workspace.Based := by
  cases h with
  | nothing heq => exact heq ▸ hb
  | type hmade hadd =>
    obtain ⟨hb', hnew⟩ := hmade.based hw hb
    exact hadd ▸ hb'.add hnew
  | pointee hs _ heq => exact heq ▸ hb.reshape hs rfl fun t ht => absurd ht (by simp)
  | interfaceVariable _ hadded =>
    obtain ⟨t, layout, hs, -, heq⟩ := of_addMember? hadded
    exact heq ▸ (based_openInterface hb i.start).reshape hs rfl fun t ht => absurd ht (by simp)

/-! ### The interface struct stays open -/

/-- The struct of the interface, if there is one, is not complete. -/
def Unfinished (d : Declarations) : Prop :=
  ∀ n, d.interfaceNode? = some n → ¬d.workspace.IsComplete n

/-- The struct of the interface is not reached from any type. -/
theorem Ordered.not_reaches (h : d.Ordered instructions) (hn : d.HasType n)
    (hm : d.interfaceNode? = some m) : ¬d.workspace.Reaches n m := by
  intro hcon
  rcases Relation.ReflTransGen.cases_tail hcon with rfl | ⟨l, -, hl⟩
  · exact h.interface _ hm hn
  · exact h.interface m hm (h.referred l m hl)

/-- What is added for a type is not complete. -/
theorem Makes.incomplete (h : d.Makes i shape w) : shape.Incomplete := by
  intro t layout hs
  cases h with
  | formed | simple | composite => exact nomatch hs
  | struct name members =>
    rw [← (Shape.struct.inj hs).2]
    exact Layout.complete_ofMembers members

/-- What is made for a vector or a matrix completes only what its component contains. -/
theorem Makes.isComplete (h : d.Makes i shape w) (hc : w.IsComplete n) :
    d.workspace.IsComplete n ∨
      ∃ component, d.componentType? i = some component ∧ d.workspace.Contains component n := by
  cases h with
  | formed | simple | struct => exact Or.inl hc
  | composite hcomponent h =>
    have htouches := h.touchesOnly fun _ _ hs => hs
    exact (htouches.complete n hc).imp_right fun hn => ⟨_, hcomponent, hn⟩

/-- The struct that the interface begins with is not complete. -/
theorem isComplete_openInterface {start : Nat} (h : (d.openInterface start).2.IsComplete n) :
    d.workspace.IsComplete n := by
  rw [openInterface] at h
  split at h
  · exact h
  · refine isComplete_of_add (w := { d.workspace with
      arena := (d.workspace.arena.struct interfaceStructName).2 }) (fun t layout hs => ?_) h
    rw [← (Shape.struct.inj hs).2]
    exact Layout.complete_ofMembers []

/-- **An instruction completes only what the component of a vector or of a matrix contains**,
whose type it declares. -/
theorem Extends.isComplete (h : Extends d i d') (hc : d'.workspace.IsComplete n) :
    d.workspace.IsComplete n ∨
      ∃ component, d.componentType? i = some component ∧ d.workspace.Contains component n := by
  cases h with
  | nothing heq => exact Or.inl (heq ▸ hc)
  | type hmade hadd => exact hmade.isComplete (isComplete_of_add hmade.incomplete (hadd ▸ hc))
  | pointee hs _ heq =>
    exact Or.inl (isComplete_of_reshape hs (fun _ _ hcon => absurd hcon (by simp)) (heq ▸ hc))
  -- a struct that gets a member is not complete
  | interfaceVariable _ hadded =>
    obtain ⟨t, layout, hs, hincomplete, heq⟩ := of_addMember? hadded
    refine Or.inl (isComplete_openInterface (isComplete_of_reshape hs ?_ (heq ▸ hc)))
    intro _ _ hpush
    rw [← (Shape.struct.inj hpush).2]
    exact hincomplete

/-- An instruction does not complete the struct of the interface. -/
theorem Extends.unfinished (h : Extends d i d') (ho : d.Ordered instructions)
    (hopen : d.Unfinished) : d'.Unfinished := by
  intro n hn hc
  by_cases hsame : d'.interface = d.interface
  · rw [interfaceNode?, hsame] at hn
    rcases h.isComplete hc with hc | ⟨component, hcomponent, hcontains⟩
    · exact hopen n hn hc
    · exact ho.not_reaches (hasType_of_componentType? hcomponent) hn
        (Relation.ReflTransGen.mono (fun _ _ => And.left) _ _ hcontains)
  · cases h with
    | nothing _ _ hinterface | type _ _ _ hinterface | pointee _ _ _ _ hinterface =>
      exact hsame hinterface
    -- a struct that gets a member is not complete
    | interfaceVariable _ hadded _ hinterface =>
      rw [interfaceNode?, hinterface] at hn
      obtain rfl := Option.some.inj hn
      obtain ⟨t, layout, hs, hincomplete, heq⟩ := of_addMember? hadded
      rw [heq, isComplete_iff_of_shape? ((shape?_reshape hs _ _).trans (if_pos rfl))] at hc
      exact absurd (hincomplete.symm.trans hc) (by simp)

/-- The interface is open when a variable is added to it. -/
theorem Unfinished.openInterface (h : d.Unfinished) (start : Nat) :
    ¬(d.openInterface start).2.IsComplete (d.openInterface start).1.node := by
  rw [Declarations.openInterface]
  split
  · rename_i f hf
    refine h f.node ?_
    rw [interfaceNode?, hf]
    rfl
  · have hs := (d.workspace.shape?_withStruct interfaceStructName [] start
      ⟨d.workspace.graph.nodes.size⟩).trans (if_pos rfl)
    intro hcon
    exact absurd ((isComplete_iff_of_shape? hs).mp hcon) (by simp [Layout.ofMembers])

/-! ### The whole walk -/

/-- **What is true at every point of a walk** and keeps the lowering from going wrong. -/
structure Secure (d : Declarations) : Prop where
  based : d.workspace.Based
  unfinished : d.Unfinished
  widths : ∀ entry ∈ d.scalarWidths, entry.2 ≤ 64

theorem secure_empty (arena : TypeArena) :
    ({ workspace := { arena } } : Declarations).Secure where
  based := based_empty arena
  unfinished n hn := absurd hn (by simp [interfaceNode?])
  widths := List.forall_mem_nil _

theorem Reads.widths (h : Reads d i d') (hd : ∀ entry ∈ d.scalarWidths, entry.2 ≤ 64) :
    ∀ entry ∈ d'.scalarWidths, entry.2 ≤ 64 := by
  cases h with
  | other _ _ _ _ _ hwidths =>
    intro entry hentry
    exact (hwidths entry hentry).elim (hd entry) id
  | _ => exact hd

/-- **What a walk leaves is secure.** -/
theorem secure_ofInstructions (hu : arena.Uniqued)
    (h : ofInstructions arena instructions = .ok d) : d.Secure := by
  refine (foldlM_keeps (P := fun d => d.Sound arena ∧ d.Ordered instructions ∧ d.Secure)
    (fun d i hi d' hstep hd => ?_)
    ⟨sound_empty arena, ordered_empty arena instructions, secure_empty arena⟩ h).2.2
  obtain ⟨hd, ho, hs⟩ := hd
  have hextends := extends_visit hstep
  exact ⟨hd.visits (visits hd.types hd.closed hstep), ho.extends hd hi hextends,
    hextends.based (hd.faithful hu) hs.based, hextends.unfinished ho hs.unfinished,
    (reads hstep).widths hs.widths⟩

/-- **The workspaces that come up are intact**, whatever types are asked for. -/
theorem Secure.intact (h : d.Secure) (hd : d.Sound arena) (hu : arena.Uniqued)
    (hw : d.workspace.Becomes Action.Asking w) : w.Intact where
  faithful := hw.faithful (hd.faithful hu)
  untouched := (hd.history_of_asking hw).untouched hu
  closed := hd.closed.congr hw.skeleton_eq
  based := h.based.of_skeleton_eq (hw.keeps (hd.faithful hu)) hw.skeleton_eq

/-! ### Reports that are not made -/

/-- What a production reports of a node that is there is about the shader. -/
theorem Secure.of_produced {w' : Workspace} {r : Request} (h : d.Secure) (hd : d.Sound arena)
    (hu : arena.Uniqued) (hw : d.workspace.Becomes Action.Asking w)
    (hr : (d.workspace.node? r.node).isSome) (hproduced : Produced r w (.error e) w') :
    e.cause.isInternal = false := by
  have hthere := (isSome_node?_congr hw.skeleton_eq r.node).trans hr
  rcases hproduced.cause_of_intact (h.intact hd hu hw) hthere with hc | hc
  · rw [hc]
    rfl
  · rw [hc]
    rfl

theorem Secure.of_reportsAt (h : d.Secure) (hd : d.Sound arena) (hu : arena.Uniqued)
    (he : d.ReportsAt i e) : e.cause.isInternal = false := by
  cases he with
  | whole hc | opening hc => exact Cause.isInternal_of_isOrdinary hc
  | @tooWide type width hlookup hwide =>
    obtain ⟨before, after, heq, -⟩ := List.lookup_eq_some_iff.mp hlookup
    have hwidth : width ≤ 64 :=
      h.widths (type, width) (heq ▸ List.mem_append_right _ List.mem_cons_self)
    rw [literalWordCount] at hwide
    omega
  | member hmember =>
    exact absurd (of_addMember?_eq_error hmember).1 (h.unfinished.openInterface i.start)
  | notAStruct hnone =>
    obtain ⟨t, layout, hs, -⟩ := hd.openInterface_fits i.start
    exact absurd hnone (addMember?_ne_none hs _)
  | produced hid hproduced =>
    exact h.of_produced hd hu (.refl _) (isSome_of_lookup hd.types hid) hproduced

theorem Secure.of_reportsEmitting (h : d.Secure) (hd : d.Sound arena) (hu : arena.Uniqued)
    (hglobals : ∀ g ∈ d.globals, (d.workspace.pointee? g.pointerType).isSome)
    (he : d.ReportsEmitting e) : e.cause.isInternal = false := by
  cases he with
  | noted _ hc => exact Cause.isInternal_of_isOrdinary hc
  | lostPointee hg hw hnone =>
    obtain ⟨pointee, hpointee⟩ := Option.isSome_iff_exists.mp (hglobals _ hg)
    exact absurd (hw.graphGrows.pointee? hpointee) (by simp [hnone])
  | produced hw hn hproduced => exact h.of_produced hd hu hw (hn.isSome hd hw) hproduced

/-- The variables that are globals have pointees. -/
theorem Walks.isSome_pointee? (h : Walks arena { workspace := { arena } } instructions d) :
    ∀ g ∈ d.globals, (d.workspace.pointee? g.pointerType).isSome := by
  intro g hg
  obtain ⟨i, -, hi⟩ := exists_of_forall₂_right h.globals hg
  exact hi.pointee

/-- The function that is being read is the last of those that were begun. -/
theorem Walks.openFunction_eq (h : Walks arena { workspace := { arena } } instructions d)
    {f : ShaderFunction} (hf : d.openFunction = some f) :
    d.functions.length + 1 = (functionsOf instructions).length ∧
      d.allFunctions[d.functions.length]? = some f := by
  have hall : d.allFunctions = d.functions ++ [f] := by
    rw [Declarations.allFunctions, hf]
    rfl
  refine ⟨?_, ?_⟩
  · rw [h.allFunctions.length_eq, hall, List.length_append, List.length_singleton]
  · rw [hall, List.getElem?_concat_length]

end Declarations

open Workspace Declarations

/-- **Nothing goes wrong that is not about the shader.** Whatever the instructions of a shader
are, and whatever types there were before, none of the reports is made that are there for
mistakes of the lowering itself. However far the instructions have been read, the functions that
were begun are those of the stream, in order, and the one that is being read is the last of
them. And whatever types are asked for then, in every workspace that comes up in the course of
it the types of all nodes are types of the arena, and so is whatever is seen by looking through
them; the same is true of the type that is answered. -/
theorem lower_never_internal {arena : TypeArena} (hu : arena.Uniqued) (shader : ShaderModule)
    (name : String) :
    (∀ e, lower arena shader name = .error e → e.cause.isInternal = false) ∧
    ∀ before d, before <+: shader.instructions → ofInstructions arena before = .ok d →
      (List.Forall₂ d.IsFunctionOf (functionsOf before) d.allFunctions ∧
        ∀ f, d.openFunction = some f →
          d.functions.length + 1 = (functionsOf before).length ∧
            d.allFunctions[d.functions.length]? = some f) ∧
      ∀ w, d.workspace.Becomes Action.Asking w → ∀ r r' w₁, Asks r w r' w₁ →
        w₁.Whole ∧ ∀ result w', Produced r' w₁ result w' →
          w'.Whole ∧ ∀ t, result = .ok t → w'.arena.Whole t := by
  refine ⟨fun e he => ?_, fun before d _ hd => ⟨?_, fun w hw r r' w₁ hasks => ?_⟩⟩
  · rcases of_lower_eq_error he with ⟨before, i, after, d, -, hd, hi⟩ | ⟨d, hd, hemitting⟩
    · exact (secure_ofInstructions hu hd).of_reportsAt (sound_ofInstructions hd) hu hi
    · exact (secure_ofInstructions hu hd).of_reportsEmitting (sound_ofInstructions hd) hu
        (walks_ofInstructions hd).isSome_pointee? hemitting
  · have hwalks := walks_ofInstructions hd
    exact ⟨hwalks.allFunctions, fun f hf => hwalks.openFunction_eq hf⟩
  · have hw₁ := hasks.intact ((secure_ofInstructions hu hd).intact (sound_ofInstructions hd) hu hw)
    refine ⟨hw₁.whole, fun result w' hproduced => ⟨(hproduced.intact hw₁).whole, ?_⟩⟩
    rintro t rfl
    exact hproduced.whole hw₁

/-- A shader that ends inside its function, with a variable noted after a vector was made: the
report is about the shader, and the function type is produced and is whole. -/
theorem lower_never_internal_vector :
    let instructions : List Instruction :=
      [⟨19, [1], 5, 7⟩, ⟨22, [2, 32], 7, 10⟩, ⟨32, [3, 1, 2], 10, 14⟩, ⟨59, [3, 4, 1], 14, 18⟩,
        ⟨23, [5, 2, 4], 18, 22⟩, ⟨32, [6, 1, 5], 22, 26⟩, ⟨59, [6, 7, 1], 26, 30⟩,
        ⟨33, [8, 1, 5], 30, 34⟩, ⟨54, [1, 9, 0, 8], 34, 39⟩]
    (∃ e, lower {} ⟨⟨1, 0, 0, 10⟩, instructions⟩ "unit" = .error e ∧
      e.cause.isInternal = false) ∧
    ∃ d f, ofInstructions {} instructions = .ok d ∧ d.openFunction = some f ∧
      d.allFunctions[0]? = some f ∧ d.workspace.Whole ∧
      ∃ t w, d.workspace.produce ⟨6⟩ true = (.ok t, w) ∧ w.arena.Whole t := by
  intro instructions
  have h := lower_never_internal TypeArena.uniqued_empty ⟨⟨1, 0, 0, 10⟩, instructions⟩ "unit"
  have herror : lower {} ⟨⟨1, 0, 0, 10⟩, instructions⟩ "unit" =
      .error (.pointing 34 .unterminatedFunction) := by
    decide +kernel
  have hshape : (ofInstructions {} instructions).toOption.map (fun d =>
      (d.functions.length, d.openFunction.isSome, (d.workspace.produce ⟨6⟩ true).1.isOk)) =
        some (0, true, true) := by
    decide +kernel
  obtain ⟨d, hd, hparts⟩ := of_toOption_map_eq_some hshape
  simp only [Prod.mk.injEq] at hparts
  obtain ⟨hnone, hopen, hok⟩ := hparts
  obtain ⟨f, hf⟩ := Option.isSome_iff_exists.mp hopen
  obtain ⟨hfunctions, hwhole⟩ := h.2 instructions d List.prefix_rfl hd
  have hat := (hfunctions.2 f hf).2
  rw [hnone] at hat
  obtain ⟨hw, hanswer⟩ := hwhole d.workspace (.refl _) ⟨⟨6⟩, true⟩ _ _ (.self _ _)
  refine ⟨⟨_, herror, h.1 _ herror⟩, d, f, hd, hf, hat, hw, ?_⟩
  rcases hproduce : d.workspace.produce ⟨6⟩ true with ⟨result | t, w⟩
  · rw [hproduce] at hok
    exact absurd hok (by simp [Except.isOk, Except.toBool])
  · have hproduced := d.workspace.produced ⟨6⟩ true
    rw [hproduce] at hproduced
    exact ⟨t, w, rfl, (hanswer _ _ hproduced).2 t rfl⟩

end ShaderLowering
