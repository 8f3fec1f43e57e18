import ShaderLowering.Proofs.TypeGraph.Marks

/-!
# Asking again

A type that was answered once is answered for good. The type of a node is looked up
before anything else is done for it, so that a request whose answer is known is nothing
but a look (`ShaderLowering.Produced.of_known?`). What remains is to say when the answer
is known, and that it stays known.

A node is *settled* on a type (`ShaderLowering.Workspace.SettledOn`) if both kinds of
request are answered by a look: it has the type, and it is complete in case it is a
struct. Every answer of a pointer, a function or an array settles it, as does the answer
to a request for the complete type of a struct. A struct that was asked for opaque only
has its type from then on, but not its body, and the request that wants it complete has
work to do, and may fail. If it succeeds, it gives the same type.
-/

namespace ShaderLowering

/-- A request whose answer is known changes nothing. -/
theorem Produced.of_known? {r : Request} {w w' : Workspace} {result : Except Diagnostic Ty}
    {node : Node} {t : Ty} (h : Produced r w result w') (hn : w.node? r.node = some node)
    (ht : node.known? r.complete = some t) : result = .ok t ∧ w' = w := by
  have hsame {node' : Node} (hn' : w.node? r.node = some node') :
      node'.known? r.complete = some t := by
    rw [← Option.some.inj (hn.symm.trans hn')]
    exact ht
  have hopen {node' : Node} (hn' : w.node? r.node = some node') :
      node'.known? r.complete ≠ none := by
    rw [hsame hn']
    exact nofun
  cases h.answer with
  | known hn' ht' =>
    rw [Option.some.inj (ht'.symm.trans (hsame hn'))]
    exact ⟨rfl, rfl⟩
  | missing hn' => exact absurd (hn.symm.trans hn') nofun
  | full hn' hk => exact absurd hk (hopen hn')
  | nested hn' _ hk => exact absurd hk (hopen hn')
  | unbound hn' hs => exact absurd (by rw [Node.known?, hs]) (hopen hn')
  | failed hn' ho => exact absurd ho.unknown (hopen hn')
  | formed hn' _ ho => exact absurd ho.unknown (hopen hn')
  | looped hn' _ ho => exact absurd ho.unknown (hopen hn')
  | refused hn' _ ho => exact absurd ho.unknown (hopen hn')
  | laidOut hn' _ ho => exact absurd ho.unknown (hopen hn')

namespace Workspace

variable {w w' : Workspace} {n : NodeId} {t : Ty}

/-- The node has the type and, if it is a struct, is complete. -/
structure SettledOn (w : Workspace) (n : NodeId) (t : Ty) : Prop where
  handle : w.handle? n = some t
  complete : w.IsStruct n → w.IsComplete n

/-- The type of a node is known if the node has it, and is complete in case it is a struct that
has to be. -/
theorem known?_of_handle? {node : Node} {complete : Bool} (hn : w.node? n = some node)
    (ht : w.handle? n = some t) (hc : complete = true → w.IsStruct n → w.IsComplete n) :
    node.known? complete = some t := by
  rw [handle?_eq (shape?_eq hn)] at ht
  have hshape := shape?_eq hn
  obtain ⟨start, guard, shape⟩ := node
  cases shape with
  | simple type => exact ht
  | formed former made => exact ht
  | struct type layout =>
    cases complete with
    | false => exact ht
    | true =>
      obtain ⟨layout', hlayout', hcomplete⟩ := hc rfl ⟨type, layout, hshape⟩
      obtain rfl : layout = layout' := Option.some.inj ((layout?_eq hn).symm.trans hlayout')
      simp only [Node.known?, hcomplete, Bool.not_true, Bool.and_false, Bool.false_eq_true,
        if_false]
      exact ht

/-- Whatever is asked of a settled node is known. -/
theorem SettledOn.known? (h : w.SettledOn n t) (complete : Bool) :
    ∃ node, w.node? n = some node ∧ node.known? complete = some t := by
  obtain ⟨shape, hs, -⟩ := Option.bind_eq_some_iff.mp h.handle
  obtain ⟨node, hn, rfl⟩ := Option.map_eq_some_iff.mp hs
  exact ⟨node, hn, known?_of_handle? hn h.handle fun _ => h.complete⟩

/-- A settled node is answered by a look. -/
theorem SettledOn.produce_eq (h : w.SettledOn n t) (complete : Bool) :
    w.produce n complete = (.ok t, w) := by
  obtain ⟨node, hn, ht⟩ := h.known? complete
  obtain ⟨hresult, hw'⟩ := (w.produced n complete).of_known? hn ht
  exact Prod.ext hresult hw'

/-- A struct remains one. -/
theorem GraphGrows.isStruct (h : w.GraphGrows w') (hstruct : w.IsStruct n) : w'.IsStruct n := by
  obtain ⟨type, layout, hs⟩ := hstruct
  obtain ⟨layout', hs'⟩ := structType?_eq_some_iff.mp
    (h.structType? (structType?_eq_some_iff.mpr ⟨layout, hs⟩))
  exact ⟨type, layout', hs'⟩

/-- A struct was one before, if the node was there. -/
theorem GraphGrows.isStruct_of_isSome (h : w.GraphGrows w') (hn : (w.shape? n).isSome)
    (hstruct : w'.IsStruct n) : w.IsStruct n := by
  obtain ⟨s, hs⟩ := Option.isSome_iff_exists.mp hn
  obtain ⟨type, layout, hs'⟩ := hstruct
  obtain ⟨s', hs'', hgrows⟩ := h n s hs
  obtain rfl := Option.some.inj (hs'.symm.trans hs'')
  cases hgrows with
  | struct _ _ => exact ⟨_, _, hs⟩

theorem isSome_shape?_of_handle? (h : w.handle? n = some t) : (w.shape? n).isSome := by
  obtain ⟨shape, hs, -⟩ := Option.bind_eq_some_iff.mp h
  exact Option.isSome_of_eq_some hs

/-- What is settled stays so. -/
theorem SettledOn.mono (h : w.SettledOn n t) (hkeeps : w.Keeps w') (hgrows : w.GraphGrows w') :
    w'.SettledOn n t where
  handle := hkeeps.2 n t h.handle
  complete hstruct := hgrows.isComplete
    (h.complete (hgrows.isStruct_of_isSome (isSome_shape?_of_handle? h.handle) hstruct))

end Workspace

/-- **An answer settles the node**, unless it is that of a struct which need not be
complete. -/
theorem Produced.settledOn {n : NodeId} {complete : Bool} {w w' : Workspace} {t : Ty}
    (h : Produced ⟨n, complete⟩ w (.ok t) w') (hw : w.Faithful) (hheld : w.held n = 0)
    (hwish : complete = true ∨ ¬w.IsStruct n) : w'.SettledOn n t where
  handle := (h.imaged hw).2.2 t rfl
  complete hstruct := by
    rw [Workspace.isStruct_congr h.skeleton_eq] at hstruct
    rcases hwish with rfl | hnot
    · exact h.isComplete hstruct hheld
    · exact absurd hstruct hnot

namespace Workspace

/-- **A node is answered alike however often it is asked for.** Whatever was done to the
workspace before, and whatever is done to it after a node was answered: no request for
the node is answered by another type. And unless what was answered is the opaque type of
a struct, every later request for the node succeeds, whether or not structs have to be
complete, and leaves the types and the nodes exactly as they are. -/
theorem run_produce_again (earlier later : List Action) (n : NodeId) (complete : Bool) (t : Ty)
    (h : ((({} : Workspace).run earlier).produce n complete).1 = .ok t) (complete' : Bool) :
    let w := ({} : Workspace).run (earlier ++ .produce n complete :: later)
    (∀ t', (w.produce n complete').1 = .ok t' → t' = t) ∧
      (complete = true ∨ ¬w.IsStruct n → w.produce n complete' = (.ok t, w)) := by
  intro w
  obtain ⟨v, hv⟩ : ∃ v, v = ({} : Workspace).run earlier := ⟨_, rfl⟩
  rw [← hv] at h
  have hfaithful : v.Faithful := hv ▸ (faithful_empty TypeArena.uniqued_empty).run earlier
  have hidle : v.Idle := hv ▸ (idle_empty {}).run earlier
  have hproduced : Produced ⟨n, complete⟩ v (.ok t) (v.produce n complete).2 :=
    h ▸ v.produced n complete
  obtain ⟨hfaithful', -, hhandle⟩ := hproduced.imaged hfaithful
  -- the node is there, so that the request is an action
  have hw : w = (v.produce n complete).2.run later := by
    have hact : v.perform (.produce n complete) = (v.produce n complete).2 := by
      refine if_pos fun m hm => ?_
      rw [List.mem_singleton.mp hm]
      exact lt_size_iff.mpr hproduced.isSome_node?
    show ({} : Workspace).run (earlier ++ .produce n complete :: later) = _
    rw [run_append, run_cons, ← hv, hact]
  have hkeeps : (v.produce n complete).2.Keeps w := hw ▸ hfaithful'.keeps_run later
  have hgrows : (v.produce n complete).2.GraphGrows w := hw ▸ graphGrows_run _ later
  refine ⟨fun t' ht' => ?_, fun hwish => ?_⟩
  · have hlater := (w.produced n complete').imaged (hw ▸ hfaithful'.run later)
    have hfirst := hlater.2.1.2 n t (hkeeps.2 n t (hhandle t rfl))
    exact Option.some.inj ((hlater.2.2 t' ht').symm.trans hfirst)
  · refine SettledOn.produce_eq ?_ complete'
    refine (hproduced.settledOn hfaithful (hidle n) (hwish.imp_right ?_)).mono hkeeps hgrows
    exact fun hnot hstruct => hnot ((hproduced.graphGrows.trans hgrows).isStruct hstruct)

/-- An array of a struct is asked for opaque, and goes on being answered alike when the
struct has got a member and was laid out. -/
theorem run_produce_again_array :
    let earlier : List Action := [.arena (.int 32), .addSimple ⟨0⟩ 0, .addStruct "T" [([], ⟨0⟩)] 1,
      .addFormed (.array ⟨1⟩ 4) 2]
    let later : List Action := [.addMember ⟨1⟩ [] ⟨0⟩, .produce ⟨1⟩ true]
    ((({} : Workspace).run earlier).produce ⟨2⟩ false).1 = .ok ⟨2⟩ ∧
      let w := ({} : Workspace).run (earlier ++ .produce ⟨2⟩ false :: later)
      ¬w.IsStruct ⟨2⟩ ∧ w.produce ⟨2⟩ true = (.ok ⟨2⟩, w) := by
  intro earlier later
  have hfirst : ((({} : Workspace).run earlier).produce ⟨2⟩ false).1 = .ok ⟨2⟩ := by decide +kernel
  have hshape : (({} : Workspace).run (earlier ++ .produce ⟨2⟩ false :: later)).shape? ⟨2⟩ =
      some (.formed (.array ⟨1⟩ 4) (some ⟨2⟩)) := by
    decide +kernel
  have hstruct := not_isStruct_of_formed hshape
  exact ⟨hfirst, hstruct,
    (run_produce_again earlier later ⟨2⟩ false ⟨2⟩ hfirst true).2 (Or.inr hstruct)⟩

end Workspace

end ShaderLowering
