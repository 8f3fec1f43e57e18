import ShaderLowering.Proofs.Lowering.Correspondence
import ShaderLowering.Proofs.Lowering.Recorded
import ShaderLowering.Proofs.TypeGraph.Detached

/-!
# The lengths of arrays

An array of the stream names a constant, and is as long as the value that the constant was
given last before the array was declared (`ShaderLowering.lower_array_length`). The node of the
array gets its length when it is declared, and keeps it: what an array is made of never changes
(`ShaderLowering.Workspace.GraphGrows.arrayOf`).

That the types which are made from the node have this length too is an invariant of its own,
`ShaderLowering.Workspace.ArraysCounted`. It says less than
`ShaderLowering.Workspace.Faithful`, but it goes on to hold when the pointers of the graph are
detached, whose types are no longer images of anything.

The type of the constant may be one of floating-point numbers. The length of the array is then
the number that is written with the same bits (`ShaderLowering.lower_array_length_float`).
-/

namespace ShaderLowering

/-- The type is that of arrays of a length. -/
def TypeArena.IsArray (a : TypeArena) (t : Ty) (count : Nat) : Prop :=
  ∃ element, a.data? t = some (.array element count)

/-- A type of arrays stays one. -/
theorem TypeArena.Grows.isArray {a b : TypeArena} {t : Ty} {count : Nat} (h : a.Grows b)
    (ht : a.IsArray t count) : b.IsArray t count := by
  obtain ⟨element, hdata⟩ := ht
  exact ⟨element, h.data? hdata trivial⟩

namespace Workspace

variable {u v w w' : Workspace} {n element : NodeId} {count : Nat} {t : Ty} {layout : Layout}
  {former : Former} {before shape : Shape}

/-! ### Arrays -/

/-- The node is an array of a length. -/
def ArrayOf (w : Workspace) (n : NodeId) (count : Nat) : Prop :=
  ∃ element made, w.shape? n = some (.formed (.array element count) made)

/-- An array keeps its length. -/
theorem GraphGrows.arrayOf (h : w.GraphGrows w') (hn : w.ArrayOf n count) :
    w'.ArrayOf n count := by
  obtain ⟨element, made, hs⟩ := hn
  obtain ⟨s', hs', hgrows⟩ := h n _ hs
  cases hgrows with
  | formed _ _ made' => exact ⟨element, made', hs'⟩

theorem shape?_detachAll_array {made : Option Ty} :
    w.detachAll.shape? n = some (.formed (.array element count) made) ↔
      w.shape? n = some (.formed (.array element count) made) :=
  shape?_detachAll_iff nofun

theorem arrayOf_detachAll : w.detachAll.ArrayOf n count ↔ w.ArrayOf n count :=
  exists_congr fun _ => exists_congr fun _ => shape?_detachAll_array

/-! ### The types of arrays -/

/-- **The types that arrays have are as long as the arrays.** -/
def ArraysCounted (w : Workspace) : Prop :=
  ∀ n element count t, w.shape? n = some (.formed (.array element count) (some t)) →
    w.arena.IsArray t count

/-- It is enough to look at the nodes that are new or were given their type. -/
theorem ArraysCounted.mono (hw : w.ArraysCounted) (harena : w.arena.Grows w'.arena)
    (hback : ∀ n element count t,
      w'.shape? n = some (.formed (.array element count) (some t)) →
      w.shape? n = some (.formed (.array element count) (some t)) ∨
        w'.arena.IsArray t count) : w'.ArraysCounted := by
  intro n element count t hs
  rcases hback n element count t hs with hold | hnew
  · exact harena.isArray (hw n element count t hold)
  · exact hnew

theorem ArraysCounted.congr (hw : w.ArraysCounted) (hs : w'.shape? = w.shape?)
    (ha : w'.arena = w.arena) : w'.ArraysCounted :=
  hw.mono (ha ▸ .refl _) fun _ _ _ _ h => Or.inl (hs ▸ h)

theorem Faithful.arraysCounted (hw : w.Faithful) : w.ArraysCounted := by
  intro n element count t hs
  obtain ⟨data, hdata, hi⟩ := hw.formed n _ t hs
  cases hi with
  | @array element count type h => exact ⟨type, hdata⟩

theorem ArraysCounted.detachAll (hw : w.ArraysCounted) : w.detachAll.ArraysCounted :=
  fun n element count t hs => hw n element count t (shape?_detachAll_array.mp hs)

/-- The type that is formed for an array is as long as the array. -/
theorem ArraysCounted.form (hw : w.ArraysCounted) {made : Option Ty} {types : List Ty}
    {data : TypeData} (hs : w.shape? n = some (.formed former made))
    (hd : former.data? types = some data) : (w.form n data).ArraysCounted := by
  refine hw.mono (w.arena.grows_intern data) fun m element count t hm => ?_
  rw [shape?_form hs] at hm
  split at hm
  · obtain ⟨rfl, hmade⟩ := Shape.formed.inj (Option.some.inj hm)
    obtain rfl := Option.some.inj hmade
    match types, hd with
    | [type], hd =>
      obtain rfl : TypeData.array type count = data := Option.some.inj hd
      exact Or.inr ⟨type, w.arena.data?_intern _⟩
  · exact Or.inl hm

theorem ArraysCounted.mapLayout (hw : w.ArraysCounted)
    (hs : w.shape? n = some (.struct t layout)) (f : Layout → Layout) :
    (w.modify n fun node => node.mapLayout f).ArraysCounted := by
  refine hw.mono (.refl _) fun m element count t hm => Or.inl ?_
  rw [shape?_mapLayout hs] at hm
  split at hm
  · exact absurd hm (by simp)
  · exact hm

/-- A node that is added has no type unless it is simple or a struct. -/
theorem ArraysCounted.add (hw : w.ArraysCounted) {node : Node}
    (hmade : node.shape.skeleton = node.shape) : (w.add node).2.ArraysCounted := by
  refine hw.mono (.refl _) fun m element count t hm => Or.inl ?_
  rw [shape?_add] at hm
  split at hm
  · rw [Option.some.inj hm] at hmade
    exact nomatch hmade
  · exact hm

/-- What becomes of a node that is no array is of no account. -/
theorem ArraysCounted.reshape (hw : w.ArraysCounted) (hs : w.shape? n = some before)
    (hshape : ∀ element count made, shape ≠ .formed (.array element count) made) :
    (w.reshape n shape).ArraysCounted := by
  refine hw.mono (.refl _) fun m element count t hm => Or.inl ?_
  rw [shape?_reshape hs] at hm
  split at hm
  · exact absurd (Option.some.inj hm) (hshape _ _ _)
  · exact hm

/-- A step of a production gives an array a type of its length, if it gives it one. -/
theorem Works.arraysCounted {w' : Workspace} (h : w.Works w') (hw : w.ArraysCounted) :
    w'.ArraysCounted := by
  cases h with
  | enter n => exact hw.congr (w.shape?_enter n) rfl
  | leave n => exact hw.congr (w.shape?_leave n) rfl
  | looped hs => exact hw.mapLayout hs _
  | form hs hd => exact hw.form hs hd
  | @layOut _ _ _ _ arena hs hb =>
    have harena : ({ w with arena } : Workspace).ArraysCounted :=
      hw.mono (TypeArena.grows_setBody hb) fun _ _ _ _ hs => Or.inl hs
    exact ArraysCounted.mapLayout (w := { w with arena }) harena hs _

theorem Performs.arraysCounted {action : Action} (h : w.Performs action w')
    (hw : w.ArraysCounted) : w'.ArraysCounted := by
  rcases h with _ | a | ⟨node, -, hmade, -⟩ | ⟨name, members, start⟩ | ⟨hs, -⟩ | ⟨hs, -, -⟩ |
    ⟨n, complete⟩
  · exact hw
  · exact hw.mono (w.arena.grows_perform a) fun _ _ _ _ hs => Or.inl hs
  · exact hw.add hmade
  · have harena : ({ w with arena := (w.arena.struct name).2 } : Workspace).ArraysCounted :=
      hw.mono (w.arena.grows_push _) fun _ _ _ _ hs => Or.inl hs
    exact harena.add (congrArg (Shape.struct _) (Layout.skeleton_ofMembers members))
  · exact hw.reshape hs nofun
  · exact hw.reshape hs nofun
  · exact (w.produced n complete).preserves Works.arraysCounted hw

theorem ArraysCounted.run (hw : w.ArraysCounted) (actions : List Action) :
    (w.run actions).ArraysCounted :=
  run_preserves Performs.arraysCounted hw actions

/-- The type of an array is as long as the array. -/
theorem ArraysCounted.isArray (hw : w.ArraysCounted) (hn : w.ArrayOf n count)
    (ht : w.handle? n = some t) : w.arena.IsArray t count := by
  obtain ⟨element, made, hs⟩ := hn
  obtain rfl : made = some t := (handle?_eq hs).symm.trans ht
  exact hw n element count t hs

end Workspace

/-! ### Arrays of the stream -/

variable {d d' : Declarations} {i : Instruction} {arena : TypeArena} {shader : ShaderModule}
  {name : String} {m : LoweredModule}

namespace Declarations

open Workspace

/-- An array is declared with the value of the constant that it names. -/
theorem of_visit_typeArray (hopen : d.openFunction = none) (hi : i.op? = some .typeArray)
    (h : d.visit i = .ok d') :
    ∃ id n length count, i.operands[0]? = some id ∧ i.operands[2]? = some length ∧
      d.constants.lookup length = some count ∧ d'.types.lookup id = some n ∧
      d'.workspace.ArrayOf n count := by
  rw [visit, hopen, hi] at h
  replace h : d.declareType .typeArray i = .ok d' := h
  obtain ⟨id, hid, h⟩ := of_bind_eq_ok h
  obtain ⟨elementId, -, h⟩ := of_bind_eq_ok h
  obtain ⟨element, -, h⟩ := of_bind_eq_ok h
  obtain ⟨length, hlength, h⟩ := of_bind_eq_ok h
  split at h
  · rename_i count hcount
    obtain ⟨-, rfl⟩ := of_define h
    exact ⟨id, _, length, count, Instruction.of_operand hid, Instruction.of_operand hlength,
      hcount, List.lookup_cons_self, element, none, shape?_eq (node?_add_self _ _)⟩
  · exact absurd h (by simp)

/-- **An array of the stream** has the length that its constant was given last. -/
theorem Walks.arrayLength (h : Walks arena { workspace := { arena } } shader.instructions d)
    {before after : List Instruction}
    (hsplit : moduleScope shader.instructions = before ++ i :: after)
    (hi : i.op? = some .typeArray) :
    ∃ id n length count, i.operands[0]? = some id ∧ i.operands[2]? = some length ∧
      GivesLast before length count ∧ d.types.lookup id = some n ∧
      d.workspace.ArrayOf n count := by
  obtain ⟨d₁, d₂, hby⟩ := h.exists_comesBy hsplit
  obtain ⟨is₁, hbefore, hwalks₁⟩ := hby.earlier
  obtain ⟨is₂, -, hlater⟩ := hby.later
  obtain ⟨id, n, length, count, hid, hlength, hcount, hn, harray⟩ :=
    of_visit_typeArray hby.closed hi hby.visit
  exact ⟨id, n, length, count, hid, hlength, hbefore ▸ hwalks₁.givesLast hcount,
    hlater.persists.types id n hn, hlater.persists.graph.arrayOf harray⟩

end Declarations

/-- **An array is as long as the constant says that it names.** If a shader is lowered, then
each array that it declares outside of functions names an id to which an instruction before it
gave a value, of a number type that was declared before that. The last such value is the
length of the array, and that of every type that the node of the array has been given, or is
given by whatever is done later. -/
theorem lower_array_length (hu : arena.Uniqued) (h : lower arena shader name = .ok m)
    {before after : List Instruction}
    (hsplit : moduleScope shader.instructions = before ++ i :: after)
    (hi : i.op? = some .typeArray) :
    ∃ d id n length count, Declarations.ofInstructions arena shader.instructions = .ok d ∧
      i.operands[0]? = some id ∧ d.types.lookup id = some n ∧
      i.operands[2]? = some length ∧ Declarations.GivesLast before length count ∧
      ∀ actions, (m.workspace.run actions).ArrayOf n count ∧
        ∀ t, (m.workspace.run actions).handle? n = some t →
          (m.workspace.run actions).arena.IsArray t count := by
  obtain ⟨d, w, hd, hwalks, he⟩ := Declarations.exists_of_lower hu h
  obtain ⟨id, n, length, count, hid, hlength, hgiven, hn, harray⟩ :=
    hwalks.arrayLength hsplit hi
  refine ⟨d, id, n, length, count, hd, hid, hn, hlength, hgiven, fun actions => ?_⟩
  have hfaithful : w.Faithful :=
    he.history.faithful ((Declarations.sound_ofInstructions hd).faithful hu)
  have hcounted : m.workspace.ArraysCounted :=
    he.workspace ▸ hfaithful.arraysCounted.detachAll
  have harray' : m.workspace.ArrayOf n count :=
    he.workspace ▸ Workspace.arrayOf_detachAll.mpr (he.history.graphGrows.arrayOf harray)
  have hlater := (Workspace.graphGrows_run m.workspace actions).arrayOf harray'
  exact ⟨hlater, fun t ht => (hcounted.run actions).isArray hlater ht⟩

/-- A constant of two words is given a value once more, and is then the length of an array. -/
theorem lower_array_length_given_twice :
    let before : List Instruction := [⟨21, [1, 64, 0], 5, 9⟩, ⟨22, [7, 32], 9, 12⟩,
      ⟨43, [1, 2, 5, 0], 12, 17⟩, ⟨50, [1, 2, 3, 1], 17, 22⟩]
    let instructions := before ++ ⟨28, [3, 7, 2], 22, 26⟩ ::
      [⟨32, [4, 6, 3], 26, 30⟩, ⟨59, [4, 5, 6], 30, 34⟩]
    ∃ m d n count, lower {} ⟨⟨1, 0, 0, 10⟩, instructions⟩ "unit" = .ok m ∧
      m.workspace.shape? ⟨2⟩ = some (.formed (.array ⟨1⟩ 4294967299) (some ⟨2⟩)) ∧
      Declarations.ofInstructions {} instructions = .ok d ∧ d.types.lookup 3 = some n ∧
      Declarations.GivesLast before 2 count ∧ m.workspace.ArrayOf n count := by
  intro before instructions
  have hshape : (lower {} ⟨⟨1, 0, 0, 10⟩, instructions⟩ "unit").toOption.map
      (fun m => m.workspace.shape? ⟨2⟩) =
      some (some (.formed (.array ⟨1⟩ 4294967299) (some ⟨2⟩))) := by
    decide +kernel
  obtain ⟨m, h, hm⟩ := of_toOption_map_eq_some hshape
  have hsplit : moduleScope instructions = before ++ ⟨28, [3, 7, 2], 22, 26⟩ ::
      [⟨32, [4, 6, 3], 26, 30⟩, ⟨59, [4, 5, 6], 30, 34⟩] := by
    decide
  obtain ⟨d, id, n, length, count, hd, hid, hn, hlength, hgiven, hlater⟩ :=
    lower_array_length TypeArena.uniqued_empty h hsplit (by decide)
  obtain rfl : (3 : Id) = id := Option.some.inj hid
  obtain rfl : (2 : Id) = length := Option.some.inj hlength
  exact ⟨m, d, n, count, h, hm, hd, hn, hgiven, (hlater []).1⟩

/-- **Not every length is an integer**: an array is as long as the bits of the number 4.0 say,
though there is no type of integers. -/
theorem lower_array_length_float :
    let instructions : List Instruction := [⟨22, [1, 32], 5, 8⟩, ⟨43, [1, 2, 0x40800000], 8, 12⟩,
      ⟨28, [3, 1, 2], 12, 16⟩, ⟨32, [4, 6, 3], 16, 20⟩, ⟨59, [4, 5, 6], 20, 24⟩]
    (∃ i ∈ moduleScope instructions, i.op? = some .typeArray) ∧
      (∀ i ∈ instructions, i.op? ≠ some .typeInt) ∧
      ∃ m, lower {} ⟨⟨1, 0, 0, 10⟩, instructions⟩ "unit" = .ok m ∧
        m.workspace.shape? ⟨1⟩ = some (.formed (.array ⟨0⟩ 1082130432) (some ⟨1⟩)) := by
  intro instructions
  have hshape : (lower {} ⟨⟨1, 0, 0, 10⟩, instructions⟩ "unit").toOption.map
      (fun m => m.workspace.shape? ⟨1⟩) =
      some (some (.formed (.array ⟨0⟩ 1082130432) (some ⟨1⟩))) := by
    decide +kernel
  exact ⟨by decide, by decide, of_toOption_map_eq_some hshape⟩

end ShaderLowering
