import ShaderLowering.Proofs.Lowering.MadeAtOnce

/-!
# Vectors and matrices

A vector is of numbers, and a matrix is of vectors, whose types are made as soon as they are
declared: so one does not expect a struct to be completed in the middle of a shader, nor a
pointer to be made. But nobody checks what a vector or a matrix is declared to be of, which may be
any type that there is by then (`ShaderLowering.lower_vectors_of_others`).

What can be said is that a shader gets what it declares (`ShaderLowering.lower_vectors`). The
vectors of the target are of numbers exactly if those of the shader are, and a matrix is an array
of vectors exactly if that is what the shader says; and as long as it says so in all places, no
struct is completed and no pointer made before the unit is put together. The data of a component
is traced back to the instruction that settled it, in which the emission plays no part: it makes
no vectors (`ShaderLowering.Declarations.addsNo_vector_of_becomes`), and leaves the simple nodes
as they are.
-/

namespace ShaderLowering

/-! ### What is declared -/

/-- The data is that of numbers, or of truth values, which are integers of one bit. -/
def TypeData.IsScalar : TypeData → Prop
  | .int _ | .float _ => True
  | _ => False

/-- The type has data of a kind. -/
def TypeArena.IsOf (a : TypeArena) (kind : TypeData → Prop) (t : Ty) : Prop :=
  ∃ data, a.data? t = some data ∧ kind data

/-- **What the instruction names as its component is declared by an instruction of the stream**
that has one of the opcodes. -/
def Instruction.IsMadeOf (i : Instruction) (instructions : List Instruction)
    (opcodes : List Opcode) : Prop :=
  ∃ j ∈ instructions, (∃ op ∈ opcodes, j.op? = some op) ∧ j.operands[0]? = i.operands[1]?

instance (i : Instruction) (instructions : List Instruction) (opcodes : List Opcode) :
    Decidable (i.IsMadeOf instructions opcodes) :=
  inferInstanceAs (Decidable (∃ j ∈ instructions, _))

/-- The vectors that instructions declare are of numbers or truth values. -/
def VectorsOfScalars (instructions : List Instruction) : Prop :=
  ∀ i ∈ instructions, i.op? = some .typeVector →
    i.IsMadeOf instructions [.typeBool, .typeInt, .typeFloat]

/-- The matrices that instructions declare are of vectors. -/
def MatricesOfVectors (instructions : List Instruction) : Prop :=
  ∀ i ∈ instructions, i.op? = some .typeMatrix → i.IsMadeOf instructions [.typeVector]

instance (instructions : List Instruction) : Decidable (VectorsOfScalars instructions) :=
  inferInstanceAs (Decidable (∀ i ∈ instructions, _))

instance (instructions : List Instruction) : Decidable (MatricesOfVectors instructions) :=
  inferInstanceAs (Decidable (∀ i ∈ instructions, _))

namespace TypeData

variable {data : TypeData}

/-- **Types of a kind are declared by certain instructions** and no others, which make them at
once; and no other types are of the kind. -/
structure DeclaredBy (kind : TypeData → Prop) (declaring : List Opcode) : Prop where
  mem_iff : ∀ (data : TypeData) op, op ∈ data.opcodes → (op ∈ declaring ↔ kind data)
  isMadeAtOnce : ∀ op ∈ declaring, op.isMadeAtOnce = true
  isStructural : ∀ data, kind data → data.IsStructural
  not_isFormed : ∀ data, kind data → ¬data.IsFormed

theorem isScalar_declaredBy : DeclaredBy IsScalar [.typeBool, .typeInt, .typeFloat] where
  mem_iff data op hop := by cases data <;> grind [opcodes, IsScalar]
  isMadeAtOnce := by decide
  isStructural data h := by
    cases data with
    | int | float => trivial
    | _ => exact h.elim
  not_isFormed data h := by
    cases data with
    | int | float => exact id
    | _ => exact h.elim

theorem isVector_declaredBy : DeclaredBy IsVector [.typeVector] where
  mem_iff data op hop := by cases data <;> grind [opcodes, IsVector]
  isMadeAtOnce := by decide
  isStructural _ h := h.isStructural
  not_isFormed _ h hformed := hformed.not_isVector h

/-- What an instruction for vectors declares. -/
theorem exists_vector (h : .typeVector ∈ data.opcodes) :
    ∃ element count, data = .vector element count := by
  cases data with
  | vector element count => exact ⟨element, count, rfl⟩
  | _ => exact absurd h (by simp [opcodes])

/-- What an instruction for matrices declares. -/
theorem exists_array (h : .typeMatrix ∈ data.opcodes) :
    ∃ column count, data = .array column count := by
  cases data with
  | array column count => exact ⟨column, count, rfl⟩
  | _ => exact absurd h (by simp [opcodes])

end TypeData

namespace Declarations

open Workspace

variable {d : Declarations} {arena : TypeArena} {i : Instruction} {is : List Instruction} {id : Id}
  {component s : NodeId} {t element : Ty} {data : TypeData} {w : Workspace}
  {kind : TypeData → Prop} {declaring : List Opcode}

/-! ### The emission makes no vectors -/

theorem addsNo_vector_of_performs {w' : Workspace} {action : Action} (h : w.Performs action w')
    (hasking : d.Asking action) : w.arena.AddsNo TypeData.IsVector w'.arena := by
  cases h with
  | nothing | added => exact .refl _
  | arena a =>
    cases a with
    | void | pointer | function => exact w.arena.addsNo_intern id
    | _ => exact hasking.elim
  | produce n complete => exact (w.produced n complete).addsNo_vector
  | addStruct | bind | addMember => exact hasking.elim

/-- **To put a unit together makes no vectors.** -/
theorem addsNo_vector_of_becomes {w' : Workspace} (h : w.Becomes d.Asking w') :
    w.arena.AddsNo TypeData.IsVector w'.arena := by
  obtain ⟨actions, rfl, hasking⟩ := h
  induction actions generalizing w with
  | nil => exact .refl _
  | cons action actions ih =>
    obtain ⟨haction, hrest⟩ := List.forall_mem_cons.mp hasking
    exact (addsNo_vector_of_performs (w.performs action) haction).trans (ih hrest)

/-! ### What a component is declared by -/

/-- Vectors and matrices have components, which are named by ids. -/
theorem of_componentType? (h : d.componentType? i = some component) :
    (i.op? = some .typeVector ∨ i.op? = some .typeMatrix) ∧
      ∃ id, i.operands[1]? = some id ∧ d.types.lookup id = some component := by
  rw [componentType?] at h
  split at h
  · exact ⟨by assumption, Option.bind_eq_some_iff.mp h⟩
  · exact absurd h (by simp)

/-- A component that is declared by an instruction of certain opcodes is simple, and such an
instruction settled its type. -/
theorem Walks.exists_settles_of_isMadeOf (h : Walks arena { workspace := { arena } } is d)
    (hu : arena.Uniqued) (hdeclared : TypeData.DeclaredBy kind declaring)
    (hcomponent : d.componentType? i = some component)
    (hi : i.IsMadeOf (moduleScope is) declaring) :
    ∃ t j id data, d.workspace.shape? component = some (.simple t) ∧ d.Settles j id t data ∧
      kind data := by
  obtain ⟨j, hj, ⟨op, hop, hjop⟩, hsame⟩ := hi
  obtain ⟨id, t, data, hsettles, hop'⟩ :=
    h.settles hu hj hjop (hdeclared.isMadeAtOnce op hop)
  obtain ⟨n, hn, hs⟩ := hsettles.node
  obtain ⟨-, id', hid', hlookup⟩ := of_componentType? hcomponent
  -- the instruction has the id that the component is named by
  obtain rfl : id = id' := Option.some.inj ((hsettles.id.symm.trans hsame).trans hid')
  obtain rfl : n = component := Option.some.inj (hn.symm.trans hlookup)
  exact ⟨t, j, id, data, hs, hsettles, (hdeclared.mem_iff data op hop').mp hop⟩

/-- **The type of a component is of a kind in the end exactly if the component is declared so.** -/
theorem Walks.isOf_iff (h : Walks arena { workspace := { arena } } is d) (hu : arena.Uniqued)
    (hw : d.workspace.Becomes d.Asking w) (hdeclared : TypeData.DeclaredBy kind declaring)
    (hsettles : d.Settles i id t data) (helement : element ∈ data.parts) :
    w.arena.IsOf kind element ↔ i.IsMadeOf (moduleScope is) declaring := by
  obtain ⟨component, hcomponent, hhandle⟩ := hsettles.parts element helement
  have hfaithful := h.sound.faithful hu
  have hkeeps := hw.keeps hfaithful
  constructor
  · rintro ⟨data', hdata', hkind⟩
    -- the component has a type of the kind in the end, and so it was simple all along
    have hs := simple_of_skeleton_eq (becomes_asking hw).skeleton_eq.symm
      ((hw.faithful hfaithful).simple_of_handle? (hkeeps.2 _ _ hhandle) hdata'
        (hdeclared.isStructural data' hkind) (hdeclared.not_isFormed data' hkind))
    obtain ⟨-, id', hid', hlookup⟩ := of_componentType? hcomponent
    obtain ⟨j, hj, data'', hsettles'⟩ := h.exists_settles_of_lookup hu hlookup hs
    obtain ⟨op, hop, hjop⟩ := hsettles'.opcode
    have hsame := hkeeps.1.data? hsettles'.data (TypeData.isStructural_of_mem_opcodes hop)
    obtain rfl : data'' = data' := Option.some.inj (hsame.symm.trans hdata')
    exact ⟨j, hj, ⟨op, (hdeclared.mem_iff data'' op hop).mpr hkind, hjop⟩,
      hsettles'.id.trans hid'.symm⟩
  · intro hi
    obtain ⟨t', j, id', data', hs, hsettles', hkind⟩ :=
      h.exists_settles_of_isMadeOf hu hdeclared hcomponent hi
    obtain rfl : t' = element := Option.some.inj ((handle?_eq hs).symm.trans hhandle)
    exact ⟨data', hkeeps.1.data? hsettles'.data (hdeclared.isStructural data' hkind), hkind⟩

/-- Where vectors are of numbers and matrices of vectors, components are simple. -/
theorem Walks.simple_of_componentType? (h : Walks arena { workspace := { arena } } is d)
    (hu : arena.Uniqued) (hvectors : VectorsOfScalars (moduleScope is))
    (hmatrices : MatricesOfVectors (moduleScope is)) (hi : i ∈ moduleScope is)
    (hcomponent : d.componentType? i = some component) :
    ∃ t, d.workspace.shape? component = some (.simple t) := by
  rcases (of_componentType? hcomponent).1 with hop | hop
  · obtain ⟨t, -, -, -, hs, -⟩ := h.exists_settles_of_isMadeOf hu TypeData.isScalar_declaredBy
      hcomponent (hvectors i hi hop)
    exact ⟨t, hs⟩
  · obtain ⟨t, -, -, -, hs, -⟩ := h.exists_settles_of_isMadeOf hu TypeData.isVector_declaredBy
      hcomponent (hmatrices i hi hop)
    exact ⟨t, hs⟩

/-! ### Vectors, matrices and what else is made -/

/-- **The vectors that there are in the end** are of numbers exactly if they are declared so. -/
theorem Walks.vectors_iff (h : Walks {} { workspace := {} } is d)
    (hw : d.workspace.Becomes d.Asking w) :
    (∀ t element count, w.arena.data? t = some (.vector element count) →
      w.arena.IsOf TypeData.IsScalar element) ↔ VectorsOfScalars (moduleScope is) := by
  have hu := TypeArena.uniqued_empty
  constructor
  · intro hall i hi hop
    obtain ⟨id, t, data, hsettles, hmem⟩ := h.settles hu hi hop rfl
    obtain ⟨element, count, rfl⟩ := TypeData.exists_vector hmem
    have hdata := (hw.keeps (h.sound.faithful hu)).1.data? hsettles.data trivial
    exact (h.isOf_iff hu hw TypeData.isScalar_declaredBy hsettles
      (List.mem_singleton_self _)).mp (hall t element count hdata)
  · intro hvectors t element count ht
    have hvector : TypeData.IsVector (.vector element count) := trivial
    rcases h.exists_settles_of_vector hu hvector
      (addsNo_vector_of_becomes hw t _ hvector ht) with hnone | ⟨i, hi, id, hsettles⟩
    · exact nomatch hnone
    · obtain ⟨op, hmem, hop⟩ := hsettles.opcode
      obtain rfl := List.mem_singleton.mp hmem
      exact (h.isOf_iff hu hw TypeData.isScalar_declaredBy hsettles
        (List.mem_singleton_self _)).mpr (hvectors i hi hop)

/-- **A matrix** has a type of arrays in the end, and they are of vectors exactly if it is
declared so. -/
theorem Walks.matrix (h : Walks arena { workspace := { arena } } is d) (hu : arena.Uniqued)
    (hw : d.workspace.Becomes d.Asking w) (hi : i ∈ moduleScope is)
    (hop : i.op? = some .typeMatrix) :
    ∃ id n t column count, i.operands[0]? = some id ∧ d.types.lookup id = some n ∧
      w.handle? n = some t ∧ w.arena.data? t = some (.array column count) ∧
      (w.arena.IsOf TypeData.IsVector column ↔ i.IsMadeOf (moduleScope is) [.typeVector]) := by
  obtain ⟨id, t, data, hsettles, hmem⟩ := h.settles hu hi hop rfl
  obtain ⟨column, count, rfl⟩ := TypeData.exists_array hmem
  obtain ⟨n, hn, hs⟩ := hsettles.node
  have hkeeps := hw.keeps (h.sound.faithful hu)
  exact ⟨id, n, t, column, count, hsettles.id, hn, hkeeps.2 n t (handle?_eq hs),
    hkeeps.1.data? hsettles.data trivial, h.isOf_iff hu hw TypeData.isVector_declaredBy hsettles
      (List.mem_singleton_self _)⟩

/-- **Where vectors are of numbers and matrices of vectors**, a walk completes no struct and makes
no pointer. -/
theorem Walks.nothing_else (h : Walks {} { workspace := {} } is d)
    (hvectors : VectorsOfScalars (moduleScope is))
    (hmatrices : MatricesOfVectors (moduleScope is)) :
    (∀ n, ¬d.workspace.IsComplete n) ∧
      ∀ t pointee space, d.workspace.arena.data? t ≠ some (.pointer pointee space) := by
  have hsimple {i : Instruction} {component : NodeId} (hi : i ∈ moduleScope is)
      (hcomponent : d.componentType? i = some component) :
      ∃ t, d.workspace.shape? component = some (.simple t) :=
    h.simple_of_componentType? TypeArena.uniqued_empty hvectors hmatrices hi hcomponent
  refine ⟨fun n hn => ?_, fun t pointee space ht => ?_⟩
  · rcases h.isComplete hn with ⟨layout, hlayout, -⟩ | ⟨i, hi, component, hcomponent, hcontains⟩
    · exact nomatch hlayout
    · -- a simple node contains nothing but itself
      obtain ⟨t, hs⟩ := hsimple hi hcomponent
      rcases Relation.ReflTransGen.cases_head hcontains with rfl | ⟨m, hm, -⟩
      · obtain ⟨layout, hlayout, -⟩ := hn
        obtain ⟨t', hstruct⟩ := layout?_eq_some_iff.mp hlayout
        exact nomatch hs.symm.trans hstruct
      · exact absurd ((refers_iff_of_shape? hs).mp hm.1) List.not_mem_nil
  · have hpointer : TypeData.IsPointer (.pointer pointee space) := trivial
    rcases h.pointer hpointer ht with hnone | ⟨i, hi, component, hcomponent, hne⟩
    · exact nomatch hnone
    · obtain ⟨u, hs⟩ := hsimple hi hcomponent
      exact hne u hs

end Declarations

open Declarations

/-- **A shader gets what it declares.** If a shader is lowered, starting with no types, then the
vectors that there are in the end are of integers or floating-point numbers exactly if the vectors
of the shader are declared so. Each of its matrices has a type of arrays, and they are of vectors
exactly if the matrix is declared so. And if both is true of the whole shader, then up to the end
of its instructions no struct is completed and no pointer is made. -/
theorem lower_vectors {shader : ShaderModule} {name : String} {m : LoweredModule}
    (h : lower {} shader name = .ok m) :
    ((∀ t element count, m.workspace.arena.data? t = some (.vector element count) →
      m.workspace.arena.IsOf TypeData.IsScalar element) ↔
        VectorsOfScalars (moduleScope shader.instructions)) ∧
    ∃ d, ofInstructions {} shader.instructions = .ok d ∧
      (∀ i ∈ moduleScope shader.instructions, i.op? = some .typeMatrix →
        ∃ id n t column count, i.operands[0]? = some id ∧ d.types.lookup id = some n ∧
          m.workspace.handle? n = some t ∧
          m.workspace.arena.data? t = some (.array column count) ∧
          (m.workspace.arena.IsOf TypeData.IsVector column ↔
            i.IsMadeOf (moduleScope shader.instructions) [.typeVector])) ∧
      (VectorsOfScalars (moduleScope shader.instructions) →
        MatricesOfVectors (moduleScope shader.instructions) →
        (∀ n, ¬d.workspace.IsComplete n) ∧
          ∀ t pointee space, d.workspace.arena.data? t ≠ some (.pointer pointee space)) := by
  obtain ⟨d, hd, hemit⟩ := of_bind_eq_ok h
  obtain ⟨w, hw, hm⟩ := becomes_of_emit hemit
  have hwalks := walks_ofInstructions hd
  have harena : m.workspace.arena = w.arena := by rw [hm]; rfl
  have hhandle : m.workspace.handle? = w.handle? := by rw [hm, Workspace.handle?_detachAll]
  rw [harena, hhandle]
  exact ⟨hwalks.vectors_iff hw, d, hd,
    fun i hi hop => hwalks.matrix TypeArena.uniqued_empty hw hi hop, hwalks.nothing_else⟩

/-- A matrix of vectors of numbers in a struct: the struct is complete in the end, but not when the
instructions have been read. -/
theorem lower_vectors_matrix :
    let instructions : List Instruction :=
      [⟨22, [1, 32], 5, 8⟩, ⟨23, [2, 1, 3], 8, 12⟩, ⟨24, [3, 2, 4], 12, 16⟩, ⟨30, [4, 3], 16, 19⟩,
        ⟨32, [5, 6, 4], 19, 23⟩, ⟨59, [5, 6, 6], 23, 27⟩]
    ∃ m d, lower {} ⟨⟨1, 0, 0, 10⟩, instructions⟩ "unit" = .ok m ∧
      m.workspace.IsComplete ⟨3⟩ ∧ (∀ t element count,
        m.workspace.arena.data? t = some (.vector element count) →
          m.workspace.arena.IsOf TypeData.IsScalar element) ∧
      ofInstructions {} instructions = .ok d ∧ ¬d.workspace.IsComplete ⟨3⟩ := by
  intro instructions
  have hshape : (lower {} ⟨⟨1, 0, 0, 10⟩, instructions⟩ "unit").toOption.map
      (fun m => (m.workspace.layout? ⟨3⟩).map Layout.complete) = some (some true) := by
    decide +kernel
  obtain ⟨m, h, hm⟩ := of_toOption_map_eq_some hshape
  have hvectors : VectorsOfScalars (moduleScope instructions) := by decide +kernel
  have hmatrices : MatricesOfVectors (moduleScope instructions) := by decide +kernel
  obtain ⟨hiff, d, hd, -, hnothing⟩ := lower_vectors h
  exact ⟨m, d, h, Option.map_eq_some_iff.mp hm, hiff.mpr hvectors, hd,
    (hnothing hvectors hmatrices).1 ⟨3⟩⟩

/-- **Nobody checks what vectors and matrices are of**: a vector of vectors, a matrix of structs,
which completes the struct when it is read, and a matrix of pointers, which makes their type. -/
theorem lower_vectors_of_others :
    let instructions : List Instruction :=
      [⟨22, [1, 32], 5, 8⟩, ⟨23, [2, 1, 2], 8, 12⟩, ⟨23, [3, 2, 2], 12, 16⟩, ⟨30, [4, 1], 16, 19⟩,
        ⟨24, [5, 4, 2], 19, 23⟩, ⟨32, [6, 6, 1], 23, 27⟩, ⟨24, [7, 6, 2], 27, 31⟩]
    ∃ m d, lower {} ⟨⟨1, 0, 0, 10⟩, instructions⟩ "unit" = .ok m ∧
      m.workspace.arena.data? ⟨2⟩ = some (.vector ⟨1⟩ 2) ∧
      ¬m.workspace.arena.IsOf TypeData.IsScalar ⟨1⟩ ∧
      m.workspace.arena.data? ⟨4⟩ = some (.array ⟨3⟩ 2) ∧
      ¬m.workspace.arena.IsOf TypeData.IsVector ⟨3⟩ ∧
      ofInstructions {} instructions = .ok d ∧ d.workspace.IsComplete ⟨3⟩ ∧
      d.workspace.arena.data? ⟨5⟩ = some (.pointer ⟨0⟩ defaultAddressSpace) := by
  intro instructions
  have hlower : (lower {} ⟨⟨1, 0, 0, 10⟩, instructions⟩ "unit").toOption.map (fun m =>
      [⟨1⟩, ⟨2⟩, ⟨3⟩, ⟨4⟩].map m.workspace.arena.data?) =
      some [some (.vector ⟨0⟩ 2), some (.vector ⟨1⟩ 2),
        some (.struct ⟨"struct_4", some [⟨0⟩], false⟩), some (.array ⟨3⟩ 2)] := by
    decide +kernel
  have hread : (ofInstructions {} instructions).toOption.map (fun d =>
      ((d.workspace.layout? ⟨3⟩).map Layout.complete, d.workspace.arena.data? ⟨5⟩)) =
      some (some true, some (.pointer ⟨0⟩ defaultAddressSpace)) := by
    decide +kernel
  obtain ⟨m, h, hm⟩ := of_toOption_map_eq_some hlower
  obtain ⟨d, hd, hparts⟩ := of_toOption_map_eq_some hread
  simp only [List.map_cons, List.map_nil, List.cons.injEq, and_true] at hm
  obtain ⟨hvector, hvectors, hstruct, harray⟩ := hm
  obtain ⟨hcomplete, hpointer⟩ := Prod.mk.inj hparts
  refine ⟨m, d, h, hvectors, ?_, harray, ?_, hd, Option.map_eq_some_iff.mp hcomplete, hpointer⟩
  · rintro ⟨data, hdata, hscalar⟩
    obtain rfl := Option.some.inj (hvector.symm.trans hdata)
    exact hscalar
  · rintro ⟨data, hdata, hisVector⟩
    obtain rfl := Option.some.inj (hstruct.symm.trans hdata)
    exact hisVector

end ShaderLowering
