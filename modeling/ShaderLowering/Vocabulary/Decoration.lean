import ShaderLowering.Vocabulary.BuiltIn

/-!
# Decorations

A decoration says something about a variable or about a member of a struct: the
location it is found at, the role it plays, its layout in memory. It has a kind
and up to four parameter words, a bound which the type itself carries.
-/

namespace ShaderLowering

/-- What a decoration says about its target. -/
inductive DecorationKind
  | relaxedPrecision | specId | block | bufferBlock | rowMajor | colMajor | arrayStride
  | matrixStride | glslShared | glslPacked | cPacked | builtIn | noPerspective | flat
  | patch | centroid | sample | invariant | restrict | aliased | volatile | constant
  | coherent | nonWritable | nonReadable | uniform | saturatedConversion | stream
  | location | component | index | binding | descriptorSet | offset | xfbBuffer | xfbStride
  | funcParamAttr | fpRoundingMode | fpFastMathMode | linkageAttributes | noContraction
  | inputAttachmentIndex | alignment | maxByteOffset
  deriving DecidableEq, Repr

namespace DecorationKind

/-- Every kind of decoration, by ascending number. -/
def all : List DecorationKind :=
  [.relaxedPrecision, .specId, .block, .bufferBlock, .rowMajor, .colMajor, .arrayStride,
   .matrixStride, .glslShared, .glslPacked, .cPacked, .builtIn, .noPerspective, .flat,
   .patch, .centroid, .sample, .invariant, .restrict, .aliased, .volatile, .constant,
   .coherent, .nonWritable, .nonReadable, .uniform, .saturatedConversion, .stream,
   .location, .component, .index, .binding, .descriptorSet, .offset, .xfbBuffer, .xfbStride,
   .funcParamAttr, .fpRoundingMode, .fpFastMathMode, .linkageAttributes, .noContraction,
   .inputAttachmentIndex, .alignment, .maxByteOffset]

/-- The number a stream writes for the value, and its name in the format. -/
def entry : DecorationKind → Nat × String
  | .relaxedPrecision => (0, "RelaxedPrecision")
  | .specId => (1, "SpecId")
  | .block => (2, "Block")
  | .bufferBlock => (3, "BufferBlock")
  | .rowMajor => (4, "RowMajor")
  | .colMajor => (5, "ColMajor")
  | .arrayStride => (6, "ArrayStride")
  | .matrixStride => (7, "MatrixStride")
  | .glslShared => (8, "GLSLShared")
  | .glslPacked => (9, "GLSLPacked")
  | .cPacked => (10, "CPacked")
  | .builtIn => (11, "BuiltIn")
  | .noPerspective => (13, "NoPerspective")
  | .flat => (14, "Flat")
  | .patch => (15, "Patch")
  | .centroid => (16, "Centroid")
  | .sample => (17, "Sample")
  | .invariant => (18, "Invariant")
  | .restrict => (19, "Restrict")
  | .aliased => (20, "Aliased")
  | .volatile => (21, "Volatile")
  | .constant => (22, "Constant")
  | .coherent => (23, "Coherent")
  | .nonWritable => (24, "NonWritable")
  | .nonReadable => (25, "NonReadable")
  | .uniform => (26, "Uniform")
  | .saturatedConversion => (28, "SaturatedConversion")
  | .stream => (29, "Stream")
  | .location => (30, "Location")
  | .component => (31, "Component")
  | .index => (32, "Index")
  | .binding => (33, "Binding")
  | .descriptorSet => (34, "DescriptorSet")
  | .offset => (35, "Offset")
  | .xfbBuffer => (36, "XfbBuffer")
  | .xfbStride => (37, "XfbStride")
  | .funcParamAttr => (38, "FuncParamAttr")
  | .fpRoundingMode => (39, "FPRoundingMode")
  | .fpFastMathMode => (40, "FPFastMathMode")
  | .linkageAttributes => (41, "LinkageAttributes")
  | .noContraction => (42, "NoContraction")
  | .inputAttachmentIndex => (43, "InputAttachmentIndex")
  | .alignment => (44, "Alignment")
  | .maxByteOffset => (45, "MaxByteOffset")

instance : Enumerant DecorationKind where
  kind := "Decoration"
  all := all
  entry := entry
  find_entry := by intro a; cases a <;> rfl

end DecorationKind

/-- The number of parameter words a decoration has room for. -/
def maxDecorationParameters : Nat := 4

/-- A decoration with its parameters. -/
structure Decoration where
  /-- What the decoration says. -/
  kind : DecorationKind
  /-- Its parameter words, in order. -/
  parameters : List Word
  /-- There are no more parameters than there is room for. -/
  length_le : parameters.length ≤ maxDecorationParameters
  deriving DecidableEq, Repr

namespace Decoration

/-- The decoration of a kind with the given parameters, if there is room for them. -/
def ofParameters? (kind : DecorationKind) (parameters : List Word) : Option Decoration :=
  if h : parameters.length ≤ maxDecorationParameters then some ⟨kind, parameters, h⟩ else none

/-- The decoration with one more parameter, if there is room for it. -/
def push? (d : Decoration) (parameter : Word) : Option Decoration :=
  ofParameters? d.kind (d.parameters ++ [parameter])

/-- The decoration that binds its target to a role. -/
def ofBuiltIn (role : BuiltIn) : Decoration :=
  ⟨.builtIn, [UInt32.ofNat (Enumerant.code role)], by simp [maxDecorationParameters]⟩

/-- The role the decoration binds its target to. A first parameter that names no
role binds none. -/
def builtInRole? (d : Decoration) : Option BuiltIn :=
  match d.kind, d.parameters with
  | .builtIn, role :: _ => Enumerant.ofWord? role
  | _, _ => none

/-- The location the decoration gives its target. -/
def location? (d : Decoration) : Option Word :=
  match d.kind, d.parameters with
  | .location, location :: _ => some location
  | _, _ => none

/-- The decoration as it is written in a listing. -/
def text (d : Decoration) : String :=
  let parameters := ", ".intercalate (d.parameters.map toString)
  s!"DecorationWithParameters \x7b decoration: {Enumerant.label d.kind}, parameters: [{parameters}] \x7d"

end Decoration

end ShaderLowering
