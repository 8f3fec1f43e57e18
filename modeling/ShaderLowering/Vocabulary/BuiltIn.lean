import ShaderLowering.Vocabulary.Enumerant

/-!
# Built-in roles

A slot of a shader's interface may be bound to a role the format defines: the
position of a vertex, the index of an instance, and so on.
-/

namespace ShaderLowering

/-- The roles the format itself gives to an interface slot. -/
inductive BuiltIn
  | position | pointSize | clipDistance | cullDistance | vertexId | instanceId
  | primitiveId | invocationId | layer | viewportIndex | tessLevelOuter | tessLevelInner
  | tessCoord | patchVertices | fragCoord | pointCoord | frontFacing | sampleId
  | samplePosition | sampleMask | fragDepth | helperInvocation | numWorkgroups
  | workgroupSize | workgroupId | localInvocationId | globalInvocationId
  | localInvocationIndex | workDim | globalSize | enqueuedWorkgroupSize | globalOffset
  | globalLinearId | subgroupSize | subgroupMaxSize | numSubgroups | numEnqueuedSubgroups
  | subgroupId | subgroupLocalInvocationId | vertexIndex | instanceIndex | baseVertex
  | baseInstance | drawIndex | deviceIndex | viewIndex
  deriving DecidableEq, Repr

namespace BuiltIn

/-- Every role, by ascending number. -/
def all : List BuiltIn :=
  [.position, .pointSize, .clipDistance, .cullDistance, .vertexId, .instanceId,
   .primitiveId, .invocationId, .layer, .viewportIndex, .tessLevelOuter, .tessLevelInner,
   .tessCoord, .patchVertices, .fragCoord, .pointCoord, .frontFacing, .sampleId,
   .samplePosition, .sampleMask, .fragDepth, .helperInvocation, .numWorkgroups,
   .workgroupSize, .workgroupId, .localInvocationId, .globalInvocationId,
   .localInvocationIndex, .workDim, .globalSize, .enqueuedWorkgroupSize, .globalOffset,
   .globalLinearId, .subgroupSize, .subgroupMaxSize, .numSubgroups, .numEnqueuedSubgroups,
   .subgroupId, .subgroupLocalInvocationId, .vertexIndex, .instanceIndex, .baseVertex,
   .baseInstance, .drawIndex, .deviceIndex, .viewIndex]

/-- The number a stream writes for the value, and its name in the format. -/
def entry : BuiltIn → Nat × String
  | .position => (0, "Position")
  | .pointSize => (1, "PointSize")
  | .clipDistance => (3, "ClipDistance")
  | .cullDistance => (4, "CullDistance")
  | .vertexId => (5, "VertexId")
  | .instanceId => (6, "InstanceId")
  | .primitiveId => (7, "PrimitiveId")
  | .invocationId => (8, "InvocationId")
  | .layer => (9, "Layer")
  | .viewportIndex => (10, "ViewportIndex")
  | .tessLevelOuter => (11, "TessLevelOuter")
  | .tessLevelInner => (12, "TessLevelInner")
  | .tessCoord => (13, "TessCoord")
  | .patchVertices => (14, "PatchVertices")
  | .fragCoord => (15, "FragCoord")
  | .pointCoord => (16, "PointCoord")
  | .frontFacing => (17, "FrontFacing")
  | .sampleId => (18, "SampleId")
  | .samplePosition => (19, "SamplePosition")
  | .sampleMask => (20, "SampleMask")
  | .fragDepth => (22, "FragDepth")
  | .helperInvocation => (23, "HelperInvocation")
  | .numWorkgroups => (24, "NumWorkgroups")
  | .workgroupSize => (25, "WorkgroupSize")
  | .workgroupId => (26, "WorkgroupId")
  | .localInvocationId => (27, "LocalInvocationId")
  | .globalInvocationId => (28, "GlobalInvocationId")
  | .localInvocationIndex => (29, "LocalInvocationIndex")
  | .workDim => (30, "WorkDim")
  | .globalSize => (31, "GlobalSize")
  | .enqueuedWorkgroupSize => (32, "EnqueuedWorkgroupSize")
  | .globalOffset => (33, "GlobalOffset")
  | .globalLinearId => (34, "GlobalLinearId")
  | .subgroupSize => (36, "SubgroupSize")
  | .subgroupMaxSize => (37, "SubgroupMaxSize")
  | .numSubgroups => (38, "NumSubgroups")
  | .numEnqueuedSubgroups => (39, "NumEnqueuedSubgroups")
  | .subgroupId => (40, "SubgroupId")
  | .subgroupLocalInvocationId => (41, "SubgroupLocalInvocationId")
  | .vertexIndex => (42, "VertexIndex")
  | .instanceIndex => (43, "InstanceIndex")
  | .baseVertex => (4424, "BaseVertex")
  | .baseInstance => (4425, "BaseInstance")
  | .drawIndex => (4426, "DrawIndex")
  | .deviceIndex => (4438, "DeviceIndex")
  | .viewIndex => (4440, "ViewIndex")

instance : Enumerant BuiltIn where
  kind := "BuiltIn"
  all := all
  entry := entry
  find_entry := by intro a; cases a <;> rfl

end BuiltIn

end ShaderLowering
