import ShaderLowering.Vocabulary.Enumerant

/-!
# How functions are run

The stage an entry point belongs to, the modes recorded for it, and the hints a
function declaration carries for its compiler.
-/

namespace ShaderLowering

/-- The pipeline stage an entry point runs in. -/
inductive ExecutionModel
  | vertex | tessellationControl | tessellationEvaluation | geometry | fragment | glCompute
  | kernel
  deriving DecidableEq, Repr

namespace ExecutionModel

/-- Every stage, by ascending number. -/
def all : List ExecutionModel :=
  [.vertex, .tessellationControl, .tessellationEvaluation, .geometry, .fragment, .glCompute,
   .kernel]

/-- The number a stream writes for the value, and its name in the format. -/
def entry : ExecutionModel → Nat × String
  | .vertex => (0, "Vertex")
  | .tessellationControl => (1, "TessellationControl")
  | .tessellationEvaluation => (2, "TessellationEvaluation")
  | .geometry => (3, "Geometry")
  | .fragment => (4, "Fragment")
  | .glCompute => (5, "GLCompute")
  | .kernel => (6, "Kernel")

instance : Enumerant ExecutionModel where
  kind := "ExecutionModel"
  all := all
  entry := entry
  find_entry := by intro a; cases a <;> rfl

end ExecutionModel

/-- The modes of an entry point that are recorded; a stream may hold others. -/
inductive ExecutionMode
  | originUpperLeft | originLowerLeft | earlyFragmentTests | depthReplacing | localSize
  deriving DecidableEq, Repr

namespace ExecutionMode

/-- Every recorded mode, by ascending number. -/
def all : List ExecutionMode :=
  [.originUpperLeft, .originLowerLeft, .earlyFragmentTests, .depthReplacing, .localSize]

/-- The number a stream writes for the value, and its name in the format. -/
def entry : ExecutionMode → Nat × String
  | .originUpperLeft => (7, "OriginUpperLeft")
  | .originLowerLeft => (8, "OriginLowerLeft")
  | .earlyFragmentTests => (9, "EarlyFragmentTests")
  | .depthReplacing => (12, "DepthReplacing")
  | .localSize => (17, "LocalSize")

instance : Enumerant ExecutionMode where
  kind := "ExecutionMode"
  all := all
  entry := entry
  find_entry := by intro a; cases a <;> rfl

end ExecutionMode

/-- The hints of a function declaration: inline it, do not inline it, it is pure,
it is constant. They are the four lowest bits of a word. -/
structure FunctionControl where
  /-- The hints as bits. -/
  bits : Word
  deriving DecidableEq, Repr

/-- The hints a word carries; bits without a meaning are dropped. -/
def FunctionControl.ofWord (w : Word) : FunctionControl :=
  ⟨w &&& 0b1111⟩

end ShaderLowering
