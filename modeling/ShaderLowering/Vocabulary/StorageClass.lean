import ShaderLowering.Vocabulary.Enumerant

/-!
# Storage classes

Every pointer says what kind of memory it points into. Two classes are special:
variables in them are a shader's inputs and outputs, and are gathered into its
interface struct instead of becoming globals.
-/

namespace ShaderLowering

/-- Where the memory behind a pointer lives. -/
inductive StorageClass
  | uniformConstant | input | uniform | output | workgroup | crossWorkgroup
  | privateStorage | function | generic | pushConstant | atomicCounter | image
  | storageBuffer
  deriving DecidableEq, Repr

namespace StorageClass

/-- Every storage class, by ascending number. -/
def all : List StorageClass :=
  [.uniformConstant, .input, .uniform, .output, .workgroup, .crossWorkgroup,
   .privateStorage, .function, .generic, .pushConstant, .atomicCounter, .image,
   .storageBuffer]

/-- The number a stream writes for the value, and its name in the format. -/
def entry : StorageClass → Nat × String
  | .uniformConstant => (0, "UniformConstant")
  | .input => (1, "Input")
  | .uniform => (2, "Uniform")
  | .output => (3, "Output")
  | .workgroup => (4, "Workgroup")
  | .crossWorkgroup => (5, "CrossWorkgroup")
  | .privateStorage => (6, "Private")
  | .function => (7, "Function")
  | .generic => (8, "Generic")
  | .pushConstant => (9, "PushConstant")
  | .atomicCounter => (10, "AtomicCounter")
  | .image => (11, "Image")
  | .storageBuffer => (12, "StorageBuffer")

instance : Enumerant StorageClass where
  kind := "StorageClass"
  all := all
  entry := entry
  find_entry := by intro a; cases a <;> rfl

/-- Variables of the class belong to the shader's interface. -/
def isInterface : StorageClass → Bool
  | .input | .output => true
  | _ => false

end StorageClass

end ShaderLowering
