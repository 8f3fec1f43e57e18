import ShaderLowering.Utf8
import ShaderLowering.Vocabulary.Opcode
import ShaderLowering.Vocabulary.StorageClass
import ShaderLowering.Target.TypeData

/-!
# Diagnostics

Whatever goes wrong with a shader is reported in one form: a cause, and the stretch
of the word stream it is about. The stretch is half open; one that ends where it
begins points at an instruction without saying how far it reaches. Every cause is a
constructor of `ShaderLowering.Cause`, and the wording of them all is in
`ShaderLowering.Cause.message`.
-/

namespace ShaderLowering

/-- Why the words of a literal string are not a string. -/
inductive StringFault
  /-- The bytes before the terminator are not UTF-8. -/
  | notUtf8 (fault : Utf8.Fault)
  /-- No byte is zero. -/
  | unterminated
  deriving DecidableEq, Repr

/-- The wording of a fault in a literal string. -/
def StringFault.message : StringFault → String
  | .notUtf8 fault => s!"literal string is not UTF-8: {fault.message}"
  | .unterminated => "literal string is missing its nul terminator"

/-- What went wrong with a shader. -/
inductive Cause
  -- the binary and its framing
  /-- The bytes do not fill their last word. -/
  | raggedBinary (length : Nat)
  /-- The first word is not the one every binary begins with. -/
  | badMagic
  /-- There are fewer words than a header has. -/
  | headerTooShort
  /-- The major version is not the one understood. -/
  | unsupportedVersion (major minor : Nat)
  /-- The word reserved for an instruction schema is in use. -/
  | unsupportedSchema (schema : Word)
  /-- An instruction claims to have no words, not even its first. -/
  | zeroWordCount
  /-- An instruction claims more words than are left. -/
  | runsPastEnd (wordCount : Nat)
  -- the operands of an instruction
  /-- An instruction has fewer operands than its meaning asks for. -/
  | missingOperand (op : Option Opcode) (index : Nat)
  /-- A literal string cannot be read. -/
  | badString (fault : StringFault)
  /-- A number is no value of its enumeration. -/
  | badEnumerant (kind : String) (value : Word)
  /-- A literal is asked for where the instruction has none. -/
  | notALiteral (index : Nat) (op : Option Opcode)
  /-- A literal is wider than the two words that can be read. -/
  | literalTooWide (width : Nat)
  /-- Fewer words are left than a literal of the width takes. -/
  | literalCutShort (width needed remaining : Nat)
  -- types of the target
  /-- The target refuses a type. -/
  | refusedType (fault : TypeFault)
  -- nodes of the type graph
  /-- A node is being produced from within its own production too many times over. -/
  | tooManyRecursions
  /-- A pointer is produced before its pointee is known. -/
  | unboundPointer
  /-- A pointer that has a pointee is given another. -/
  | alreadyBound
  /-- A struct that has its layout is given another member. -/
  | layoutComplete
  /-- No node has the given number. -/
  | unknownNode (index : Nat)
  -- what instructions declare
  /-- An id is used as a type and is none. -/
  | notAType (id : Id)
  /-- An id is declared twice. -/
  | alreadyDefined (id : Id)
  /-- An instruction is known but cannot be lowered. -/
  | unsupportedInstruction (op : Opcode)
  /-- A type declaration is known but cannot be lowered. -/
  | unsupportedType (op : Opcode)
  /-- A constant's type has no width to size its literal by. -/
  | constantNotScalar (type : Id)
  /-- A constant's literal is sized by something other than its type. -/
  | unexpectedLiteral
  /-- The length of an array is no known constant. -/
  | lengthNotConstant (id : Id)
  /-- A pointer is defined in another storage class than it was declared in. -/
  | storageClassChanged (id : Id) (declared defined : StorageClass)
  /-- A function's type is no function type. -/
  | nonFunctionType (id : Id)
  /-- A function's result type is unknown. -/
  | unknownResultType (id type : Id)
  /-- An instruction that belongs in a function stands outside of one. -/
  | outsideFunction (op : Opcode)
  /-- A function begins inside another. -/
  | nestedFunction
  /-- A function does not end. -/
  | unterminatedFunction
  /-- An execution mode is for something that is no entry point. -/
  | modeWithoutEntryPoint (id : Id)
  /-- A variable of a function stands outside of any function. -/
  | functionStorage (id : Id)
  /-- A variable's type is no pointer. -/
  | notAPointer (id : Id)
  /-- A variable's type is a pointer whose pointee is not known. -/
  | forwardDeclaredPointer (id : Id)
  /-- The interface is gathered in something that is no struct. -/
  | interfaceNotAStruct
  -- what is emitted
  /-- A global's pointer type has no pointee any more. -/
  | lostPointee
  /-- A global cannot be stored. -/
  | unsizedGlobal (id : Id)
  /-- An interface variable cannot be stored. -/
  | unsizedInterface (id : Id)
  /-- A function returns what cannot be stored. -/
  | unsizedResult (id : Id)
  /-- A function takes what cannot be stored. -/
  | unsizedParameter (index : Nat) (id : Id)
  /-- A function has another number of parameters than its type has. -/
  | parameterCount (id : Id) (given taken : Nat)
  /-- An entry point runs a function that does not exist. -/
  | undefinedEntry (name : String) (function : Id)
  -- what callers add
  /-- A cause a caller words itself. -/
  | note (text : String)
  deriving DecidableEq, Repr

/-- The wording of a cause. -/
def Cause.message : Cause → String
  | .raggedBinary length => s!"SPIR-V binary length {length} is not a multiple of 4"
  | .badMagic => "invalid SPIR-V magic number"
  | .headerTooShort => "SPIR-V module is too short to hold a header"
  | .unsupportedVersion major minor => s!"unsupported SPIR-V version {major}.{minor}"
  | .unsupportedSchema schema => s!"unsupported SPIR-V schema {schema}"
  | .zeroWordCount => "instruction has a word count of zero"
  | .runsPastEnd wordCount =>
    s!"instruction with {wordCount} words runs past the end of the module"
  | .missingOperand (some op) index => s!"{op.mnemonic} is missing operand {index}"
  | .missingOperand none index => s!"instruction is missing operand {index}"
  | .badString fault => fault.message
  | .badEnumerant kind value => s!"bad {kind} value: {value}"
  | .notALiteral index (some op) => s!"operand {index} of {op.mnemonic} is not a literal number"
  | .notALiteral index none => s!"operand {index} of  is not a literal number"
  | .literalTooWide width => s!"{width}-bit literals are not supported"
  | .literalCutShort width needed remaining =>
    s!"{width}-bit literal needs {needed} words but only {remaining} remain"
  | .refusedType fault => fault.message
  | .tooManyRecursions => "too many recursions making type"
  | .unboundPointer => "attempting to create type from pointer forward declaration"
  | .alreadyBound => "pointer base type is already bound"
  | .layoutComplete => "can't add a member to a struct whose layout is already complete"
  | .unknownNode index => s!"there is no type node {index}"
  | .notAType id => s!"id {id} is not a type"
  | .alreadyDefined id => s!"id {id} is already defined"
  | .unsupportedInstruction op => s!"{op.mnemonic} is not supported"
  | .unsupportedType op => s!"unsupported type: {op.mnemonic}"
  | .constantNotScalar type => s!"constant result type {type} is not a scalar"
  | .unexpectedLiteral => "unexpected literal shape for a constant"
  | .lengthNotConstant id => s!"array length %{id} is not an integer constant"
  | .storageClassChanged id declared defined =>
    s!"pointer %{id} was forward declared as {Enumerant.label declared}" ++
      s!" but defined as {Enumerant.label defined}"
  | .nonFunctionType id => s!"function %{id} has a non-function type"
  | .unknownResultType id type => s!"function %{id} has unknown result type {type}"
  | .outsideFunction op => s!"{op.mnemonic} outside of a function"
  | .nestedFunction => "OpFunction inside another function"
  | .unterminatedFunction => "function is missing OpFunctionEnd"
  | .modeWithoutEntryPoint id => s!"execution mode for %{id}, which is not an entry point"
  | .functionStorage id => s!"variable %{id} has Function storage outside a function"
  | .notAPointer id => s!"variable %{id} does not have a pointer type"
  | .forwardDeclaredPointer id => s!"variable %{id} has a forward declared pointer type"
  | .interfaceNotAStruct => "interface struct is not a struct"
  | .lostPointee => "global variable lost its pointee type"
  | .unsizedGlobal id => s!"global variable %{id} has an unsized type"
  | .unsizedInterface id => s!"interface variable %{id} has an unsized type"
  | .unsizedResult id => s!"function %{id} returns an unsized type"
  | .unsizedParameter index id => s!"parameter {index} of function %{id} has an unsized type"
  | .parameterCount id given taken =>
    s!"function %{id} has {given} parameters but its type takes {taken}"
  | .undefinedEntry name function =>
    s!"entry point '{name}' refers to undefined function %{function}"
  | .note text => text

/-- A cause and the words it is about, from `start` up to but not including `stop`. -/
structure Diagnostic where
  /-- The first word. -/
  start : Nat
  /-- The word after the last. -/
  stop : Nat
  /-- What went wrong there. -/
  cause : Cause
  deriving DecidableEq, Repr

namespace Diagnostic

/-- A diagnostic that points at the beginning of an instruction. -/
def pointing (start : Nat) (cause : Cause) : Diagnostic :=
  ⟨start, start, cause⟩

/-- The full text of a diagnostic. -/
def text (d : Diagnostic) : String :=
  s!"{d.cause.message} (words {d.start}..{d.stop})"

end Diagnostic

/-- The value of an enumeration that a word stands for, reported at `start` if it
stands for none. -/
def Enumerant.decode {α : Type} [Enumerant α] (value : Word) (start : Nat) :
    Except Diagnostic α :=
  match Enumerant.ofWord? value with
  | some a => .ok a
  | none => .error (.pointing start (.badEnumerant (Enumerant.kind α) value))

end ShaderLowering
