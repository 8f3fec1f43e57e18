import ShaderLowering.CommandLine
import ShaderLowering.Diagnostic
import ShaderLowering.Lowering.Declarations
import ShaderLowering.Lowering.Emission
import ShaderLowering.Lowering.InterfaceListing
import ShaderLowering.Lowering.TypeDeclaration
import ShaderLowering.Lowering.Walk
import ShaderLowering.Main
import ShaderLowering.Operand.LiteralNumber
import ShaderLowering.Operand.LiteralShape
import ShaderLowering.Proofs.Lowering.Acceptance
import ShaderLowering.Proofs.Lowering.ArrayLengths
import ShaderLowering.Proofs.Lowering.CommandLine
import ShaderLowering.Proofs.Lowering.Correspondence
import ShaderLowering.Proofs.Lowering.Cycles
import ShaderLowering.Proofs.Lowering.DeclarationOrder
import ShaderLowering.Proofs.Lowering.Declared
import ShaderLowering.Proofs.Lowering.Decorated
import ShaderLowering.Proofs.Lowering.Emission
import ShaderLowering.Proofs.Lowering.EmissionEmbedding
import ShaderLowering.Proofs.Lowering.Emitted
import ShaderLowering.Proofs.Lowering.ExecutionModes
import ShaderLowering.Proofs.Lowering.ForwardDeclarations
import ShaderLowering.Proofs.Lowering.Gathered
import ShaderLowering.Proofs.Lowering.GlobalOrder
import ShaderLowering.Proofs.Lowering.InterfaceLayout
import ShaderLowering.Proofs.Lowering.InterfaceUse
import ShaderLowering.Proofs.Lowering.Internal
import ShaderLowering.Proofs.Lowering.Listing
import ShaderLowering.Proofs.Lowering.MadeAtOnce
import ShaderLowering.Proofs.Lowering.OlderTypes
import ShaderLowering.Proofs.Lowering.OpaqueStructs
import ShaderLowering.Proofs.Lowering.Outline
import ShaderLowering.Proofs.Lowering.Places
import ShaderLowering.Proofs.Lowering.Recorded
import ShaderLowering.Proofs.Lowering.Renaming
import ShaderLowering.Proofs.Lowering.Reports
import ShaderLowering.Proofs.Lowering.Skipped
import ShaderLowering.Proofs.Lowering.TypeTexts
import ShaderLowering.Proofs.Lowering.Vectors
import ShaderLowering.Proofs.Lowering.Walk
import ShaderLowering.Proofs.Lowering.WalkAside
import ShaderLowering.Proofs.Lowering.WalkEmbedding
import ShaderLowering.Proofs.Lowering.WalkRenaming
import ShaderLowering.Proofs.Lowering.WrapperSymbols
import ShaderLowering.Proofs.Operand.EndlessShapes
import ShaderLowering.Proofs.Operand.LiteralValues
import ShaderLowering.Proofs.Stream.ByteOrders
import ShaderLowering.Proofs.Stream.Framing
import ShaderLowering.Proofs.Stream.LiteralStrings
import ShaderLowering.Proofs.Stream.Refusal
import ShaderLowering.Proofs.Stream.Utf8Coding
import ShaderLowering.Proofs.Target.Growth
import ShaderLowering.Proofs.Target.Interning
import ShaderLowering.Proofs.Target.Making
import ShaderLowering.Proofs.Target.Printing
import ShaderLowering.Proofs.Target.Reading
import ShaderLowering.Proofs.Target.Refusals
import ShaderLowering.Proofs.Target.Renaming
import ShaderLowering.Proofs.Target.SizeSearch
import ShaderLowering.Proofs.Target.Sized
import ShaderLowering.Proofs.Target.Sizing
import ShaderLowering.Proofs.Target.Spelling
import ShaderLowering.Proofs.Target.Symbols
import ShaderLowering.Proofs.TypeGraph.Acceptance
import ShaderLowering.Proofs.TypeGraph.Answer
import ShaderLowering.Proofs.TypeGraph.Bound
import ShaderLowering.Proofs.TypeGraph.BuiltInSlots
import ShaderLowering.Proofs.TypeGraph.ByValue
import ShaderLowering.Proofs.TypeGraph.Changing
import ShaderLowering.Proofs.TypeGraph.Completion
import ShaderLowering.Proofs.TypeGraph.Detached
import ShaderLowering.Proofs.TypeGraph.Embedding
import ShaderLowering.Proofs.TypeGraph.Failure
import ShaderLowering.Proofs.TypeGraph.Growth
import ShaderLowering.Proofs.TypeGraph.GuardCount
import ShaderLowering.Proofs.TypeGraph.History
import ShaderLowering.Proofs.TypeGraph.HistoryImage
import ShaderLowering.Proofs.TypeGraph.Image
import ShaderLowering.Proofs.TypeGraph.Integrity
import ShaderLowering.Proofs.TypeGraph.Lifetime
import ShaderLowering.Proofs.TypeGraph.Makeable
import ShaderLowering.Proofs.TypeGraph.Marks
import ShaderLowering.Proofs.TypeGraph.Nesting
import ShaderLowering.Proofs.TypeGraph.Operations
import ShaderLowering.Proofs.TypeGraph.Produced
import ShaderLowering.Proofs.TypeGraph.Recursion
import ShaderLowering.Proofs.TypeGraph.Renaming
import ShaderLowering.Proofs.TypeGraph.Repetition
import ShaderLowering.Proofs.TypeGraph.SelfContainment
import ShaderLowering.Proofs.TypeGraph.Sizable
import ShaderLowering.Proofs.TypeGraph.Skeleton
import ShaderLowering.Proofs.TypeGraph.Stability
import ShaderLowering.Proofs.TypeGraph.Ways
import ShaderLowering.Proofs.TypeGraph.WriteOnce
import ShaderLowering.Stream.Binary
import ShaderLowering.Stream.Instruction
import ShaderLowering.Stream.LiteralString
import ShaderLowering.Stream.ShaderModule
import ShaderLowering.Target.CodeUnit
import ShaderLowering.Target.TypeArena
import ShaderLowering.Target.TypeData
import ShaderLowering.Target.TypeText
import ShaderLowering.TypeGraph.Depth
import ShaderLowering.TypeGraph.Description
import ShaderLowering.TypeGraph.Guard
import ShaderLowering.TypeGraph.Node
import ShaderLowering.TypeGraph.Production
import ShaderLowering.TypeGraph.Workspace
import ShaderLowering.Utf8
import ShaderLowering.Vocabulary.BuiltIn
import ShaderLowering.Vocabulary.Decoration
import ShaderLowering.Vocabulary.Enumerant
import ShaderLowering.Vocabulary.Execution
import ShaderLowering.Vocabulary.Opcode
import ShaderLowering.Vocabulary.StorageClass
import ShaderLowering.Word
