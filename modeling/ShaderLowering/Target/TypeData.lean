/-!
# The types of the target

The code generator has its own small universe of types. A type is known by a
handle, `ShaderLowering.Ty`, and what it *is* – a width, an element and a count, a
list of members – is `ShaderLowering.TypeData`, in which other types appear by
their handles again. Structs stand apart from the rest: they have a name, and they
may exist before it is known what they contain.
-/

namespace ShaderLowering

/-- The handle of a type: its place in the order in which types were made. -/
structure Ty where
  /-- The number of types made before it. -/
  index : Nat
  deriving DecidableEq, Repr

/-- The handle as it is written in a message. -/
def Ty.text (t : Ty) : String :=
  s!"NativeType({t.index})"

/-- A named struct. -/
structure StructData where
  /-- Its name, which need not be unique. -/
  name : String
  /-- The types of its members, absent while the struct is opaque. -/
  body : Option (List Ty) := none
  /-- The members follow one another without padding. -/
  packed : Bool := false
  deriving DecidableEq, Repr

/-- What a type is. -/
inductive TypeData
  | void
  | int (bits : Nat)
  | float (bits : Nat)
  | vector (element : Ty) (count : Nat)
  /-- An array; one of no elements has a length that is not known. -/
  | array (element : Ty) (count : Nat)
  | pointer (pointee : Ty) (addressSpace : Nat)
  | function (result : Ty) (params : List Ty) (variadic : Bool)
  | struct (data : StructData)
  deriving DecidableEq, Repr

/-- The address space that pointers and globals are put in. -/
def defaultAddressSpace : Nat := 0

namespace TypeData

/-- The types that appear in the data of a type, in the order they appear. -/
def parts : TypeData → List Ty
  | .void | .int _ | .float _ => []
  | .vector element _ | .array element _ => [element]
  | .pointer pointee _ => [pointee]
  | .function result params _ => result :: params
  | .struct data => data.body.getD []

end TypeData

/-! ### What the target refuses -/

/-- The kinds of number that come in widths. -/
inductive NumberKind
  | integer
  | float
  deriving DecidableEq, Repr

/-- The name of a kind of number in a message. -/
def NumberKind.text : NumberKind → String
  | .integer => "integer"
  | .float => "float"

/-- A request the target refuses. -/
inductive TypeFault
  /-- Only a named struct can be given a body. -/
  | notAStruct (type : Ty)
  /-- A struct is given a body once. -/
  | bodyAlreadySet (name : String)
  /-- A vector has at least two elements. -/
  | badVectorLength (count : Nat)
  /-- Numbers come in a few widths only. -/
  | badBitWidth (bits : Nat) (kind : NumberKind)
  deriving DecidableEq, Repr

/-- The wording of a refusal. -/
def TypeFault.message : TypeFault → String
  | .notAStruct type => s!"type {type.text} is not a named struct"
  | .bodyAlreadySet name => s!"struct '{name}' already has a body"
  | .badVectorLength count => s!"vector of {count} elements is not allowed"
  | .badBitWidth bits kind => s!"{bits}-bit {kind.text} types are not supported"

end ShaderLowering
