import ShaderLowering.Target.TypeData

/-!
# The arena of types

All types of the target live in one arena, in the order in which they were made.
Structural types are unique: asking again for a shape that is already there gives
the old handle and makes nothing. Named structs are not: each request makes a new
one, opaque at first, which is given its body once.

Uniqueness is kept by searching the arena for the wanted data before adding it, so
there is no second record of what the arena holds that could fall out of step.
-/

namespace ShaderLowering

/-- The types made so far, the handle of each being its place. -/
structure TypeArena where
  /-- The data of each type. -/
  types : Array TypeData := #[]
  deriving DecidableEq, Repr

namespace TypeArena

/-- The number of types made. -/
def size (a : TypeArena) : Nat :=
  a.types.size

/-- What a type is; nothing for a handle the arena never gave out. -/
def data? (a : TypeArena) (t : Ty) : Option TypeData :=
  a.types[t.index]?

/-! ### Making types -/

/-- Adds a type, whether or not there is one like it. -/
def push (a : TypeArena) (data : TypeData) : Ty × TypeArena :=
  (⟨a.size⟩, { a with types := a.types.push data })

/-- The type with the given data: the one there is, or else a new one. -/
def intern (a : TypeArena) (data : TypeData) : Ty × TypeArena :=
  match a.types.findIdx? (· == data) with
  | some index => (⟨index⟩, a)
  | none => a.push data

/-- The type without values. -/
def void (a : TypeArena) : Ty × TypeArena :=
  a.intern .void

/-- Integers of the given width, which is that of a truth value or of one, two, four
or eight bytes. -/
def int (a : TypeArena) (bits : Nat) : Except TypeFault (Ty × TypeArena) :=
  if bits ∈ [1, 8, 16, 32, 64] then .ok (a.intern (.int bits))
  else .error (.badBitWidth bits .integer)

/-- Truth values: integers of one bit. -/
def bool (a : TypeArena) : Ty × TypeArena :=
  a.intern (.int 1)

/-- Floating-point numbers of the given width, which is two, four or eight bytes. -/
def float (a : TypeArena) (bits : Nat) : Except TypeFault (Ty × TypeArena) :=
  if bits ∈ [16, 32, 64] then .ok (a.intern (.float bits))
  else .error (.badBitWidth bits .float)

/-- Vectors of at least two elements. -/
def vector (a : TypeArena) (element : Ty) (count : Nat) : Except TypeFault (Ty × TypeArena) :=
  if count < 2 then .error (.badVectorLength count)
  else .ok (a.intern (.vector element count))

/-- Arrays; a count of zero leaves the length open. -/
def array (a : TypeArena) (element : Ty) (count : Nat) : Ty × TypeArena :=
  a.intern (.array element count)

/-- Pointers into an address space. -/
def pointer (a : TypeArena) (pointee : Ty) (addressSpace : Nat) : Ty × TypeArena :=
  a.intern (.pointer pointee addressSpace)

/-- Functions. -/
def function (a : TypeArena) (result : Ty) (params : List Ty) (variadic : Bool) :
    Ty × TypeArena :=
  a.intern (.function result params variadic)

/-! ### Named structs -/

/-- A new opaque struct. -/
def struct (a : TypeArena) (name : String) : Ty × TypeArena :=
  a.push (.struct { name })

/-- Gives an opaque struct its body. -/
def setBody (a : TypeArena) (t : Ty) (members : List Ty) (packed : Bool) :
    Except TypeFault TypeArena :=
  match a.data? t with
  | some (.struct { name, body := none, .. }) =>
    .ok { a with types := a.types.setIfInBounds t.index (.struct ⟨name, some members, packed⟩) }
  | some (.struct data) => .error (.bodyAlreadySet data.name)
  | _ => .error (.notAStruct t)

/-- The struct behind a handle. -/
def struct? (a : TypeArena) (t : Ty) : Option StructData :=
  match a.data? t with
  | some (.struct data) => some data
  | _ => none

/-- The type is a struct whose body is not known yet. -/
def isOpaque (a : TypeArena) (t : Ty) : Bool :=
  match a.struct? t with
  | some data => data.body.isNone
  | none => false

/-- The members of a struct that has a body. -/
def body? (a : TypeArena) (t : Ty) : Option (List Ty) :=
  (a.struct? t).bind StructData.body

/-- The name of a struct. -/
def name? (a : TypeArena) (t : Ty) : Option String :=
  (a.struct? t).map StructData.name

/-- The handles of all types, in the order they were made. -/
def handles (a : TypeArena) : List Ty :=
  (List.range a.size).map Ty.mk

/-- The named structs, in the order they were made. -/
def structs (a : TypeArena) : List Ty :=
  a.handles.filter fun t => (a.struct? t).isSome

/-! ### Types whose values can be stored -/

/-- A type is found sized by looking at most `depth` types deep. -/
def sizedWithin (a : TypeArena) : Nat → Ty → Bool
  | 0, _ => false
  | depth + 1, t =>
    match a.data? t with
    | some (.int _) | some (.float _) | some (.pointer _ _) => true
    | some (.vector element _) | some (.array element _) => a.sizedWithin depth element
    | some (.struct { body := some members, .. }) => members.all (a.sizedWithin depth)
    | _ => false

/-- A value of the type can be stored: nothing without a size is reached by value,
and no struct is reached from itself. A type that is sized at all is so without any
type coming up inside itself, so the number of types is depth enough. -/
def isSized (a : TypeArena) (t : Ty) : Bool :=
  a.sizedWithin a.size t

end TypeArena

end ShaderLowering
