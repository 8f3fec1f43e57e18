import ShaderLowering.Target.TypeArena

/-!
# Asking for types step by step

Where an operation on an arena gives a new arena or a fault, nothing is said about what a fault
leaves behind. So the operations are gone through here once more in steps that read the arena and
write to it (`ShaderLowering.Making`): what was written before a fault stays written. Each of them
tests before it writes, so that it leaves what it should, the new arena if it is answered and the
old one if it is refused (`ShaderLowering.Making.runIn_setBody` and its like).

All that can be asked of an arena is put together in `ShaderLowering.TypeAction`.
-/

namespace ShaderLowering

/-- **Something that is asked of an arena**, step by step. It is answered or refused, and there is
an arena in the end either way. -/
abbrev Making (α : Type) := ExceptT TypeFault (StateM TypeArena) α

/-- What comes of asking, and the arena then: the new one, or the old one if it is refused. -/
def TypeArena.outcome {α : Type} (a : TypeArena) :
    Except TypeFault (α × TypeArena) → Except TypeFault α × TypeArena
  | .ok (made, b) => (.ok made, b)
  | .error fault => (.error fault, a)

/-- The arena with the data of a struct written over. -/
def TypeArena.putStruct (a : TypeArena) (t : Ty) (data : StructData) : TypeArena :=
  { a with types := a.types.setIfInBounds t.index (.struct data) }

namespace Making

/-- What comes of it in an arena, and the arena then. -/
def runIn {α : Type} (making : Making α) (a : TypeArena) : Except TypeFault α × TypeArena :=
  (making.run.run a).run

/-- A type with the given data. -/
def intern (data : TypeData) : Making Ty :=
  modifyGet fun a => a.intern data

/-- Integers of the given width. -/
def int (bits : Nat) : Making Ty :=
  if bits ∈ [1, 8, 16, 32, 64] then intern (.int bits)
  else throw (.badBitWidth bits .integer)

/-- Floating-point numbers of the given width. -/
def float (bits : Nat) : Making Ty :=
  if bits ∈ [16, 32, 64] then intern (.float bits)
  else throw (.badBitWidth bits .float)

/-- Vectors of at least two elements. -/
def vector (element : Ty) (count : Nat) : Making Ty := do
  if count < 2 then
    throw (.badVectorLength count)
  intern (.vector element count)

/-- A new opaque struct. -/
def struct (name : String) : Making Ty :=
  modifyGet fun a => a.struct name

/-- Gives an opaque struct its body: first the members are written, then how they are packed. -/
def setBody (t : Ty) (members : List Ty) (packed : Bool) : Making Unit := do
  match (← get).data? t with
  | some (.struct data) =>
    if data.body.isSome then
      throw (.bodyAlreadySet data.name)
    modify fun a => a.putStruct t { data with body := some members }
    modify fun a => a.putStruct t { data with body := some members, packed }
  | _ => throw (.notAStruct t)

/-! ### Each of them leaves what it should -/

variable {α β : Type} {a : TypeArena}

theorem runIn_map (f : α → β) (making : Making α) (a : TypeArena) :
    (f <$> making).runIn a = ((making.runIn a).1.map f, (making.runIn a).2) := by
  rw [runIn, ExceptT.run_map, StateT.run_map]
  rfl

theorem runIn_get_bind (next : TypeArena → Making α) (a : TypeArena) :
    (get >>= next).runIn a = (next a).runIn a := rfl

theorem runIn_int (bits : Nat) (a : TypeArena) : (int bits).runIn a = a.outcome (a.int bits) := by
  rw [int, TypeArena.int]
  split <;> rfl

theorem runIn_float (bits : Nat) (a : TypeArena) :
    (float bits).runIn a = a.outcome (a.float bits) := by
  rw [float, TypeArena.float]
  split <;> rfl

theorem runIn_vector (element : Ty) (count : Nat) (a : TypeArena) :
    (vector element count).runIn a = a.outcome (a.vector element count) := by
  rw [vector, TypeArena.vector]
  split <;> rfl

/-- A struct that is written over twice is as it was written the second time. -/
theorem putStruct_putStruct (a : TypeArena) (t : Ty) (data data' : StructData) :
    (a.putStruct t data).putStruct t data' = a.putStruct t data' :=
  congrArg TypeArena.mk (Array.setIfInBounds_setIfInBounds ..)

/-- **Nothing is written of a body that is refused**, and all of one that is not. -/
theorem runIn_setBody (t : Ty) (members : List Ty) (packed : Bool) (a : TypeArena) :
    (setBody t members packed).runIn a =
      a.outcome ((a.setBody t members packed).map fun b => ((), b)) := by
  rw [setBody, runIn_get_bind, TypeArena.setBody]
  cases hd : a.data? t with
  | none => rfl
  | some d =>
    cases d with
    | struct data =>
      obtain ⟨name, body, packed₀⟩ := data
      cases body with
      | some members₀ => rfl
      | none => exact congrArg (Prod.mk _) (putStruct_putStruct a t _ _)
    | _ => rfl

end Making

/-! ### What can be asked of an arena -/

/-- Something that is asked of an arena. -/
inductive TypeAction
  /-- The type without values. -/
  | void
  /-- Integers. -/
  | int (bits : Nat)
  /-- Truth values. -/
  | bool
  /-- Floating-point numbers. -/
  | float (bits : Nat)
  /-- Vectors. -/
  | vector (element : Ty) (count : Nat)
  /-- Arrays. -/
  | array (element : Ty) (count : Nat)
  /-- Pointers. -/
  | pointer (pointee : Ty) (addressSpace : Nat)
  /-- Functions. -/
  | function (result : Ty) (params : List Ty) (variadic : Bool)
  /-- A new struct. -/
  | struct (name : String)
  /-- A body for a struct. -/
  | setBody (type : Ty) (members : List Ty) (packed : Bool)
  deriving DecidableEq, Repr

/-- What an action comes to, step by step: a type is given out, unless it gives a struct its
body. -/
def TypeAction.carryOut : TypeAction → Making (Option Ty)
  | .void => some <$> Making.intern .void
  | .int bits => some <$> Making.int bits
  | .bool => some <$> Making.intern (.int 1)
  | .float bits => some <$> Making.float bits
  | .vector element count => some <$> Making.vector element count
  | .array element count => some <$> Making.intern (.array element count)
  | .pointer pointee addressSpace => some <$> Making.intern (.pointer pointee addressSpace)
  | .function result params variadic =>
    some <$> Making.intern (.function result params variadic)
  | .struct name => some <$> Making.struct name
  | .setBody type members packed => (fun _ => none) <$> Making.setBody type members packed

namespace TypeArena

/-- The arena after something was asked of it, whether or not that is refused. -/
def perform (a : TypeArena) (action : TypeAction) : TypeArena :=
  (action.carryOut.runIn a).2

variable (a : TypeArena)

theorem perform_int (bits : Nat) : a.perform (.int bits) = (a.outcome (a.int bits)).2 := by
  rw [perform, TypeAction.carryOut, Making.runIn_map, Making.runIn_int]

theorem perform_float (bits : Nat) : a.perform (.float bits) = (a.outcome (a.float bits)).2 := by
  rw [perform, TypeAction.carryOut, Making.runIn_map, Making.runIn_float]

theorem perform_vector (element : Ty) (count : Nat) :
    a.perform (.vector element count) = (a.outcome (a.vector element count)).2 := by
  rw [perform, TypeAction.carryOut, Making.runIn_map, Making.runIn_vector]

theorem perform_setBody (type : Ty) (members : List Ty) (packed : Bool) :
    a.perform (.setBody type members packed) =
      (a.outcome ((a.setBody type members packed).map fun b => ((), b))).2 := by
  rw [perform, TypeAction.carryOut, Making.runIn_map, Making.runIn_setBody]

end TypeArena

end ShaderLowering
