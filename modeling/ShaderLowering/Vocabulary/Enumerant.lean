import ShaderLowering.Word

/-!
# The enumerations of the format

The format is full of small closed enumerations – instructions, decorations,
storage classes – whose values travel through the stream as numbers and appear in
every text by name. `ShaderLowering.Enumerant` says what they share: a list of the
values, and a number and a name for each. Reading a number is a search through the
list, and the one law of the class is that the search for a value's own number
ends at that value: the list leaves no value out and no number is used twice.
-/

namespace ShaderLowering

/-- A closed enumeration of the format. -/
class Enumerant (α : Type) where
  /-- The name of the enumeration itself. -/
  kind : String
  /-- The values of the enumeration. -/
  all : List α
  /-- The number that stands for a value in the stream, and the value's name. -/
  entry : α → Nat × String
  /-- The search for a value's own number finds the value. -/
  find_entry : ∀ a, (all.find? fun b => (entry b).1 == (entry a).1) = some a

namespace Enumerant

variable {α : Type} [Enumerant α]

/-- The number that stands for a value in the stream. -/
def code (a : α) : Nat :=
  (entry a).1

/-- The name of a value. -/
def label (a : α) : String :=
  (entry a).2

/-- The value a number stands for, if it stands for one. -/
def ofCode? (n : Nat) : Option α :=
  all.find? fun a => code a == n

/-- The value a word stands for, if it stands for one. -/
def ofWord? (w : Word) : Option α :=
  ofCode? w.toNat

/-! ### Numbers determine values -/

/-- A value is read back from its own number. -/
@[simp] theorem ofCode?_code (a : α) : ofCode? (code a) = some a :=
  find_entry a

/-- Two values with one number are one value. -/
theorem code_injective {a b : α} (h : code a = code b) : a = b := by
  have := ofCode?_code a
  rw [h, ofCode?_code] at this
  exact (Option.some.inj this).symm

/-- **Reading a number gives the value it stands for**, and nothing else. -/
theorem ofCode?_eq_some_iff {n : Nat} {a : α} : ofCode? n = some a ↔ code a = n := by
  constructor
  · intro h
    simpa using List.find?_some h
  · rintro rfl
    exact ofCode?_code a

/-- The list of values leaves none out. -/
theorem mem_all (a : α) : a ∈ (all : List α) :=
  List.mem_of_find?_eq_some (find_entry a)

end Enumerant

end ShaderLowering
