import ShaderLowering.Target.TypeText

/-!
# Code units

What a lowering hands to the code generator is a code unit: named globals and
function declarations. No two of them share a symbol: the unit keeps a record of the
symbols it has given out. A name that is already in use gets a numbered suffix, the
smallest that makes it free, and the numbering takes into account names that have such
a suffix of their own.
-/

namespace ShaderLowering

/-- Who can see a symbol. -/
inductive Linkage
  /-- Whoever runs the unit, as for an entry point. -/
  | external
  /-- The unit itself only. -/
  | internal
  deriving DecidableEq, Repr

/-- How a linkage is written in front of a definition. -/
def Linkage.text : Linkage → String
  | .external => ""
  | .internal => "internal "

/-- A declared function. -/
structure FunctionDecl where
  /-- Its symbol. -/
  name : String
  /-- Its type. -/
  type : Ty
  /-- Who can call it. -/
  linkage : Linkage
  /-- The names of its parameters; they may be fewer than the parameters. -/
  paramNames : List String
  deriving DecidableEq, Repr

/-- A global variable. -/
structure GlobalDecl where
  /-- Its symbol. -/
  name : String
  /-- The type of what is stored, not of a pointer to it. -/
  type : Ty
  /-- The address space it is put in. -/
  addressSpace : Nat
  /-- Who can see it. -/
  linkage : Linkage
  deriving DecidableEq, Repr

/-- The functions and globals of one lowering, in the order they were added. -/
structure CodeUnit where
  /-- The name of the unit. -/
  name : String
  /-- The functions. -/
  functions : List FunctionDecl := []
  /-- The globals. -/
  globals : List GlobalDecl := []
  /-- The symbols given out so far. -/
  claimed : List String := []
  deriving DecidableEq, Repr

/-! ### Symbols -/

/-- The names tried for a symbol: the name itself, then the name with the suffixes
`.1`, `.2` and so on. -/
def symbolCandidate (name : String) : Nat → String
  | 0 => name
  | k + 1 => name ++ "." ++ toString (k + 1)

/-- The first candidate for a name that is not taken. The candidates are all
different, so there is a free one among one more of them than there are symbols
taken. -/
def freeSymbol (taken : List String) (name : String) : String :=
  (((List.range (taken.length + 1)).map (symbolCandidate name)).find?
    fun candidate => !taken.contains candidate).getD name

namespace CodeUnit

/-- Gives out a symbol: the given name if it is free. -/
def claim (u : CodeUnit) (name : String) : String × CodeUnit :=
  let symbol := freeSymbol u.claimed name
  (symbol, { u with claimed := symbol :: u.claimed })

@[simp] theorem functions_claim (u : CodeUnit) (name : String) :
    (u.claim name).2.functions = u.functions := rfl

@[simp] theorem globals_claim (u : CodeUnit) (name : String) :
    (u.claim name).2.globals = u.globals := rfl

/-- Adds a function, under the given name if it is free. -/
def addFunction (u : CodeUnit) (name : String) (type : Ty) (linkage : Linkage)
    (paramNames : List String) : CodeUnit :=
  let (symbol, u) := u.claim name
  { u with functions := u.functions ++ [⟨symbol, type, linkage, paramNames⟩] }

/-- Adds a global, under the given name if it is free. -/
def addGlobal (u : CodeUnit) (name : String) (type : Ty) (addressSpace : Nat)
    (linkage : Linkage) : CodeUnit :=
  let (symbol, u) := u.claim name
  { u with globals := u.globals ++ [⟨symbol, type, addressSpace, linkage⟩] }

/-- The function with the given symbol. -/
def function? (u : CodeUnit) (symbol : String) : Option FunctionDecl :=
  u.functions.find? fun f => f.name == symbol

/-- The global with the given symbol. -/
def global? (u : CodeUnit) (symbol : String) : Option GlobalDecl :=
  u.globals.find? fun g => g.name == symbol

end CodeUnit

/-! ### The text of a unit -/

/-- The line that defines a global. -/
def GlobalDecl.text (a : TypeArena) (g : GlobalDecl) : String :=
  "@" ++ g.name ++ " = " ++ g.linkage.text ++ "global " ++ a.text g.type ++
    (if g.addressSpace = 0 then "" else " addrspace(" ++ toString g.addressSpace ++ ")")

/-- Parameters with their names after them, as far as there are names. -/
def namedParameters : List String → List String → List String
  | [], _ => []
  | type :: types, [] => type :: namedParameters types []
  | type :: types, name :: names => (type ++ " %" ++ name) :: namedParameters types names

/-- The line that declares a function. -/
def FunctionDecl.text (a : TypeArena) (f : FunctionDecl) : String :=
  match a.data? f.type with
  | some (.function result params variadic) =>
    "declare " ++ f.linkage.text ++ a.text result ++ " @" ++ f.name ++
      parameterList (namedParameters (params.map a.text) f.paramNames) variadic
  | _ => "; @" ++ f.name ++ " has non-function type"

/-- The text of a unit: a heading, every named struct of the arena, the globals, the
functions, each on a line that is ended. -/
def CodeUnit.text (a : TypeArena) (u : CodeUnit) : String :=
  let lines :=
    ("; module '" ++ u.name ++ "'") :: a.structs.map a.definitionText ++
      u.globals.map (GlobalDecl.text a) ++ u.functions.map (FunctionDecl.text a)
  String.join (lines.map (· ++ "\n"))

end ShaderLowering
