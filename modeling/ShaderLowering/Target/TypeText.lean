import ShaderLowering.Target.TypeArena

/-!
# How types are written

A type is written much as in an assembly listing: elements and pointees in full,
named structs by their name alone, so that the text of a type is finite however the
structs refer to one another. A struct's definition is a line of its own.
-/

namespace ShaderLowering

/-- The name of a width of floating-point numbers. -/
def floatText (bits : Nat) : String :=
  if bits = 16 then "half" else if bits = 32 then "float" else "double"

/-- Texts with a comma between each two. -/
def commaSeparated (texts : List String) : String :=
  ", ".intercalate texts

/-- Parameters in brackets, three dots among them for a function that takes more. -/
def parameterList (params : List String) (variadic : Bool) : String :=
  "(" ++ commaSeparated (if variadic then params ++ ["..."] else params) ++ ")"

namespace TypeArena

/-- The text of a type, looking at most `depth` types deep. -/
def textWithin (a : TypeArena) : Nat → Ty → String
  | 0, _ => "?"
  | depth + 1, t =>
    match a.data? t with
    | none => "?"
    | some .void => "void"
    | some (.int bits) => "i" ++ toString bits
    | some (.float bits) => floatText bits
    | some (.vector element count) =>
      "<" ++ toString count ++ " x " ++ a.textWithin depth element ++ ">"
    | some (.array element count) =>
      "[" ++ toString count ++ " x " ++ a.textWithin depth element ++ "]"
    | some (.pointer pointee addressSpace) =>
      if addressSpace = 0 then a.textWithin depth pointee ++ "*"
      else a.textWithin depth pointee ++ " addrspace(" ++ toString addressSpace ++ ")*"
    | some (.function result params variadic) =>
      a.textWithin depth result ++ " " ++
        parameterList (params.map (a.textWithin depth)) variadic
    | some (.struct data) => "%" ++ data.name

/-- The text of a type. What a structural type is made of was made before it, so its
handle bounds how deep its text goes. -/
def text (a : TypeArena) (t : Ty) : String :=
  a.textWithin (t.index + 1) t

/-- The line that defines a named struct; for any other type, its text. -/
def definitionText (a : TypeArena) (t : Ty) : String :=
  match a.struct? t with
  | none => a.text t
  | some { name, body := none, .. } => "%" ++ name ++ " = type opaque"
  | some { name, body := some [], .. } => "%" ++ name ++ " = type \x7b\x7d"
  | some { name, body := some members, packed } =>
    let inner := commaSeparated (members.map a.text)
    if packed then "%" ++ name ++ " = type <\x7b " ++ inner ++ " \x7d>"
    else "%" ++ name ++ " = type \x7b " ++ inner ++ " \x7d"

end TypeArena

end ShaderLowering
