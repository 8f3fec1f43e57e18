import ShaderLowering.TypeGraph.Depth

/-!
# Nodes described and inspected

Short texts that show the state of a pointer or a struct node, for listings and for
looking into a graph, and access to the members of a struct.
-/

namespace ShaderLowering

/-- Fields in braces after the name of what they describe. -/
def recordText (name : String) (fields : List (String × String)) : String :=
  name ++ " \x7b " ++ ", ".intercalate (fields.map fun field => field.1 ++ ": " ++ field.2) ++
    " \x7d"

/-- A truth value as it is written in a description. -/
def truthText (b : Bool) : String :=
  if b then "true" else "false"

/-- A type that may not be there as it is written in a description. -/
def optionalTypeText : Option Ty → String
  | none => "None"
  | some type => "Some(" ++ type.text ++ ")"

/-- The roles of a struct that are bound, as they are written in a description. -/
def Layout.rolesText (l : Layout) : String :=
  let roles := l.boundRoles.map fun (role, index) => Enumerant.label role ++ ": " ++ toString index
  "\x7b" ++ ", ".intercalate roles ++ "\x7d"

/-- The description of a pointer or a struct. The pointee of a pointer is left out,
since it is where descriptions would go round in circles. -/
def Node.description? (n : Node) : Option String :=
  match n.shape with
  | .formed (.pointer pointee storage) made =>
    some <| recordText "PointerType"
      [("base_bound", truthText pointee.isSome),
       ("storage_class", Enumerant.label storage),
       ("instruction_start_index", toString n.start),
       ("ty", optionalTypeText made)]
  | .struct type layout =>
    some <| recordText "StructType"
      [("ty", type.text),
       ("member_count", toString layout.members.length),
       ("builtin_members", layout.rolesText),
       ("is_complete", truthText layout.complete),
       ("contains_itself", truthText layout.containsItself),
       ("instruction_start_index", toString n.start)]
  | _ => none

namespace Workspace

/-- The layout of a struct node. -/
def layout? (w : Workspace) (n : NodeId) : Option Layout :=
  (w.node? n).bind Node.layout?

/-- The members of a struct. With `placed`, the struct is laid out first, so that its
members have their places. Nothing is answered for a node that is no struct. -/
def members? (w : Workspace) (n : NodeId) (placed : Bool) :
    Option (Except Diagnostic (List Member) × Workspace) :=
  (w.layout? n).map fun layout =>
    if placed then
      let (result, w) := w.produce n true
      (result.map fun _ => ((w.layout? n).map Layout.members).getD [], w)
    else (.ok layout.members, w)

end Workspace

end ShaderLowering
