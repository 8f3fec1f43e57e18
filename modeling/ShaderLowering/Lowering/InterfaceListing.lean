import ShaderLowering.Lowering.Emission

/-!
# The interface of a lowered shader, as text

A listing for whoever has to feed a shader: the members of the interface struct with
their types and decorations, and for each entry point the members it uses and the size
of its workgroups.
-/

namespace ShaderLowering

/-- Items in square brackets. -/
def bracketed (items : List String) : String :=
  "[" ++ ", ".intercalate items ++ "]"

/-- A workgroup size that may not be there, as it is listed. -/
def optionalSizeText : Option LocalSize → String
  | none => "None"
  | some size => "Some(" ++ bracketed ([size.x, size.y, size.z].map toString) ++ ")"

/-- The line for a member of the interface struct, if it has a place in the body. -/
def Member.listing? (arena : TypeArena) (body : List Ty) (m : Member) : Option String := do
  let index ← m.bodyIndex
  let type ← body[index]?
  return ";   " ++ toString index ++ ": " ++ arena.text type ++ " " ++
    bracketed (m.decorations.map Decoration.text)

/-- The line for an entry point. -/
def EntryPoint.listing (e : EntryPoint) : String :=
  "; entry point '" ++ e.name ++ "' (" ++ Enumerant.label e.model ++ ") interface members " ++
    bracketed (e.interfaceMembers.map toString) ++ " local size " ++ optionalSizeText e.localSize

namespace LoweredModule

/-- The types of the target when the shader had been lowered. -/
def arena (m : LoweredModule) : TypeArena :=
  m.workspace.arena

/-- The interface struct's type and the state of its layout. -/
def interfaceLayout? (m : LoweredModule) : Option (Ty × Layout) :=
  m.interfaceStruct.bind fun n =>
    match (m.workspace.node? n).map Node.shape with
    | some (.struct type layout) => some (type, layout)
    | _ => none

/-- The lines about the interface struct: a blank one, a heading, and one for each
member. -/
def interfaceLines (m : LoweredModule) : List String :=
  match m.interfaceLayout? with
  | none => []
  | some (type, layout) =>
    let body := (m.arena.body? type).getD []
    "" :: ("; io struct " ++ m.arena.text type) ::
      layout.members.filterMap (Member.listing? m.arena body)

/-- The text of the unit. -/
def text (m : LoweredModule) : String :=
  m.unit.text m.arena

/-- The listing of the interface, every line ended. -/
def interfaceText (m : LoweredModule) : String :=
  String.join ((m.interfaceLines ++ m.entryPoints.map EntryPoint.listing).map (· ++ "\n"))

end LoweredModule

end ShaderLowering
