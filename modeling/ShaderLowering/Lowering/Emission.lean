import ShaderLowering.Lowering.Walk
import ShaderLowering.Target.CodeUnit

/-!
# Emitting a code unit

When all instructions have been read, the code unit is put together. First comes the
interface struct, which is laid out and whose members have to be storable; then the
globals; then a wrapper for each entry point, a function that takes a pointer to the
interface struct, if there is one, and returns nothing; and last the functions. The
wrappers stand before the functions so that the functions make way for them where
names clash.

The type graph may go round in circles through its pointers. Once everything is
emitted the pointers are detached from what they point to, and the types that were
produced remain.
-/

namespace ShaderLowering

/-- An entry point of a lowered shader. -/
structure EntryPoint where
  /-- Its name. -/
  name : String
  /-- The stage it runs in. -/
  model : ExecutionModel
  /-- The function of the shader it runs. -/
  function : Id
  /-- The modes recorded for it. -/
  modes : List ExecutionMode
  /-- The size of its workgroups, where one was given. -/
  localSize : Option LocalSize
  /-- The members of the interface struct that it uses. -/
  interfaceMembers : List Nat
  /-- The interface struct. -/
  interfaceStruct : Option NodeId
  /-- The place of its wrapper among the unit's functions. Entry points of different
  stages may share a name, but not a wrapper. -/
  wrapper : Nat
  deriving DecidableEq, Repr

/-- A lowered shader. -/
structure LoweredModule where
  /-- The functions and globals for the code generator. -/
  unit : CodeUnit
  /-- The entry points, in the order they were declared. -/
  entryPoints : List EntryPoint
  /-- The interface struct, if the shader has inputs or outputs. -/
  interfaceStruct : Option NodeId
  /-- The types of the target, and the nodes of the shader's types, whose pointers are
  detached. -/
  workspace : Workspace
  deriving DecidableEq, Repr

/-- The first entry point of the given name. -/
def LoweredModule.entryPoint? (m : LoweredModule) (name : String) : Option EntryPoint :=
  m.entryPoints.find? fun e => e.name == name

/-- The type of a node, made first if need be; failing that, only the report. -/
def Workspace.require (w : Workspace) (n : NodeId) (complete : Bool) :
    Except Diagnostic (Ty × Workspace) :=
  match w.produce n complete with
  | (.ok type, w) => .ok (type, w)
  | (.error d, _) => .error d

/-- A code unit being put together. -/
structure Emission where
  /-- The types and nodes. -/
  workspace : Workspace
  /-- The unit so far. -/
  unit : CodeUnit
  deriving DecidableEq, Repr

namespace Emission

/-! ### The interface struct -/

/-- Reports the first interface variable whose member cannot be stored. -/
def checkInterface (arena : TypeArena) (type : Ty) (members : List InterfaceVariable) :
    Except Diagnostic Unit :=
  let body := (arena.body? type).getD []
  match (body.zip members).find? fun m => !arena.isSized m.1 with
  | some (_, v) => .error (.pointing v.start (.unsizedInterface v.id))
  | none => .ok ()

/-- Lays out the interface struct, and gives the type of pointers to it. -/
def layOutInterface (w : Workspace) :
    Option Interface → Except Diagnostic (Option Ty × Workspace)
  | none => .ok (none, w)
  | some interface => do
    let (type, w) ← w.require interface.node true
    checkInterface w.arena type interface.members
    let (pointer, arena) := w.arena.pointer type defaultAddressSpace
    return (some pointer, { w with arena })

/-! ### Globals -/

/-- Who can see a global. -/
def globalLinkage : StorageClass → Linkage
  | .privateStorage | .workgroup => .internal
  | _ => .external

/-- Adds a global to the unit. -/
def addGlobal (d : Declarations) (e : Emission) (g : ShaderGlobal) :
    Except Diagnostic Emission :=
  match (e.workspace.node? g.pointerType).bind Node.pointee? with
  | none => .error (.pointing g.start .lostPointee)
  | some pointee => do
    let (type, workspace) ← e.workspace.require pointee true
    if !workspace.arena.isSized type then
      .error (.pointing g.start (.unsizedGlobal g.id))
    else
      let name := d.nameOf g.id s!"global_{g.id}"
      let unit := e.unit.addGlobal name type defaultAddressSpace (globalLinkage g.storage)
      return { workspace, unit }

/-! ### Entry points -/

/-- Adds the wrapper of an entry point to the unit, whose parameters have the given
names. -/
def addEntryPoint (d : Declarations) (wrapperType : Ty) (paramNames : List String)
    (unit : CodeUnit) (p : ShaderEntryPoint) : Except Diagnostic (EntryPoint × CodeUnit) :=
  if d.functions.any fun f => f.id = p.function then
    .ok
      ({ name := p.name
         model := p.model
         function := p.function
         modes := p.modes
         localSize := p.localSize
         interfaceMembers := p.interface.filterMap fun id =>
           d.interface.bind fun interface => interface.memberOf? id
         interfaceStruct := d.interface.map Interface.node
         wrapper := unit.functions.length },
       unit.addFunction p.name wrapperType .external paramNames)
  else
    .error (.pointing p.start (.undefinedEntry p.name p.function))

/-- Adds the wrappers of all entry points to the unit. -/
def addEntryPoints (d : Declarations) (wrapperType : Ty) (paramNames : List String)
    (unit : CodeUnit) : List ShaderEntryPoint → Except Diagnostic (List EntryPoint × CodeUnit)
  | [] => .ok ([], unit)
  | p :: ps => do
    let (entryPoint, unit) ← addEntryPoint d wrapperType paramNames unit p
    let (entryPoints, unit) ← addEntryPoints d wrapperType paramNames unit ps
    return (entryPoint :: entryPoints, unit)

/-! ### Functions -/

/-- Reports a result or a parameter of a function that cannot be passed by value. -/
def checkFunction (arena : TypeArena) (type : Ty) (f : ShaderFunction) :
    Except Diagnostic Unit :=
  match arena.data? type with
  | some (.function result params _) =>
    if arena.data? result ≠ some .void ∧ !arena.isSized result then
      .error (.pointing f.start (.unsizedResult f.id))
    else
      match params.findIdx? fun param => !arena.isSized param with
      | some index => .error (.pointing f.start (.unsizedParameter index f.id))
      | none => .ok ()
  | _ => .ok ()

/-- Adds a function to the unit. -/
def addFunction (d : Declarations) (e : Emission) (f : ShaderFunction) :
    Except Diagnostic Emission := do
  let (type, workspace) ← e.workspace.require f.type true
  checkFunction workspace.arena type f
  let taken := ((workspace.node? f.type).map Node.args).getD []
  if taken.length ≠ f.parameters.length then
    .error (.pointing f.start (.parameterCount f.id f.parameters.length taken.length))
  else
    let name := d.nameOf f.id s!"function_{f.id}"
    let paramNames := f.parameters.mapIdx fun index id => d.nameOf id s!"param_{index}"
    return { workspace, unit := e.unit.addFunction name type .internal paramNames }

end Emission

/-! ### The whole unit -/

open Emission in
/-- Puts together what has been declared into a unit of the given name. A function that
is still being read has no end. -/
def Declarations.emit (d : Declarations) (name : String) : Except Diagnostic LoweredModule :=
  match d.openFunction with
  | some f => .error (.pointing f.start .unterminatedFunction)
  | none => do
    let (interfacePointer, workspace) ← layOutInterface d.workspace d.interface
    let e ← d.globals.foldlM (addGlobal d) { workspace, unit := { name } }
    let (void, arena) := e.workspace.arena.void
    let (wrapperType, arena) := arena.function void interfacePointer.toList false
    let paramNames := interfacePointer.toList.map fun _ => interfaceStructName
    let (entryPoints, unit) ← addEntryPoints d wrapperType paramNames e.unit d.entryPoints
    let e ← d.functions.foldlM (addFunction d)
      { workspace := { e.workspace with arena }, unit }
    return {
      unit := e.unit
      entryPoints
      interfaceStruct := d.interface.map Interface.node
      workspace := e.workspace.detachAll }

/-- **Lowers a shader** into a unit of the given name. The types it makes are added to
those of `arena`. -/
def lower (arena : TypeArena) (shader : ShaderModule) (name : String) :
    Except Diagnostic LoweredModule := do
  let d ← Declarations.ofInstructions arena shader.instructions
  d.emit name

end ShaderLowering
