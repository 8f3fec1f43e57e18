import ShaderLowering.Proofs.TypeGraph.Skeleton

/-!
# Changing nodes step by step

To give a pointer its pointee and to add a member to a struct is to change a node in place, and
either may be refused. As for what is asked of an arena (`ShaderLowering.Making`), they are gone
through here in steps that read the workspace and write to it (`ShaderLowering.Changing`), so that
what was written before a refusal stays written. Both test before they write
(`ShaderLowering.Changing.runIn_bind`, `ShaderLowering.Changing.runIn_addMember`). For a member
that matters all the more as it takes several writes: one for each role it is bound to, and only
then the member itself.
-/

namespace ShaderLowering

/-- **Something that is done to nodes**, step by step. It is done or refused, and there is a
workspace in the end either way. -/
abbrev Changing (α : Type) := ExceptT Diagnostic (StateM Workspace) α

/-- What comes of a change, and the workspace then: the new one, or the old one if the change is
refused or there is nothing to change. -/
def Workspace.outcome (w : Workspace) :
    Option (Except Diagnostic Workspace) → Except Diagnostic Unit × Workspace
  | some (.ok w') => (.ok (), w')
  | some (.error d) => (.error d, w)
  | none => (.ok (), w)

/-- A change is either made, or the workspace is as it was. -/
theorem Workspace.outcome_cases (w : Workspace) (changed : Option (Except Diagnostic Workspace)) :
    (w.outcome changed).2 = w ∨ changed = some (.ok (w.outcome changed).2) := by
  rcases changed with _ | _ | w'
  · exact Or.inl rfl
  · exact Or.inl rfl
  · exact Or.inr rfl

/-- The node of a pointer with a pointee written to it. -/
def Node.putPointee (n : Node) (pointee : NodeId) : Node :=
  match n.shape with
  | .formed (.pointer _ storage) made =>
    { n with shape := .formed (.pointer (some pointee) storage) made }
  | _ => n

/-- The layout with a role bound to the member at an index. -/
def Layout.putRole (l : Layout) (index : Nat) (role : BuiltIn) : Layout :=
  { l with slots := (role, index) :: l.slots }

/-- The layout with a member after those it has. -/
def Layout.putMember (l : Layout) (member : Member) : Layout :=
  { l with members := l.members ++ [member] }

/-- A member is pushed to a layout by writing its roles and then the member. -/
theorem Layout.push_eq (l : Layout) (member : Member) :
    l.push member = ((member.decorations.filterMap Decoration.builtInRole?).foldl
      (fun l' role => l'.putRole l.members.length role) l).putMember member := by
  have hroles (roles : List BuiltIn) (index : Nat) (l : Layout) :
      roles.foldl (fun l' role => l'.putRole index role) l =
        { l with slots := roles.foldl (fun slots role => (role, index) :: slots) l.slots } := by
    induction roles generalizing l with
    | nil => rfl
    | cons role roles ih => exact ih (l.putRole index role)
  rw [hroles, List.foldl_filterMap, push, putMember]
  congr
  funext slots d
  cases d.builtInRole? <;> rfl

theorem Node.mapLayout_mapLayout (n : Node) (f g : Layout → Layout) :
    (n.mapLayout f).mapLayout g = n.mapLayout (g ∘ f) := by
  obtain ⟨start, guard, _ | _ | _⟩ := n <;> rfl

namespace Changing

/-- What comes of it in a workspace, and the workspace then. -/
def runIn {α : Type} (changing : Changing α) (w : Workspace) : Except Diagnostic α × Workspace :=
  (changing.run.run w).run

/-- Changes a node. -/
def modifyNode (n : NodeId) (f : Node → Node) : Changing Unit :=
  modify fun w => w.modify n f

/-- Changes the layout of a struct. -/
def modifyLayout (n : NodeId) (f : Layout → Layout) : Changing Unit :=
  modifyNode n fun node => node.mapLayout f

/-- Gives a pointer its pointee. Nothing is done to a node that is no pointer. -/
def bind (pointer pointee : NodeId) : Changing Unit := do
  match (← get).node? pointer with
  | some ⟨start, _, .formed (.pointer bound _) _⟩ =>
    if bound.isSome then
      throw (.pointing start .alreadyBound)
    modifyNode pointer fun node => node.putPointee pointee
  | _ => return

/-- Writes a member to a struct that has the given number of members: first the roles that it is
bound to, each by itself, and then the member. -/
def push (struct : NodeId) (index : Nat) (member : Member) : Changing Unit := do
  forM (member.decorations.filterMap Decoration.builtInRole?) fun role =>
    modifyLayout struct fun l => l.putRole index role
  modifyLayout struct fun l => l.putMember member

/-- Adds a member to a struct, which has to be opaque still. Nothing is done to a node that is no
struct. -/
def addMember (struct : NodeId) (member : Member) : Changing Unit := do
  match (← get).node? struct with
  | some ⟨start, _, .struct _ layout⟩ =>
    if layout.complete then
      throw (.pointing start .layoutComplete)
    push struct layout.members.length member
  | _ => return

/-! ### Each of them leaves what it should -/

variable {w : Workspace}

theorem runIn_get_bind {α : Type} (next : Workspace → Changing α) (w : Workspace) :
    (get >>= next).runIn w = (next w).runIn w := rfl

/-- Nothing is written to a pointer that has a pointee. -/
theorem runIn_bind (pointer pointee : NodeId) (w : Workspace) :
    (bind pointer pointee).runIn w = w.outcome (w.bind? pointer pointee) := by
  rw [bind, runIn_get_bind, Workspace.bind?]
  cases hn : w.node? pointer with
  | none => rfl
  | some node =>
    obtain ⟨start, guard, _ | ⟨⟨_ | _, _⟩ | _ | _, made⟩ | _⟩ := node
    case formed.pointer.none storage =>
      exact congrArg (Prod.mk _) (Workspace.modify_congr hn rfl)
    all_goals rfl

theorem runIn_modifyLayout_bind {α : Type} (n : NodeId) (f : Layout → Layout)
    (next : Changing α) (w : Workspace) :
    (modifyLayout n f >>= fun _ => next).runIn w =
      next.runIn (w.modify n fun node => node.mapLayout f) := rfl

/-- The roles of a member are written in turn, and the member after them. -/
theorem runIn_putRoles (n : NodeId) (index : Nat) (roles : List BuiltIn) (member : Member)
    (w : Workspace) :
    (do
        forM roles fun role => modifyLayout n fun l => l.putRole index role
        modifyLayout n fun l => l.putMember member : Changing Unit).runIn w =
      (.ok (), w.modify n fun node => node.mapLayout fun l =>
        (roles.foldl (fun l role => l.putRole index role) l).putMember member) := by
  induction roles generalizing w with
  | nil => rfl
  | cons role roles ih =>
    rw [List.forM_cons, bind_assoc, runIn_modifyLayout_bind, ih, Workspace.modify_modify]
    refine congrArg (Prod.mk _) (congrArg _ (funext fun node => ?_))
    exact node.mapLayout_mapLayout _ _

/-- **Nothing is written to a struct that is complete**, neither the member nor any of its roles. -/
theorem runIn_addMember (struct : NodeId) (member : Member) (w : Workspace) :
    (addMember struct member).runIn w = w.outcome (w.addMember? struct member) := by
  rw [addMember, runIn_get_bind, Workspace.addMember?]
  cases hn : w.node? struct with
  | none => rfl
  | some node =>
    obtain ⟨start, guard, _ | _ | ⟨type, layout⟩⟩ := node
    · rfl
    · rfl
    · rw [Option.bind_some, Node.addMember?]
      dsimp only
      cases hc : layout.complete with
      | true => rfl
      | false =>
        refine (runIn_putRoles struct layout.members.length _ member w).trans ?_
        refine congrArg (Prod.mk _) (Workspace.modify_congr hn ?_)
        rw [layout.push_eq member]
        rfl

end Changing

end ShaderLowering
