import ShaderLowering.Lowering.InterfaceListing
import ShaderLowering.Proofs.Lowering.InterfaceLayout
import ShaderLowering.Proofs.Lowering.Renaming
import ShaderLowering.Proofs.Target.Printing

/-!
# What is written of a lowered shader

A lowered shader is written as a unit, and the listing of its interface is written behind it if
that is wanted. The lines of the listing are described here like those of a unit, by relations
that say what a line is about and what is in it (`ShaderLowering.LoweredModule.Lists`).

A member is listed with the type that the body of the interface struct has at the member's
index. That there is one at each index is due to the way the struct was laid out
(`ShaderLowering.Declarations.Emits.laysOut`), and that its text is spelled out is due to the
arena, whose types are made of its own types however a shader was lowered
(`ShaderLowering.LoweredModule.founded_of_lower`).
-/

namespace ShaderLowering

/-! ### Lines -/

/-- **The line lists the member** at an index, with the given type, and with the decorations
that it has and their parameters. -/
def Member.Line (member : Member) (a : TypeArena) (index : Nat) (type : Ty) (line : String) :
    Prop :=
  ∃ text, a.Spells type text ∧
    line = ";   " ++ toString index ++ ": " ++ text ++ " [" ++
      ", ".intercalate (member.decorations.map fun decoration =>
        "DecorationWithParameters \x7b decoration: " ++ Enumerant.label decoration.kind ++
          ", parameters: [" ++ ", ".intercalate (decoration.parameters.map toString) ++
          "] \x7d") ++ "]"

/-- The size of workgroups is written so, if there is one. -/
inductive LocalSize.Line : Option LocalSize → String → Prop
  | none : LocalSize.Line none "None"
  | some (x y z : Word) : LocalSize.Line (some ⟨x, y, z⟩)
      ("Some([" ++ toString x ++ ", " ++ toString y ++ ", " ++ toString z ++ "])")

/-- **The line lists the entry point**, with the numbers of the members it uses and the size of
its workgroups. -/
def EntryPoint.Line (e : EntryPoint) (line : String) : Prop :=
  ∃ size, LocalSize.Line e.localSize size ∧
    line = "; entry point '" ++ e.name ++ "' (" ++ Enumerant.label e.model ++
      ") interface members [" ++ ", ".intercalate (e.interfaceMembers.map toString) ++
      "] local size " ++ size

namespace LoweredModule

/-- **The lines list the members of a struct**: a blank one, a heading, and one for each member,
in order, with the type that the body of the struct has at its index. -/
def ListsMembers (m : LoweredModule) (n : NodeId) (lines : List String) : Prop :=
  ∃ type layout body text members, m.workspace.shape? n = some (.struct type layout) ∧
    m.arena.body? type = some body ∧ m.arena.Spells type text ∧
    lines = "" :: ("; io struct " ++ text) :: members ∧
    layout.members.length = body.length ∧ members.length = body.length ∧
    ∀ (k : Nat) (member : Member) (t : Ty), layout.members[k]? = some member →
      body[k]? = some t → ∃ line, members[k]? = some line ∧ member.Line m.arena k t line

/-- **The lines of the interface**: those of the members of the interface struct, if there is
one, and one for each entry point, in order. -/
def Lists (m : LoweredModule) (lines : List String) : Prop :=
  ∃ members entries, lines = members ++ entries ∧
    (m.interfaceStruct = none → members = []) ∧
    (∀ n, m.interfaceStruct = some n → m.ListsMembers n members) ∧
    List.Forall₂ EntryPoint.Line m.entryPoints entries

end LoweredModule

/-! ### The lines that are written -/

theorem LocalSize.line_optionalSizeText (size : Option LocalSize) :
    LocalSize.Line size (optionalSizeText size) := by
  cases size with
  | none => exact .none
  | some size =>
    have hopen : "Some([" = "Some(" ++ "[" := rfl
    have hclose : "])" = "]" ++ ")" := rfl
    have hline := LocalSize.Line.some size.x size.y size.z
    rw [hopen, hclose] at hline
    rw [optionalSizeText, bracketed]
    simp only [List.map_cons, List.map_nil, String.intercalate_cons_cons,
      String.intercalate_singleton, String.append_assoc] at hline ⊢
    exact hline

theorem EntryPoint.line_listing (e : EntryPoint) : e.Line e.listing := by
  have hopen : ") interface members [" = ") interface members " ++ "[" := rfl
  have hclose : "] local size " = "]" ++ " local size " := rfl
  refine ⟨optionalSizeText e.localSize, LocalSize.line_optionalSizeText e.localSize, ?_⟩
  unfold EntryPoint.listing bracketed
  simp only [hopen, hclose, String.append_assoc]

/-- The line that is written for a member of which the place and the type there are known. -/
theorem Member.exists_line {member : Member} {a : TypeArena} {body : List Ty} {k : Nat} {t : Ty}
    (hplace : member.bodyIndex = some k) (ht : body[k]? = some t)
    (hspells : a.Spells t (a.text t)) :
    ∃ line, member.listing? a body = some line ∧ member.Line a k t line := by
  have hopen : " [" = " " ++ "[" := rfl
  have hline : member.listing? a body = some (";   " ++ toString k ++ ": " ++ a.text t ++ " " ++
      bracketed (member.decorations.map Decoration.text)) := by
    rw [Member.listing?, hplace]
    change (body[k]? >>= _) = _
    rw [ht]
    rfl
  refine ⟨_, hline, a.text t, hspells, ?_⟩
  delta Decoration.text bracketed
  simp only [hopen, String.append_assoc]
  rfl

/-- If there is an entry in a second list for each of a first, and something is found for each
pair of them, then what is found are as many, in order. -/
theorem filterMap_pairs {α β γ : Type} {f : α → Option γ} {R : Nat → α → β → γ → Prop}
    {as : List α} {bs : List β} (hlength : as.length = bs.length)
    (h : ∀ (k : Nat) (a : α) (b : β), as[k]? = some a → bs[k]? = some b →
      ∃ c, f a = some c ∧ R k a b c) :
    (as.filterMap f).length = bs.length ∧
      ∀ (k : Nat) (a : α) (b : β), as[k]? = some a → bs[k]? = some b →
        ∃ c, (as.filterMap f)[k]? = some c ∧ R k a b c := by
  induction as generalizing bs R with
  | nil => exact ⟨hlength, fun k a b ha => nomatch ha⟩
  | cons a as ih =>
    obtain ⟨b, bs, rfl⟩ := List.exists_cons_of_length_eq_add_one hlength.symm
    obtain ⟨c, hc, hR⟩ := h 0 a b rfl rfl
    obtain ⟨hcount, hlater⟩ := ih (R := fun k => R (k + 1)) (Nat.succ.inj hlength)
      fun k a b ha hb => h (k + 1) a b ha hb
    rw [List.filterMap_cons_some hc]
    refine ⟨congrArg (· + 1) hcount, fun k a' b' ha' hb' => ?_⟩
    cases k with
    | zero =>
      obtain rfl := Option.some.inj ha'
      obtain rfl := Option.some.inj hb'
      exact ⟨c, rfl, hR⟩
    | succ k => exact hlater k a' b' ha' hb'

namespace LoweredModule

variable {shader : ShaderModule} {name : String} {m : LoweredModule}

/-- A lowered shader is its own counterpart in the empty arena. -/
theorem renamed_of_lower (h : lower {} shader name = .ok m) :
    ∃ ρ, Workspace.Renamed {} ρ m.workspace m.workspace ∧ LoweredModule.Renamed {} ρ m m := by
  have hagrees := agrees_lower TypeArena.founded_empty TypeArena.uniqued_empty shader name
  rw [h] at hagrees
  cases hagrees with
  | ok hrenamed => exact hrenamed

/-- The types of the arena are made of its types when a shader has been lowered, and the unit has
types of the arena. -/
theorem founded_of_lower (h : lower {} shader name = .ok m) :
    m.arena.Founded ∧ m.unit.Has m.arena := by
  obtain ⟨ρ, hw, hm⟩ := renamed_of_lower h
  exact ⟨hw.arena.founded, hm.there⟩

/-- **The text of a lowered shader** is what its unit is written as. -/
theorem writtenAs_text (h : lower {} shader name = .ok m) :
    m.unit.WrittenAs m.arena m.text := by
  obtain ⟨hfounded, -, hglobals⟩ := founded_of_lower h
  exact (CodeUnit.writtenAs_iff hfounded hglobals).mpr rfl

/-- The lines about the interface struct list its members. -/
theorem listsMembers_interfaceLines (h : lower {} shader name = .ok m) {n : NodeId}
    (hn : m.interfaceStruct = some n) : m.ListsMembers n m.interfaceLines := by
  obtain ⟨d, w, hd, hwalks, he⟩ := Declarations.exists_of_lower TypeArena.uniqued_empty h
  obtain ⟨f, hf, rfl⟩ := Option.map_eq_some_iff.mp (he.interfaceStruct.symm.trans hn)
  obtain ⟨hfounded, -⟩ := founded_of_lower h
  obtain ⟨t, layout, body, hs, hbody, -, hplaces, htypes⟩ :=
    he.laysOut (Declarations.sound_ofInstructions hd) TypeArena.uniqued_empty hwalks hf
  have hlayout : m.interfaceLayout? = some (t, layout) := by
    rw [interfaceLayout?, hn, Option.bind_some]
    rw [Workspace.shape?] at hs
    rw [hs]
  have hbody' : m.arena.body? t = some body := hbody
  obtain ⟨hcount, hlines⟩ := filterMap_pairs (f := Member.listing? m.arena body)
    (R := fun k member t line => member.Line m.arena k t line) htypes.length_eq
    fun k member t hk ht => Member.exists_line (hplaces k member hk) ht
      (hfounded.spells_text (hfounded.has_of_body? hbody' t (List.mem_of_getElem? ht)))
  refine ⟨t, layout, body, _, _, hs, hbody', hfounded.spells_text ?_, ?_, htypes.length_eq,
    hcount, hlines⟩
  · obtain ⟨data, hdata, -⟩ := TypeArena.body?_eq_some_iff.mp hbody'
    exact TypeArena.has_of_data? hdata
  · rw [interfaceLines, hlayout]
    dsimp only
    rw [hbody', Option.getD_some]

/-- What is listed of a lowered shader are the lines of its interface. -/
theorem lists_of_lower (h : lower {} shader name = .ok m) :
    m.Lists (m.interfaceLines ++ m.entryPoints.map EntryPoint.listing) := by
  refine ⟨_, _, rfl, fun hnone => ?_, fun n hn => listsMembers_interfaceLines h hn, ?_⟩
  · rw [interfaceLines, interfaceLayout?, hnone]
    rfl
  · rw [List.forall₂_map_right_iff, List.forall₂_same]
    exact fun e _ => e.line_listing

end LoweredModule

end ShaderLowering
