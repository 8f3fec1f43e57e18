import ShaderLowering.Proofs.Target.Spelling
import ShaderLowering.Target.CodeUnit

/-!
# How units are written

A unit is written line by line: a heading, the definitions of the structs of the arena in the
order in which the structs were made, the globals, and the functions. What each of these lines
looks like is said here as a relation between what it is about and the line, from the data in
the arena and by nothing that writes (`ShaderLowering.CodeUnit.WrittenAs`).

The relation leaves no choice. In an arena whose types are made of its own types the text of a
unit satisfies it, and no other text does (`ShaderLowering.CodeUnit.writtenAs_iff`).
-/

namespace ShaderLowering

/-! ### Lines -/

/-- The linkage is written so in front of what has it. -/
inductive Linkage.Marks : Linkage → String → Prop
  | external : Marks .external ""
  | internal : Marks .internal "internal "

namespace TypeArena

/-- **The line defines the struct.** Of one whose body is not known it says no more than that,
and it tells from the brackets whether the members are packed. -/
inductive Defines (a : TypeArena) : Ty → String → Prop
  | bodiless {t : Ty} {name : String} {packed : Bool}
      (h : a.data? t = some (.struct ⟨name, none, packed⟩)) :
    Defines a t ("%" ++ name ++ " = type opaque")
  | empty {t : Ty} {name : String} {packed : Bool}
      (h : a.data? t = some (.struct ⟨name, some [], packed⟩)) :
    Defines a t ("%" ++ name ++ " = type \x7b\x7d")
  | unpacked {t : Ty} {name : String} {members : List Ty} {texts : List String}
      (h : a.data? t = some (.struct ⟨name, some members, false⟩)) (hne : members ≠ [])
      (htexts : List.Forall₂ a.Spells members texts) :
    Defines a t ("%" ++ name ++ " = type \x7b " ++ ", ".intercalate texts ++ " \x7d")
  | packed {t : Ty} {name : String} {members : List Ty} {texts : List String}
      (h : a.data? t = some (.struct ⟨name, some members, true⟩)) (hne : members ≠ [])
      (htexts : List.Forall₂ a.Spells members texts) :
    Defines a t ("%" ++ name ++ " = type <\x7b " ++ ", ".intercalate texts ++ " \x7d>")

/-- The types are the structs of the arena, in the order in which they were made. -/
structure ListsStructs (a : TypeArena) (structs : List Ty) : Prop where
  ordered : structs.Pairwise fun s t => s.index < t.index
  mem_iff : ∀ t, t ∈ structs ↔ ∃ data, a.data? t = some (.struct data)

/-- The texts are those of parameters: their types, and behind each of them the name that there
is for it, if there is one. -/
structure SpellsParameters (a : TypeArena) (params : List Ty) (names texts : List String) :
    Prop where
  length : texts.length = params.length
  named : ∀ (k : Nat) (param : Ty) (name : String), params[k]? = some param →
    names[k]? = some name → ∃ text, a.Spells param text ∧ texts[k]? = some (text ++ " %" ++ name)
  unnamed : ∀ (k : Nat) (param : Ty), params[k]? = some param → names[k]? = none →
    ∃ text, a.Spells param text ∧ texts[k]? = some text

end TypeArena

/-- **The line defines the global.** The address space is left out if it is the first. -/
inductive GlobalDecl.Line (g : GlobalDecl) (a : TypeArena) : String → Prop
  | global {mark text : String} (hmark : g.linkage.Marks mark) (htext : a.Spells g.type text)
      (hspace : g.addressSpace = 0) :
    Line g a ("@" ++ g.name ++ " = " ++ mark ++ "global " ++ text)
  | globalIn {mark text : String} (hmark : g.linkage.Marks mark) (htext : a.Spells g.type text)
      (hspace : g.addressSpace ≠ 0) :
    Line g a ("@" ++ g.name ++ " = " ++ mark ++ "global " ++ text ++
      " addrspace(" ++ toString g.addressSpace ++ ")")

/-- **The line declares the function**, or says that its type is not that of a function. -/
inductive FunctionDecl.Line (f : FunctionDecl) (a : TypeArena) : String → Prop
  | declared {result : Ty} {params : List Ty} {variadic : Bool} {mark text : String}
      {texts : List String} (h : a.data? f.type = some (.function result params variadic))
      (hmark : f.linkage.Marks mark) (htext : a.Spells result text)
      (htexts : a.SpellsParameters params f.paramNames texts) :
    Line f a ("declare " ++ mark ++ text ++ " @" ++ f.name ++ "(" ++
      ", ".intercalate (if variadic then texts ++ ["..."] else texts) ++ ")")
  | other (h : ∀ result params variadic,
      a.data? f.type ≠ some (.function result params variadic)) :
    Line f a ("; @" ++ f.name ++ " has non-function type")

/-- **The unit is written so**: a heading, and a line for each struct of the arena, for each
global and for each function, in their order. -/
def CodeUnit.WrittenAs (u : CodeUnit) (a : TypeArena) (text : String) : Prop :=
  ∃ structs definitions globals functions, a.ListsStructs structs ∧
    List.Forall₂ a.Defines structs definitions ∧
    List.Forall₂ (fun g line => g.Line a line) u.globals globals ∧
    List.Forall₂ (fun f line => f.Line a line) u.functions functions ∧
    text = String.join ((["; module '" ++ u.name ++ "'"] ++ definitions ++ globals ++
      functions).map (· ++ "\n"))

/-! ### Each line is written in one way -/

theorem Linkage.marks_iff {linkage : Linkage} {mark : String} :
    linkage.Marks mark ↔ mark = linkage.text := by
  constructor
  · rintro (_ | _) <;> rfl
  · rintro rfl
    cases linkage
    · exact .external
    · exact .internal

/-- A relation that is a function on the members of a list is one on the list. -/
theorem forall₂_iff_eq_map {α β : Type} {R : α → β → Prop} {f : α → β} {as : List α}
    (h : ∀ a ∈ as, ∀ b, R a b ↔ b = f a) {bs : List β} : List.Forall₂ R as bs ↔ bs = as.map f := by
  refine ⟨fun hbs => eq_map_of_forall₂ hbs fun a ha b => (h a ha b).mp, ?_⟩
  rintro rfl
  rw [List.forall₂_map_right_iff, List.forall₂_same]
  exact fun a ha => (h a ha (f a)).mpr rfl

namespace TypeArena

variable {a : TypeArena} {t : Ty} {text line : String} {ts structs : List Ty}
  {names texts : List String}

theorem Founded.spells_all_iff (h : a.Founded) (hts : ∀ t ∈ ts, a.Has t) :
    List.Forall₂ a.Spells ts texts ↔ texts = ts.map a.text :=
  forall₂_iff_eq_map fun _ ht _ => h.spells_iff (hts _ ht)

/-- The members of a struct are types of the arena. -/
theorem Founded.has_members (h : a.Founded) {name : String} {members : List Ty} {packed : Bool}
    (ht : a.data? t = some (.struct ⟨name, some members, packed⟩)) :
    ∀ member ∈ members, a.Has member :=
  fun member hmember => h.there t _ ht member hmember

theorem Founded.defines_iff (h : a.Founded) {data : StructData}
    (ht : a.data? t = some (.struct data)) : a.Defines t line ↔ line = a.definitionText t := by
  rw [definitionText, struct?_eq_some_iff.mpr ht]
  obtain ⟨name, body, packed⟩ := data
  constructor
  · intro hline
    cases hline with
    | bodiless h' | empty h' =>
      obtain ⟨⟩ := TypeData.struct.inj (Option.some.inj (ht.symm.trans h'))
      rfl
    | unpacked h' hne htexts | packed h' hne htexts =>
      obtain ⟨⟩ := TypeData.struct.inj (Option.some.inj (ht.symm.trans h'))
      obtain ⟨member, members, rfl⟩ := List.exists_cons_of_ne_nil hne
      rw [(h.spells_all_iff (h.has_members ht)).mp htexts]
      rfl
  · rintro rfl
    rcases body with _ | _ | ⟨member, members⟩
    · exact .bodiless ht
    · exact .empty ht
    · have htexts := (h.spells_all_iff (h.has_members ht)).mpr rfl
      cases packed with
      | false => exact .unpacked ht (List.cons_ne_nil _ _) htexts
      | true => exact .packed ht (List.cons_ne_nil _ _) htexts

/-- The structs of an arena are listed in one way. -/
theorem listsStructs_iff : a.ListsStructs structs ↔ structs = a.structs := by
  have hordered : a.structs.Pairwise fun s t => s.index < t.index := by
    refine List.Pairwise.filter _ (List.pairwise_map.mpr ?_)
    exact List.pairwise_lt_range
  have hmem (t : Ty) : t ∈ a.structs ↔ ∃ data, a.data? t = some (.struct data) := by
    simp only [TypeArena.structs, List.mem_filter, Option.isSome_iff_exists, struct?_eq_some_iff]
    refine ⟨And.right, fun h => ⟨?_, h⟩⟩
    obtain ⟨data, hdata⟩ := h
    exact List.mem_map.mpr ⟨t.index, List.mem_range.mpr (lt_size_of_data? hdata), rfl⟩
  constructor
  · intro h
    have hperm : structs.Perm a.structs := by
      refine (List.perm_ext_iff_of_nodup ?_ ?_).mpr fun t => (h.mem_iff t).trans (hmem t).symm
      · exact h.ordered.imp fun hlt heq => Nat.ne_of_lt hlt (congrArg Ty.index heq)
      · exact hordered.imp fun hlt heq => Nat.ne_of_lt hlt (congrArg Ty.index heq)
    exact hperm.eq_of_pairwise (fun s t _ _ hst hts => absurd hst (Nat.lt_asymm hts))
      h.ordered hordered
  · rintro rfl
    exact ⟨hordered, hmem⟩

/-! ### Parameters -/

theorem length_namedParameters (texts names : List String) :
    (namedParameters texts names).length = texts.length := by
  fun_induction namedParameters texts names with
  | case1 => rfl
  | case2 text texts ih | case3 text texts name names ih =>
    rw [List.length_cons, List.length_cons, ih]

/-- A parameter is written with its name behind it if it has one. -/
theorem getElem?_namedParameters (texts names : List String) (k : Nat) :
    (namedParameters texts names)[k]? =
      texts[k]?.map fun text => (names[k]?.map fun name => text ++ " %" ++ name).getD text := by
  fun_induction namedParameters texts names generalizing k with
  | case1 => rfl
  | case2 text texts ih | case3 text texts name names ih =>
    cases k with
    | zero => rfl
    | succ k => simpa using ih k

theorem Founded.spellsParameters_iff (h : a.Founded) (hts : ∀ t ∈ ts, a.Has t) :
    a.SpellsParameters ts names texts ↔ texts = namedParameters (ts.map a.text) names := by
  have hget (k : Nat) : (namedParameters (ts.map a.text) names)[k]? = ts[k]?.map fun t =>
      (names[k]?.map fun name => a.text t ++ " %" ++ name).getD (a.text t) := by
    rw [getElem?_namedParameters, List.getElem?_map, Option.map_map]
    rfl
  constructor
  · intro hspells
    refine List.ext_getElem? fun k => ?_
    rw [hget]
    cases hk : ts[k]? with
    | none =>
      rw [List.getElem?_eq_none_iff] at hk
      exact List.getElem?_eq_none (hspells.length ▸ hk)
    | some t =>
      have ht := hts t (List.mem_of_getElem? hk)
      cases hname : names[k]? with
      | none =>
        obtain ⟨text, htext, hk'⟩ := hspells.unnamed k t hk hname
        rw [hk', (h.spells_iff ht).mp htext]
        rfl
      | some name =>
        obtain ⟨text, htext, hk'⟩ := hspells.named k t name hk hname
        rw [hk', (h.spells_iff ht).mp htext]
        rfl
  · rintro rfl
    refine ⟨by rw [length_namedParameters, List.length_map], fun k t name hk hname => ?_,
      fun k t hk hname => ?_⟩
    · refine ⟨a.text t, h.spells_text (hts t (List.mem_of_getElem? hk)), ?_⟩
      rw [hget, hk, hname]
      rfl
    · refine ⟨a.text t, h.spells_text (hts t (List.mem_of_getElem? hk)), ?_⟩
      rw [hget, hk, hname]
      rfl

end TypeArena

/-! ### The text of a unit -/

section Units

variable {a : TypeArena} {text line : String}

theorem GlobalDecl.line_iff {g : GlobalDecl} (h : a.Founded) (hg : a.Has g.type) :
    g.Line a line ↔ line = g.text a := by
  rw [GlobalDecl.text]
  constructor
  · intro hline
    cases hline with
    | global hmark htext hspace =>
      rw [if_pos hspace, Linkage.marks_iff.mp hmark, (h.spells_iff hg).mp htext,
        String.append_empty]
    | globalIn hmark htext hspace =>
      rw [if_neg hspace, Linkage.marks_iff.mp hmark, (h.spells_iff hg).mp htext]
      simp only [String.append_assoc]
  · rintro rfl
    split
    · rename_i hspace
      rw [String.append_empty]
      exact .global (Linkage.marks_iff.mpr rfl) (h.spells_text hg) hspace
    · rename_i hspace
      have hline := GlobalDecl.Line.globalIn (Linkage.marks_iff.mpr rfl) (h.spells_text hg) hspace
      simpa only [String.append_assoc] using hline

/-- The text of a function whose type is one. -/
theorem FunctionDecl.text_of_data? {f : FunctionDecl} {result : Ty} {params : List Ty}
    {variadic : Bool} (hd : a.data? f.type = some (.function result params variadic)) :
    f.text a = "declare " ++ f.linkage.text ++ a.text result ++ " @" ++ f.name ++ "(" ++
      ", ".intercalate (if variadic then namedParameters (params.map a.text) f.paramNames ++ ["..."]
        else namedParameters (params.map a.text) f.paramNames) ++ ")" := by
  rw [FunctionDecl.text, hd]
  simp only [parameterList, commaSeparated, String.append_assoc]

theorem FunctionDecl.line_iff {f : FunctionDecl} (h : a.Founded) :
    f.Line a line ↔ line = f.text a := by
  have hparts {result : Ty} {params : List Ty} {variadic : Bool}
      (hd : a.data? f.type = some (.function result params variadic)) :
      a.Has result ∧ ∀ param ∈ params, a.Has param :=
    List.forall_mem_cons.mp (h.there f.type _ hd)
  constructor
  · intro hline
    cases hline with
    | declared hd hmark htext htexts =>
      obtain ⟨hresult, hparams⟩ := hparts hd
      rw [text_of_data? hd, Linkage.marks_iff.mp hmark, (h.spells_iff hresult).mp htext,
        (h.spellsParameters_iff hparams).mp htexts]
    | other hnone =>
      rw [FunctionDecl.text]
      split
      · rename_i result params variadic hd
        exact absurd hd (hnone result params variadic)
      · rfl
  · rintro rfl
    by_cases hfunction : ∃ result params variadic,
        a.data? f.type = some (.function result params variadic)
    · obtain ⟨result, params, variadic, hd⟩ := hfunction
      obtain ⟨hresult, hparams⟩ := hparts hd
      rw [text_of_data? hd]
      exact .declared hd (Linkage.marks_iff.mpr rfl) (h.spells_text hresult)
        ((h.spellsParameters_iff hparams).mpr rfl)
    · rw [FunctionDecl.text]
      split
      · rename_i result params variadic hd
        exact absurd ⟨result, params, variadic, hd⟩ hfunction
      · exact .other fun result params variadic hd => hfunction ⟨result, params, variadic, hd⟩

variable {u : CodeUnit}

/-- **A unit is written in one way**, and that is its text. -/
theorem CodeUnit.writtenAs_iff (h : a.Founded) (hglobals : ∀ g ∈ u.globals, a.Has g.type) :
    u.WrittenAs a text ↔ text = u.text a := by
  have hdefinitions (definitions : List String) :
      List.Forall₂ a.Defines a.structs definitions ↔
        definitions = a.structs.map a.definitionText :=
    forall₂_iff_eq_map fun t ht _ => by
      obtain ⟨data, hdata⟩ := ((TypeArena.listsStructs_iff.mpr rfl).mem_iff t).mp ht
      exact h.defines_iff hdata
  have hglobals' (lines : List String) :
      List.Forall₂ (fun g line => g.Line a line) u.globals lines ↔
        lines = u.globals.map (GlobalDecl.text a) :=
    forall₂_iff_eq_map fun g hg line =>
      (GlobalDecl.line_iff h (hglobals g hg) : g.Line a line ↔ line = GlobalDecl.text a g)
  have hfunctions (lines : List String) :
      List.Forall₂ (fun f line => f.Line a line) u.functions lines ↔
        lines = u.functions.map (FunctionDecl.text a) :=
    forall₂_iff_eq_map fun f _ line =>
      (FunctionDecl.line_iff h : f.Line a line ↔ line = FunctionDecl.text a f)
  simp only [WrittenAs, TypeArena.listsStructs_iff, hglobals', hfunctions]
  constructor
  · rintro ⟨structs, definitions, globals, functions, rfl, hdefined, rfl, rfl, rfl⟩
    rw [(hdefinitions definitions).mp hdefined]
    rfl
  · rintro rfl
    exact ⟨_, _, _, _, rfl, (hdefinitions _).mpr rfl, rfl, rfl, rfl⟩

end Units

end ShaderLowering
