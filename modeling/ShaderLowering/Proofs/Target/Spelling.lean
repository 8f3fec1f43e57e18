import ShaderLowering.Proofs.Target.Renaming

/-!
# How types are spelled

The text of a type is looked for only so deep, and a handle that the arena does not have
would be written as a question mark. Neither shows in an arena whose types are made of
earlier ones: the text of each of its types is spelled out, and every type that comes up in
it is one of the arena (`ShaderLowering.TypeArena.Founded.spells_text`). Nothing else spells
the type (`ShaderLowering.TypeArena.Founded.spells_iff`).
-/

namespace ShaderLowering

/-- A relation in which the members of a list have no choice leaves none to the list. -/
theorem eq_map_of_forall₂ {α β : Type} {R : α → β → Prop} {f : α → β} {as : List α} {bs : List β}
    (h : List.Forall₂ R as bs) (hR : ∀ a ∈ as, ∀ b, R a b → b = f a) : bs = as.map f := by
  induction h with
  | nil => rfl
  | cons hab _ ih =>
    obtain ⟨ha, has⟩ := List.forall_mem_cons.mp hR
    rw [List.map_cons, ← ha _ hab, ← ih has]

namespace TypeArena

/-- **A type is spelled so**: every type that comes up in it is found in the arena. -/
inductive Spells (a : TypeArena) : Ty → String → Prop
  | void {t : Ty} (h : a.data? t = some .void) : Spells a t "void"
  | int {t : Ty} {bits : Nat} (h : a.data? t = some (.int bits)) :
    Spells a t ("i" ++ toString bits)
  | float {t : Ty} {bits : Nat} (h : a.data? t = some (.float bits)) :
    Spells a t (if bits = 16 then "half" else if bits = 32 then "float" else "double")
  | vector {t element : Ty} {count : Nat} {text : String}
      (h : a.data? t = some (.vector element count)) (helement : Spells a element text) :
    Spells a t ("<" ++ toString count ++ " x " ++ text ++ ">")
  | array {t element : Ty} {count : Nat} {text : String}
      (h : a.data? t = some (.array element count)) (helement : Spells a element text) :
    Spells a t ("[" ++ toString count ++ " x " ++ text ++ "]")
  /-- The address space is left out if it is the first. -/
  | pointer {t pointee : Ty} {text : String} (h : a.data? t = some (.pointer pointee 0))
      (hpointee : Spells a pointee text) : Spells a t (text ++ "*")
  | pointerInto {t pointee : Ty} {addressSpace : Nat} {text : String}
      (h : a.data? t = some (.pointer pointee addressSpace)) (hspace : addressSpace ≠ 0)
      (hpointee : Spells a pointee text) :
    Spells a t (text ++ " addrspace(" ++ toString addressSpace ++ ")*")
  | function {t result : Ty} {params : List Ty} {variadic : Bool} {text : String}
      {texts : List String} (h : a.data? t = some (.function result params variadic))
      (hresult : Spells a result text) (hparams : List.Forall₂ (Spells a) params texts) :
    Spells a t (text ++ " (" ++
      ", ".intercalate (if variadic then texts ++ ["..."] else texts) ++ ")")
  /-- Of a struct there is the name only, so that spelling comes to an end. -/
  | struct {t : Ty} {data : StructData} (h : a.data? t = some (.struct data)) :
    Spells a t ("%" ++ data.name)

/-- Parameters are written behind what comes before them, in brackets. -/
theorem append_parameterList (text : String) (texts : List String) (variadic : Bool) :
    text ++ " " ++ parameterList texts variadic =
      text ++ " (" ++ ", ".intercalate (if variadic then texts ++ ["..."] else texts) ++ ")" := by
  have hopen : " " ++ "(" = " (" := rfl
  rw [parameterList, commaSeparated, ← hopen]
  simp only [String.append_assoc]

variable {a : TypeArena} {t : Ty}

theorem Founded.spells_textWithin (h : a.Founded) (ht : a.Has t) {depth : Nat}
    (hlt : t.index < depth) : a.Spells t (a.textWithin depth t) := by
  induction depth generalizing t with
  | zero => exact absurd hlt (Nat.not_lt_zero _)
  | succ depth ih =>
    obtain ⟨d, hd⟩ := ht.exists_data?
    have hpart (hstructural : d.IsStructural) (part : Ty) (hmem : part ∈ d.parts) :
        a.Spells part (a.textWithin depth part) := by
      have hbelow := h.below t d hd hstructural part hmem
      exact ih (h.there t d hd part hmem) (by omega)
    rw [textWithin, hd]
    cases d with
    | void => exact .void hd
    | int bits => exact .int hd
    | float bits => exact .float hd
    | vector element count => exact .vector hd (hpart trivial element List.mem_cons_self)
    | array element count => exact .array hd (hpart trivial element List.mem_cons_self)
    | pointer pointee addressSpace =>
      have hpointee := hpart trivial pointee List.mem_cons_self
      dsimp only
      split
      · rename_i hspace
        exact .pointer (hspace ▸ hd) hpointee
      · rename_i hspace
        exact .pointerInto hd hspace hpointee
    | function result params variadic =>
      dsimp only
      rw [append_parameterList]
      refine .function hd (hpart trivial result List.mem_cons_self) ?_
      rw [List.forall₂_map_right_iff, List.forall₂_same]
      exact fun param hparam => hpart trivial param (List.mem_cons_of_mem _ hparam)
    | struct data => exact .struct hd

/-- **Every type of the arena is spelled by its text.** -/
theorem Founded.spells_text (h : a.Founded) (ht : a.Has t) : a.Spells t (a.text t) :=
  h.spells_textWithin ht (Nat.lt_succ_self _)

/-- A type is spelled in no other way. -/
theorem Founded.eq_textWithin (h : a.Founded) {text : String} (hspells : a.Spells t text)
    {depth : Nat} (hlt : t.index < depth) : text = a.textWithin depth t := by
  induction depth generalizing t text with
  | zero => exact absurd hlt (Nat.not_lt_zero _)
  | succ depth ih =>
    have hpart {d : TypeData} (hd : a.data? t = some d) (hstructural : d.IsStructural) (part : Ty)
        (hmem : part ∈ d.parts) (text : String) (hspells : a.Spells part text) :
        text = a.textWithin depth part := by
      have hbelow := h.below t d hd hstructural part hmem
      exact ih hspells (by omega)
    rw [textWithin]
    cases hspells with
    | void hd | int hd | struct hd => rw [hd]
    | float hd =>
      rw [hd]
      rfl
    | vector hd helement | array hd helement =>
      rw [hd, hpart hd trivial _ List.mem_cons_self _ helement]
    | pointer hd hpointee =>
      rw [hd, hpart hd trivial _ List.mem_cons_self _ hpointee]
      rfl
    | pointerInto hd hspace hpointee =>
      rw [hd, hpart hd trivial _ List.mem_cons_self _ hpointee]
      exact (if_neg hspace).symm
    | @function _ result params variadic text texts hd hresult hparams =>
      have htexts : texts = params.map (a.textWithin depth) :=
        eq_map_of_forall₂ hparams fun param hparam text =>
          hpart hd trivial param (List.mem_cons_of_mem _ hparam) text
      rw [hd, hpart hd trivial _ List.mem_cons_self _ hresult, htexts]
      exact (append_parameterList _ _ _).symm

/-- **The text of a type is the only one that spells it.** -/
theorem Founded.spells_iff (h : a.Founded) (ht : a.Has t) {text : String} :
    a.Spells t text ↔ text = a.text t := by
  refine ⟨fun hspells => h.eq_textWithin hspells (Nat.lt_succ_self _), ?_⟩
  rintro rfl
  exact h.spells_text ht

end TypeArena

end ShaderLowering
