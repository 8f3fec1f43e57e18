import ShaderLowering.Proofs.Target.Interning
import ShaderLowering.Proofs.Target.Spelling

/-!
# Reading a type from its text

Stars, address spaces and parameters are written after the type that they belong to, so the
text of a type is read from left to right: first comes a type that does not end in any of
those, and then each of them makes a new type of what has been read. That is what
`ShaderLowering.TypeArena.readWithin` does, and it makes no use of the text but to tell the
cases apart. Nothing in it goes back or looks further ahead than to the character after a
space.
-/

namespace ShaderLowering

/-- Characters that may stand after the text of a type. -/
def followers : List Char :=
  [' ', '*', ',', ')', '>', ']']

/-- The number at the front of a text, and what follows it. -/
def readNumber (text : List Char) : Nat × List Char :=
  (Nat.ofDigitChars 10 (text.takeWhile Char.isDigit) 0, text.dropWhile Char.isDigit)

/-- What reads a type at the front of a text, and gives the type and what follows it. -/
abbrev TypeReader := List Char → Option (Ty × List Char)

/-- The data is that of a struct of the given name. -/
def TypeData.isNamed (name : List Char) : TypeData → Bool
  | .struct data => data.name.toList == name
  | _ => false

namespace TypeArena

/-! ### Reading -/

/-- The type with the given data. -/
def find? (a : TypeArena) (d : TypeData) : Option Ty :=
  (a.types.findIdx? (· == d)).map Ty.mk

/-- The struct with the given name. -/
def structNamed? (a : TypeArena) (name : List Char) : Option Ty :=
  (a.types.findIdx? (TypeData.isNamed name)).map Ty.mk

/-- Reads a type that does not end in a star or in parameters. The elements of vectors and
arrays are read by `inner`. -/
def readRoot (a : TypeArena) (inner : TypeReader) : TypeReader
  | 'v' :: rest => (a.find? .void).map (·, rest.drop 3)
  | 'h' :: rest => (a.find? (.float 16)).map (·, rest.drop 3)
  | 'f' :: rest => (a.find? (.float 32)).map (·, rest.drop 4)
  | 'd' :: rest => (a.find? (.float 64)).map (·, rest.drop 5)
  | 'i' :: rest =>
    let (bits, rest) := readNumber rest
    (a.find? (.int bits)).map (·, rest)
  | '<' :: rest => do
    let (count, rest) := readNumber rest
    let (element, rest) ← inner (rest.drop 3)
    (a.find? (.vector element count)).map (·, rest.drop 1)
  | '[' :: rest => do
    let (count, rest) := readNumber rest
    let (element, rest) ← inner (rest.drop 3)
    (a.find? (.array element count)).map (·, rest.drop 1)
  | '%' :: rest =>
    (a.structNamed? (rest.takeWhile (· ∉ followers))).map (·, rest.dropWhile (· ∉ followers))
  | _ => none

/-- Reads parameters, and whether there may be more, up to the closing bracket. -/
def readParams (inner : TypeReader) : Nat → List Char → Option (List Ty × Bool × List Char)
  | 0, _ => none
  | _ + 1, ')' :: rest => some ([], false, rest)
  | _ + 1, '.' :: rest => some ([], true, rest.drop 3)
  | fuel + 1, text => do
    let (param, rest) ← inner text
    let (params, variadic, rest) ← readParams inner fuel
      (if rest.head? = some ',' then rest.drop 2 else rest)
    return (param :: params, variadic, rest)

/-- Reads the stars, address spaces and parameters after a type. -/
def readSuffixes (a : TypeArena) (inner : TypeReader) : Nat → Ty → TypeReader
  | fuel + 1, t, '*' :: rest => do
    a.readSuffixes inner fuel (← a.find? (.pointer t 0)) rest
  | fuel + 1, t, ' ' :: rest =>
    match rest with
    | '(' :: rest => do
      let (params, variadic, rest) ← readParams inner rest.length rest
      a.readSuffixes inner fuel (← a.find? (.function t params variadic)) rest
    | rest => do
      let (addressSpace, rest) := readNumber (rest.drop 10)
      a.readSuffixes inner fuel (← a.find? (.pointer t addressSpace)) (rest.drop 2)
  | _, t, rest => some (t, rest)

/-- Reads a type in which types lie in one another at most `depth` deep. -/
def readWithin (a : TypeArena) : Nat → TypeReader
  | 0, _ => none
  | depth + 1, text => do
    let (root, rest) ← a.readRoot (a.readWithin depth) text
    a.readSuffixes (a.readWithin depth) rest.length root rest

/-- The type that a text stands for. -/
def read (a : TypeArena) (text : String) : Option Ty :=
  (a.readWithin a.size text.toList).map Prod.fst

/-! ### Numbers and names -/

theorem takeWhile_append_eq {p : Char → Bool} {text rest : List Char}
    (htext : ∀ c ∈ text, p c = true) (hrest : ∀ c ∈ rest.head?, p c = false) :
    (text ++ rest).takeWhile p = text ∧ (text ++ rest).dropWhile p = rest := by
  rw [List.takeWhile_append_of_pos htext, List.dropWhile_append_of_pos htext]
  cases rest with
  | nil => exact ⟨List.append_nil _, rfl⟩
  | cons c rest =>
    have hc : p c = false := hrest c rfl
    rw [List.takeWhile_cons_of_neg (by simp [hc]), List.dropWhile_cons_of_neg (by simp [hc]),
      List.append_nil]
    exact ⟨rfl, rfl⟩

/-- A number is read back if no digit follows it. -/
theorem readNumber_append (n : Nat) {rest : List Char}
    (hrest : ∀ c ∈ rest.head?, c.isDigit = false) :
    readNumber ((toString n).toList ++ rest) = (n, rest) := by
  rw [Nat.toString_eq_ofList_toDigits, String.toList_ofList]
  have hdigits : ∀ c ∈ Nat.toDigits 10 n, c.isDigit = true :=
    fun c hc => Nat.isDigit_of_mem_toDigits (by decide) (by decide) hc
  obtain ⟨htake, hdrop⟩ := takeWhile_append_eq hdigits hrest
  rw [readNumber, htake, hdrop, Nat.ofDigitChars_ten_toDigits]

/-- What is left of a text begins with something that may follow a type. -/
def Follows (rest : List Char) : Prop :=
  ∀ c ∈ rest.head?, c ∈ followers

/-- What is left of a text cannot belong to the type before it. -/
def Closes (rest : List Char) : Prop :=
  ∀ c ∈ rest.head?, c ∈ [',', ')', '>', ']']

theorem Closes.follows {rest : List Char} (h : Closes rest) : Follows rest := fun c hc => by
  have := h c hc
  simp only [followers, List.mem_cons] at this ⊢
  tauto

theorem Follows.not_isDigit {rest : List Char} (h : Follows rest) :
    ∀ c ∈ rest.head?, c.isDigit = false := fun c hc => by
  have := h c hc
  simp only [followers, List.mem_cons, List.not_mem_nil, or_false] at this
  rcases this with rfl | rfl | rfl | rfl | rfl | rfl <;> rfl

variable {a : TypeArena} {s t u : Ty} {d : TypeData}

/-! ### Widths that have a name -/

/-- Floating-point numbers have one of the widths that have a name. -/
def NamesWidths (a : TypeArena) : Prop :=
  ∀ t bits, a.data? t = some (.float bits) → bits ∈ [16, 32, 64]

theorem NamesWidths.push (h : a.NamesWidths) (hd : ∀ bits, d = .float bits → bits ∈ [16, 32, 64]) :
    (a.push d).2.NamesWidths := by
  intro t bits ht
  rw [data?_push] at ht
  split at ht
  · exact hd bits (Option.some.inj ht)
  · exact h t bits ht

theorem NamesWidths.intern (h : a.NamesWidths)
    (hd : ∀ bits, d = .float bits → bits ∈ [16, 32, 64]) : (a.intern d).2.NamesWidths := by
  rcases a.intern_cases d with ⟨-, heq⟩ | ⟨-, heq⟩
  · rwa [heq]
  · rw [heq]
    exact h.push hd

/-- No other floating-point numbers are made. -/
theorem NamesWidths.perform (h : a.NamesWidths) (action : TypeAction) :
    (a.perform action).NamesWidths := by
  cases hd : action.wanted? with
  | none =>
    rcases of_wanted?_eq_none hd a with ⟨name, rfl⟩ | ⟨-, hkept⟩
    · exact h.push nofun
    · exact fun t bits ht => h t bits ((hkept t (.float bits) trivial).mp ht)
  | some d =>
    rw [(of_wanted? hd a).2.2]
    refine h.intern fun bits hbits => ?_
    rw [hbits] at hd
    cases action with
    | float bits' =>
      obtain ⟨hmem, heq⟩ := Option.ite_none_right_eq_some.mp hd
      cases heq
      exact hmem
    | int bits' => exact nomatch (Option.ite_none_right_eq_some.mp hd).2
    | vector element count => exact nomatch (Option.ite_none_left_eq_some.mp hd).2
    | _ => exact nomatch hd

/-! ### Finding types -/

theorem findIdx?_eq {p : TypeData → Bool} (ht : a.data? t = some d) (hp : p d = true)
    (hunique : ∀ s e, a.data? s = some e → p e = true → s = t) :
    (a.types.findIdx? p).map Ty.mk = some t := by
  cases hfound : a.types.findIdx? p with
  | none =>
    obtain ⟨hlt, heq⟩ := Array.getElem?_eq_some_iff.mp ht
    have := Array.findIdx?_eq_none_iff.mp hfound a.types[t.index] (Array.getElem_mem hlt)
    rw [heq, hp] at this
    exact nomatch this
  | some index =>
    obtain ⟨hlt, hindex, -⟩ := Array.findIdx?_eq_some_iff_getElem.mp hfound
    exact congrArg some (hunique ⟨index⟩ _ (Array.getElem?_eq_getElem hlt) hindex)

theorem Uniqued.find?_eq (h : a.Uniqued) (hd : d.IsStructural) (ht : a.data? t = some d) :
    a.find? d = some t :=
  findIdx?_eq ht (beq_self_eq_true d) fun s _ hs he => h s t d hd (beq_iff_eq.mp he ▸ hs) ht

/-- **A text can be read** in such an arena: structs are told apart by their names, and no name
has a character in it that may follow the name. -/
structure Legible (a : TypeArena) : Prop where
  founded : a.Founded
  uniqued : a.Uniqued
  widths : a.NamesWidths
  distinct : ∀ s t name, a.name? s = some name → a.name? t = some name → s = t
  plain : ∀ t name, a.name? t = some name → ∀ c ∈ name.toList, c ∉ followers

theorem name?_of_data? {data : StructData} (h : a.data? t = some (.struct data)) :
    a.name? t = some data.name := by
  rw [name?, struct?_eq_some_iff.mpr h]
  rfl

theorem Legible.structNamed?_eq (h : a.Legible) {data : StructData}
    (ht : a.data? t = some (.struct data)) : a.structNamed? data.name.toList = some t := by
  refine findIdx?_eq ht (beq_self_eq_true _) fun s e hs he => ?_
  cases e with
  | struct data' =>
    have hname : data'.name = data.name := String.toList_inj.mp (beq_iff_eq.mp he)
    exact h.distinct s t data.name (hname ▸ name?_of_data? hs) (name?_of_data? ht)
  | _ => exact nomatch he

/-! ### Types one after another -/

/-- The reader reads the type from each of its texts. -/
def ReadBy (a : TypeArena) (inner : TypeReader) (t : Ty) : Prop :=
  ∀ text rest, a.Spells t text → Closes rest → inner (text.toList ++ rest) = some (t, rest)

/-- The text of a type begins with the text of its root, from which the reader goes on over
`steps` suffixes to the type. -/
structure Begins (a : TypeArena) (inner : TypeReader) (t : Ty) (text : List Char) (root : Ty)
    (suffixes : List Char) (steps : Nat) : Prop where
  enough : steps ≤ suffixes.length
  first : ∀ rest, Follows rest → a.readRoot inner (text ++ rest) = some (root, suffixes ++ rest)
  further : ∀ rest fuel, Follows rest →
    a.readSuffixes inner (fuel + steps) root (suffixes ++ rest) = a.readSuffixes inner fuel t rest

variable {inner : TypeReader} {text suffixes : List Char} {root : Ty} {steps : Nat}

/-- A type without suffixes is its own root. -/
theorem begins_self (h : ∀ rest, Follows rest → a.readRoot inner (text ++ rest) = some (t, rest)) :
    Begins a inner t text t [] 0 :=
  ⟨Nat.le_refl 0, h, fun _ _ _ => rfl⟩

/-- A suffix makes a new type of the one before it. -/
theorem Begins.suffix {suffix : List Char} (h : Begins a inner u text root suffixes steps)
    (hne : suffix ≠ []) (hsuffix : Follows suffix)
    (hstep : ∀ rest fuel, Follows rest →
      a.readSuffixes inner (fuel + 1) u (suffix ++ rest) = a.readSuffixes inner fuel t rest) :
    Begins a inner t (text ++ suffix) root (suffixes ++ suffix) (steps + 1) := by
  have hfollows (rest : List Char) : Follows (suffix ++ rest) := fun c hc => by
    rw [List.head?_append_of_ne_nil _ hne] at hc
    exact hsuffix c hc
  refine ⟨?_, fun rest _ => ?_, fun rest fuel hrest => ?_⟩
  · have := List.length_pos_iff.mpr hne
    have := h.enough
    rw [List.length_append]
    omega
  · rw [List.append_assoc, List.append_assoc, h.first _ (hfollows rest)]
  · rw [List.append_assoc, ← Nat.add_assoc, Nat.add_right_comm, h.further _ _ (hfollows rest),
      hstep rest fuel hrest]

theorem readSuffixes_of_closes {rest : List Char} (h : Closes rest) (fuel : Nat) :
    a.readSuffixes inner fuel t rest = some (t, rest) := by
  cases rest with
  | nil => cases fuel <;> rfl
  | cons c rest =>
    have hc := h c rfl
    simp only [List.mem_cons, List.not_mem_nil, or_false] at hc
    cases fuel with
    | zero => rfl
    | succ fuel => rcases hc with rfl | rfl | rfl | rfl <;> rfl

/-! ### Parameters -/

theorem Spells.ne_nil {text : String} (h : a.Spells t text) : text.toList ≠ [] := by
  cases h with
  | float =>
    split
    · simp
    · split <;> simp
  | _ => simp

/-- Neither a closing bracket nor a dot begins a type. -/
def Rejects (inner : TypeReader) : Prop :=
  ∀ c ∈ [')', '.'], ∀ rest, inner (c :: rest) = none

theorem readParams_of_ne {fuel : Nat} {text rest : List Char} (hinner : Rejects inner)
    (h : inner text = some (t, rest)) :
    readParams inner (fuel + 1) text =
      (readParams inner fuel (if rest.head? = some ',' then rest.drop 2 else rest)).map
        fun p => (t :: p.1, p.2.1, p.2.2) := by
  have hclose : ∀ more, text = ')' :: more → False := fun more heq => by
    rw [heq, hinner ')' (by simp)] at h
    exact nomatch h
  have hdots : ∀ more, text = '.' :: more → False := fun more heq => by
    rw [heq, hinner '.' (by simp)] at h
    exact nomatch h
  rw [readParams, h]
  · simp only [Option.bind_eq_bind, Option.bind_some]
    cases readParams inner fuel (if rest.head? = some ',' then rest.drop 2 else rest) <;> rfl
  · exact hclose
  · exact hdots

/-- Texts with a comma after the first if there are others. -/
theorem toList_intercalate_cons (text : String) (texts : List String) :
    (", ".intercalate (text :: texts)).toList =
      text.toList ++ if texts = [] then [] else ',' :: ' ' :: (", ".intercalate texts).toList := by
  cases texts with
  | nil => simp
  | cons text' texts => simp [String.intercalate_cons_cons]

/-- **Parameters are read back**, each of them by the reader of types. -/
theorem readParams_append {params : List Ty} {texts : List String} (variadic : Bool)
    (hinner : Rejects inner) (hparams : ∀ param ∈ params, ReadBy a inner param)
    (htexts : List.Forall₂ a.Spells params texts) (rest : List Char) (fuel : Nat)
    (hfuel :
      (", ".intercalate (if variadic then texts ++ ["..."] else texts)).toList.length < fuel) :
    readParams inner fuel
        ((", ".intercalate (if variadic then texts ++ ["..."] else texts)).toList ++ ')' :: rest) =
      some (params, variadic, rest) := by
  induction htexts generalizing fuel with
  | nil =>
    obtain ⟨fuel, rfl⟩ := Nat.exists_eq_succ_of_ne_zero (Nat.ne_zero_of_lt hfuel)
    cases variadic <;> rfl
  | @cons param text params texts hspells htexts ih =>
    obtain ⟨fuel, rfl⟩ := Nat.exists_eq_succ_of_ne_zero (Nat.ne_zero_of_lt hfuel)
    obtain ⟨hparam, hparams⟩ := List.forall_mem_cons.mp hparams
    have hcons : (if variadic then text :: texts ++ ["..."] else text :: texts) =
        text :: if variadic then texts ++ ["..."] else texts := by
      cases variadic <;> rfl
    have hlater := ih hparams
    rw [hcons, toList_intercalate_cons] at hfuel ⊢
    generalize (if variadic then texts ++ ["..."] else texts) = others at hlater hfuel ⊢
    have hpos := List.length_pos_iff.mpr hspells.ne_nil
    by_cases hnil : others = []
    · have hread := hparam text (')' :: rest) hspells (by simp [Closes])
      rw [if_pos hnil, List.append_nil] at hfuel ⊢
      subst hnil
      have hend := hlater fuel (by change 0 < fuel; omega)
      rw [String.intercalate_nil, String.toList_empty, List.nil_append] at hend
      rw [readParams_of_ne hinner hread, if_neg (by simp), hend]
      rfl
    · have hread := hparam text
        (',' :: ' ' :: ((", ".intercalate others).toList ++ ')' :: rest)) hspells (by simp [Closes])
      rw [if_neg hnil] at hfuel ⊢
      rw [List.length_append, List.length_cons, List.length_cons] at hfuel
      rw [List.append_assoc, List.cons_append, List.cons_append, readParams_of_ne hinner hread,
        if_pos List.head?_cons, List.drop_succ_cons, List.drop_succ_cons, List.drop_zero,
        hlater fuel (by omega)]
      rfl

/-! ### Types without suffixes -/

/-- The count and the element between brackets are read back. -/
theorem ReadBy.bracketed {text : String} (h : ReadBy a inner t) (hspells : a.Spells t text)
    {closing : Char} (hclosing : closing ∈ ['>', ']']) (count : Nat) (rest : List Char) :
    ∃ between, readNumber ((toString count).toList ++
        (' ' :: 'x' :: ' ' :: (text.toList ++ closing :: rest))) = (count, between) ∧
      inner (between.drop 3) = some (t, closing :: rest) := by
  refine ⟨_, readNumber_append count (by simp), h text _ hspells fun c hc => ?_⟩
  obtain rfl := Option.some.inj hc
  simp only [List.mem_cons, List.not_mem_nil, or_false] at hclosing
  rcases hclosing with rfl | rfl <;> simp

section Legible

variable (h : a.Legible)

include h

theorem Legible.readRoot_int {bits : Nat} (hd : a.data? t = some (.int bits)) {rest : List Char}
    (hrest : Follows rest) :
    a.readRoot inner (("i" ++ toString bits).toList ++ rest) = some (t, rest) := by
  rw [String.toList_append, List.append_assoc]
  change a.readRoot inner ('i' :: ((toString bits).toList ++ rest)) = _
  rw [readRoot, readNumber_append bits hrest.not_isDigit]
  simp only [h.uniqued.find?_eq (d := .int bits) trivial hd]
  rfl

theorem Legible.readRoot_float {bits : Nat} (hd : a.data? t = some (.float bits))
    (rest : List Char) :
    a.readRoot inner ((if bits = 16 then "half" else if bits = 32 then "float"
      else "double").toList ++ rest) = some (t, rest) := by
  have hfound := h.uniqued.find?_eq (d := .float bits) trivial hd
  have hbits := h.widths t bits hd
  simp only [List.mem_cons, List.not_mem_nil, or_false] at hbits
  rcases hbits with rfl | rfl | rfl
  · change (a.find? (.float 16)).map _ = _
    rw [hfound]
    rfl
  · change (a.find? (.float 32)).map _ = _
    rw [hfound]
    rfl
  · change (a.find? (.float 64)).map _ = _
    rw [hfound]
    rfl

theorem Legible.readRoot_vector {element : Ty} {count : Nat} {text : String}
    (hd : a.data? t = some (.vector element count)) (helement : ReadBy a inner element)
    (hspells : a.Spells element text) (rest : List Char) :
    a.readRoot inner (("<" ++ toString count ++ " x " ++ text ++ ">").toList ++ rest) =
      some (t, rest) := by
  obtain ⟨between, hcount, hread⟩ := helement.bracketed hspells (List.mem_cons_self) count rest
  simp only [String.toList_append, List.append_assoc]
  change a.readRoot inner ('<' :: ((toString count).toList ++
    (' ' :: 'x' :: ' ' :: (text.toList ++ '>' :: rest)))) = _
  rw [readRoot, hcount]
  simp only [hread, Option.bind_eq_bind, Option.bind_some,
    h.uniqued.find?_eq (d := .vector element count) trivial hd]
  rfl

theorem Legible.readRoot_array {element : Ty} {count : Nat} {text : String}
    (hd : a.data? t = some (.array element count)) (helement : ReadBy a inner element)
    (hspells : a.Spells element text) (rest : List Char) :
    a.readRoot inner (("[" ++ toString count ++ " x " ++ text ++ "]").toList ++ rest) =
      some (t, rest) := by
  obtain ⟨between, hcount, hread⟩ := helement.bracketed hspells
    (List.mem_cons_of_mem _ List.mem_cons_self) count rest
  simp only [String.toList_append, List.append_assoc]
  change a.readRoot inner ('[' :: ((toString count).toList ++
    (' ' :: 'x' :: ' ' :: (text.toList ++ ']' :: rest)))) = _
  rw [readRoot, hcount]
  simp only [hread, Option.bind_eq_bind, Option.bind_some,
    h.uniqued.find?_eq (d := .array element count) trivial hd]
  rfl

theorem Legible.readRoot_struct {data : StructData} (hd : a.data? t = some (.struct data))
    {rest : List Char} (hrest : Follows rest) :
    a.readRoot inner (("%" ++ data.name).toList ++ rest) = some (t, rest) := by
  rw [String.toList_append, List.append_assoc]
  change (a.structNamed? ((data.name.toList ++ rest).takeWhile _)).map
    (·, (data.name.toList ++ rest).dropWhile _) = _
  have hplain : ∀ c ∈ data.name.toList, decide (c ∉ followers) = true :=
    fun c hc => decide_eq_true (h.plain t data.name (name?_of_data? hd) c hc)
  obtain ⟨htake, hdrop⟩ := takeWhile_append_eq hplain fun c hc => by simpa using hrest c hc
  rw [htake, hdrop, h.structNamed?_eq hd]
  rfl

/-! ### Suffixes -/

theorem Legible.suffix_pointer (hd : a.data? t = some (.pointer u 0))
    (hbegins : Begins a inner u text root suffixes steps) :
    Begins a inner t (text ++ "*".toList) root (suffixes ++ "*".toList) (steps + 1) := by
  refine hbegins.suffix (by simp) (by simp [Follows, followers]) fun rest fuel _ => ?_
  change a.readSuffixes inner (fuel + 1) u ('*' :: rest) = _
  rw [readSuffixes, h.uniqued.find?_eq (d := .pointer u 0) trivial hd]
  rfl

theorem Legible.suffix_pointerInto {addressSpace : Nat}
    (hd : a.data? t = some (.pointer u addressSpace))
    (hbegins : Begins a inner u text root suffixes steps) :
    let suffix := " addrspace(".toList ++ (toString addressSpace).toList ++ ")*".toList
    Begins a inner t (text ++ suffix) root (suffixes ++ suffix) (steps + 1) := by
  refine hbegins.suffix (by simp) (by simp [Follows, followers]) fun rest fuel _ => ?_
  simp only [List.append_assoc]
  change (let (space, rest) := readNumber ((toString addressSpace).toList ++ ')' :: '*' :: rest)
    (do a.readSuffixes inner fuel (← a.find? (.pointer u space)) (rest.drop 2))) = _
  rw [readNumber_append addressSpace (by simp)]
  simp only [h.uniqued.find?_eq (d := .pointer u addressSpace) trivial hd]
  rfl

theorem Legible.suffix_function {params : List Ty} {variadic : Bool} {texts : List String}
    (hd : a.data? t = some (.function u params variadic)) (hinner : Rejects inner)
    (hread : ∀ param ∈ params, ReadBy a inner param)
    (hparams : List.Forall₂ a.Spells params texts)
    (hbegins : Begins a inner u text root suffixes steps) :
    let suffix := " (".toList ++
      (", ".intercalate (if variadic then texts ++ ["..."] else texts)).toList ++ ")".toList
    Begins a inner t (text ++ suffix) root (suffixes ++ suffix) (steps + 1) := by
  refine hbegins.suffix (by simp) (by simp [Follows, followers]) fun rest fuel _ => ?_
  generalize hothers : (if variadic then texts ++ ["..."] else texts) = others
  have hback := readParams_append variadic hinner hread hparams rest
    ((", ".intercalate others).toList ++ ')' :: rest).length
    (by rw [hothers, List.length_append, List.length_cons]; omega)
  rw [hothers] at hback
  simp only [List.append_assoc]
  change a.readSuffixes inner (fuel + 1) u
    (' ' :: '(' :: ((", ".intercalate others).toList ++ ')' :: rest)) = _
  rw [readSuffixes]
  simp only [hback, Option.bind_eq_bind, Option.bind_some,
    h.uniqued.find?_eq (d := .function u params variadic) trivial hd]

/-! ### Whole types -/

/-- **The text of a type is read as the type**, if the types that come up in it are. -/
theorem Legible.begins (hinner : Rejects inner) {text : String} (hspells : a.Spells t text)
    (hparts : ∀ u, u.index < t.index → ReadBy a inner u) :
    ∃ root suffixes steps, Begins a inner t text.toList root suffixes steps := by
  -- by the handle, as a type has a later one than the types it is made of
  induction hindex : t.index using Nat.strong_induction_on generalizing t text with
  | _ index ih =>
    subst hindex
    have hbelow (d : TypeData) (hd : a.data? t = some d) (hstructural : d.IsStructural)
        (part : Ty) (hmem : part ∈ d.parts) : part.index < t.index :=
      h.founded.below t d hd hstructural part hmem
    have hpart (u : Ty) (text : String) (hu : u.index < t.index) (hspells : a.Spells u text) :
        ∃ root suffixes steps, Begins a inner u text.toList root suffixes steps :=
      ih u.index hu hspells (fun v hv => hparts v (by omega)) rfl
    cases hspells with
    | void hd =>
      refine ⟨t, [], 0, begins_self fun rest _ => ?_⟩
      change (a.find? .void).map _ = _
      rw [h.uniqued.find?_eq (d := .void) trivial hd]
      rfl
    | int hd => exact ⟨t, [], 0, begins_self fun rest hrest => h.readRoot_int hd hrest⟩
    | float hd => exact ⟨t, [], 0, begins_self fun rest _ => h.readRoot_float hd rest⟩
    | vector hd helement =>
      have hread := hparts _ (hbelow _ hd trivial _ List.mem_cons_self)
      exact ⟨t, [], 0, begins_self fun rest _ => h.readRoot_vector hd hread helement rest⟩
    | array hd helement =>
      have hread := hparts _ (hbelow _ hd trivial _ List.mem_cons_self)
      exact ⟨t, [], 0, begins_self fun rest _ => h.readRoot_array hd hread helement rest⟩
    | struct hd => exact ⟨t, [], 0, begins_self fun rest hrest => h.readRoot_struct hd hrest⟩
    | pointer hd hpointee =>
      obtain ⟨root, suffixes, steps, hbegins⟩ :=
        hpart _ _ (hbelow _ hd trivial _ List.mem_cons_self) hpointee
      rw [String.toList_append]
      exact ⟨root, _, _, h.suffix_pointer hd hbegins⟩
    | pointerInto hd _ hpointee =>
      obtain ⟨root, suffixes, steps, hbegins⟩ :=
        hpart _ _ (hbelow _ hd trivial _ List.mem_cons_self) hpointee
      have hsuffix := h.suffix_pointerInto hd hbegins
      simp only [String.toList_append, List.append_assoc] at hsuffix ⊢
      exact ⟨root, _, _, hsuffix⟩
    | @function _ result params variadic _ texts hd hresult hparams =>
      obtain ⟨root, suffixes, steps, hbegins⟩ :=
        hpart _ _ (hbelow _ hd trivial _ List.mem_cons_self) hresult
      have hread (param : Ty) (hparam : param ∈ params) : ReadBy a inner param :=
        hparts param (hbelow _ hd trivial param (List.mem_cons_of_mem _ hparam))
      have hsuffix := h.suffix_function hd hinner hread hparams hbegins
      simp only [String.toList_append, List.append_assoc] at hsuffix ⊢
      exact ⟨root, _, _, hsuffix⟩

end Legible

theorem rejects_readWithin (a : TypeArena) (depth : Nat) : Rejects (a.readWithin depth) := by
  intro c hc rest
  cases depth with
  | zero => rfl
  | succ depth =>
    simp only [List.mem_cons, List.not_mem_nil, or_false] at hc
    rcases hc with rfl | rfl <;> rfl

/-- A type is read from its text, looking no deeper than its handle is large. -/
theorem Legible.readBy (h : a.Legible) {depth : Nat} (hlt : t.index < depth) :
    ReadBy a (a.readWithin depth) t := by
  induction depth generalizing t with
  | zero => exact absurd hlt (Nat.not_lt_zero _)
  | succ depth ih =>
    intro text rest hspells hrest
    obtain ⟨root, suffixes, steps, hbegins⟩ := h.begins (a.rejects_readWithin depth) hspells
      fun u hu => ih (by omega)
    have henough := hbegins.enough
    obtain ⟨fuel, hfuel⟩ : ∃ fuel, (suffixes ++ rest).length = fuel + steps :=
      ⟨(suffixes ++ rest).length - steps, by rw [List.length_append]; omega⟩
    rw [readWithin, hbegins.first rest hrest.follows]
    simp only [Option.bind_eq_bind, Option.bind_some]
    rw [hfuel, hbegins.further rest fuel hrest.follows, readSuffixes_of_closes hrest]

/-- **A type is read back from its text.** -/
theorem Legible.read_text (h : a.Legible) (ht : a.Has t) : a.read (a.text t) = some t := by
  have hread := h.readBy ht (a.text t) [] (h.founded.spells_text ht) (by simp [Closes])
  rw [List.append_nil] at hread
  rw [read, hread]
  rfl

/-- Two types with one text are one type. -/
theorem Legible.text_injective (h : a.Legible) (hs : a.Has s) (ht : a.Has t)
    (htext : a.text s = a.text t) : s = t := by
  have hread := h.read_text hs
  rw [htext, h.read_text ht] at hread
  exact (Option.some.inj hread).symm

end TypeArena

end ShaderLowering
