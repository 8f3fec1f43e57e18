import ShaderLowering.CommandLine
import ShaderLowering.Proofs.Lowering.Internal
import ShaderLowering.Proofs.Lowering.Listing
import ShaderLowering.Proofs.Operand.LiteralValues
import ShaderLowering.Proofs.Stream.LiteralStrings
import ShaderLowering.Proofs.Stream.Refusal

/-!
# What a run comes to

A run of the program ends in one of three ways, and which of them is decided by whether the
binary holds a shader and by whether the shader is lowered
(`ShaderLowering.Invocation.run_outcome`). Only then is there anything on standard output: the
text of the unit, and the listing of the interface if it is wanted. What these look like is
said by `ShaderLowering.CodeUnit.WrittenAs` and `ShaderLowering.LoweredModule.Lists`.

There is no fourth way, because no index leads out of what it is an index of. Instructions
lie within the words, and literals and strings within the operands
(`ShaderLowering.ShaderModule.Inside`); as far as the instructions are read, the function that
is being read is there, and every handle is that of a type
(`ShaderLowering.Declarations.Inside`); and what is written of a lowered shader is spelled
without looking for anything that is not there (`ShaderLowering.LoweredModule.Inside`).
-/

namespace ShaderLowering

/-! ### Indices into the stream -/

namespace Instruction

variable {i : Instruction} {index : Nat}

/-- A string among the operands ends among them. -/
theorem lt_of_literalString {text : String} {next : Nat}
    (h : i.literalString index = .ok (text, next)) : index < next ∧ next ≤ i.operands.length := by
  rw [literalString] at h
  split at h
  · rename_i text' length hdecode
    obtain ⟨-, rfl⟩ := Prod.mk.inj (Except.ok.inj h)
    obtain ⟨hpos, hle⟩ := LiteralString.length_of_decode hdecode
    rw [operandsFrom, List.length_drop] at hle
    omega
  · exact absurd h (by simp)

/-- A literal number is read from operands that are there. -/
theorem exists_of_literalNumber {widthOf : LiteralWidth → Except Diagnostic Nat} {value : Nat}
    (h : i.literalNumber index widthOf = .ok value) :
    ∃ count, 0 < count ∧ index + count ≤ i.operands.length ∧
      value = valueOfWords ((i.operandsFrom index).take count) := by
  obtain ⟨width, hwidth⟩ := exists_isWide h
  rw [literalNumber_of_isWide hwidth] at h
  obtain ⟨-, hroom, hvalue⟩ := literalOfWidth_eq_ok_iff.mp h
  exact ⟨literalWordCount width, literalWordCount_pos width, hroom, hvalue⟩

end Instruction

/-- Each of the instructions that tile some words stands where it says. -/
theorem Tiles.exists_split {start stop : Nat} {is : List Instruction} {i : Instruction}
    (h : Tiles start is stop) (hi : i ∈ is) :
    ∃ before after, is.flatMap Instruction.encode = before ++ i.encode ++ after ∧
      i.start = start + before.length ∧ i.stop = i.start + i.encode.length := by
  induction is generalizing start with
  | nil => exact absurd hi List.not_mem_nil
  | cons j is ih =>
    obtain ⟨hstart, hstop, hrest⟩ := h
    rw [List.flatMap_cons]
    rcases List.mem_cons.mp hi with rfl | hi
    · exact ⟨[], is.flatMap Instruction.encode, rfl, hstart, hstop⟩
    · obtain ⟨before, after, heq, hbefore, hlength⟩ := ih hrest hi
      refine ⟨j.encode ++ before, after, ?_, ?_, hlength⟩
      · simp only [heq, List.append_assoc]
      · have hj : j.encode.length = j.operands.length + 1 := rfl
        rw [List.length_append, hj]
        omega

/-- **The shader lies inside the words**: so does each instruction, at its place, and inside
its operands whatever is read from there. -/
structure ShaderModule.Inside (shader : ShaderModule) (words : List Word) : Prop where
  header : Header.wordCount ≤ words.length
  instructions : ∀ i ∈ shader.instructions, ∃ before after,
    upright words = before ++ i.encode ++ after ∧ Header.wordCount ≤ before.length ∧
      i.start = before.length ∧ i.stop = before.length + i.encode.length ∧ i.stop ≤ words.length
  literals : ∀ i ∈ shader.instructions, ∀ index widthOf value,
    i.literalNumber index widthOf = .ok value → ∃ count, 0 < count ∧
      index + count ≤ i.operands.length ∧
      value = valueOfWords ((i.operandsFrom index).take count)
  strings : ∀ i ∈ shader.instructions, ∀ index text next,
    i.literalString index = .ok (text, next) → index < next ∧ next ≤ i.operands.length

theorem ShaderModule.inside_of_read {words : List Word} {shader : ShaderModule}
    (h : read words = .ok shader) : shader.Inside words where
  header := by
    obtain ⟨hheader, -⟩ := read_eq_ok.mp h
    exact length_upright words ▸ (Header.exists_read.mp ⟨_, hheader⟩).room
  instructions i hi := by
    obtain ⟨hheader, -⟩ := read_eq_ok.mp h
    have hroom := (Header.exists_read.mp ⟨_, hheader⟩).room
    obtain ⟨htiles, hwords, -⟩ := tiles_of_read h
    obtain ⟨before, after, heq, hstart, hstop⟩ := htiles.exists_split hi
    have hlength : ((upright words).take Header.wordCount ++ before).length = i.start := by
      rw [List.length_append, List.length_take, Nat.min_eq_left hroom, hstart]
    refine ⟨(upright words).take Header.wordCount ++ before, after, ?_, by omega, hlength.symm,
      by omega, (bounds_of_read h i hi).2⟩
    rw [List.append_assoc, List.append_assoc, ← List.append_assoc before, ← heq, hwords,
      List.take_append_drop]
  literals _ _ _ _ _ := Instruction.exists_of_literalNumber
  strings _ _ _ _ _ := Instruction.lt_of_literalString

/-! ### Handles on the way -/

/-- **No handle leads out of the arena** as far as the instructions were read and whatever
types are asked for then: in every workspace that comes up, the types of the nodes are types
of the arena, and so is whatever is seen by looking through them; the same is true of what is
answered. And the function that is being read is there. -/
structure Declarations.Inside (d : Declarations) : Prop where
  functions : ∀ f, d.openFunction = some f → d.allFunctions[d.functions.length]? = some f
  handles : ∀ w, d.workspace.Becomes Action.Asking w → ∀ r r' w₁, Asks r w r' w₁ →
    w₁.Whole ∧ ∀ result w', Produced r' w₁ result w' →
      w'.Whole ∧ ∀ t, result = .ok t → w'.arena.Whole t

theorem Declarations.inside_ofInstructions {arena : TypeArena} {d : Declarations}
    {instructions : List Instruction} (hu : arena.Uniqued)
    (h : ofInstructions arena instructions = .ok d) : d.Inside where
  functions _ hf := ((walks_ofInstructions h).openFunction_eq hf).2
  handles w hw r r' w₁ hasks := by
    have hintact := (secure_ofInstructions hu h).intact (sound_ofInstructions h) hu hw
    have hw₁ := hasks.intact hintact
    refine ⟨hw₁.whole, fun result w' hproduced => ⟨(hproduced.intact hw₁).whole, ?_⟩⟩
    rintro t rfl
    exact hproduced.whole hw₁

/-! ### What is written -/

/-- The type of a node is one of those that it holds. -/
theorem Shape.mem_types_of_handle? {shape : Shape} {t : Ty} (h : shape.handle? = some t) :
    t ∈ shape.types := by
  cases shape with
  | simple type =>
    obtain rfl := Option.some.inj h
    exact List.mem_singleton_self _
  | formed former made => exact Option.mem_toList.mpr h
  | struct type layout =>
    obtain rfl := Option.some.inj h
    exact List.mem_singleton_self _

namespace LoweredModule

/-- **No handle or index in the module leads out of it**: whatever is seen by looking through
a type of the arena is in the arena, and the text of the type is spelled out; the globals, the
functions and the structs are of such types; and the entry points refer to functions that are
there and to members that the interface struct has. -/
structure Inside (m : LoweredModule) : Prop where
  types : ∀ t, m.arena.Has t → m.arena.Whole t ∧ m.arena.Spells t (m.arena.text t)
  unit : m.unit.Has m.arena
  nodes : ∀ n t, m.workspace.handle? n = some t → m.arena.Has t
  wrappers : ∀ e ∈ m.entryPoints, e.wrapper < m.unit.functions.length
  members : ∀ e ∈ m.entryPoints, ∀ k ∈ e.interfaceMembers, ∃ n type body,
    m.interfaceStruct = some n ∧ m.workspace.structType? n = some type ∧
      m.arena.body? type = some body ∧ k < body.length

end LoweredModule

namespace LoweredModule

variable {shader : ShaderModule} {name : String} {m : LoweredModule}

theorem inside_of_lower (h : lower {} shader name = .ok m) : m.Inside := by
  obtain ⟨d, w, hd, hwalks, he⟩ := Declarations.exists_of_lower TypeArena.uniqued_empty h
  have hsound := Declarations.sound_ofInstructions hd
  obtain ⟨ρ, hw, hm⟩ := renamed_of_lower h
  have hfounded : m.arena.Founded := hw.arena.founded
  refine
    { types := fun t ht => ⟨TypeArena.whole_of_closed (S := m.arena.Has) (fun _ h => h) ?_ ht,
        hfounded.spells_text ht⟩
      unit := hm.there
      nodes := ?_
      wrappers := ?_
      members := ?_ }
  · rintro t u - ⟨data, hdata, hu⟩
    exact hfounded.there t data hdata u hu
  · intro n t ht
    obtain ⟨shape, hs, hhandle⟩ := Option.bind_eq_some_iff.mp ht
    obtain ⟨node, hn, rfl⟩ := Option.map_eq_some_iff.mp hs
    exact hw.there n node hn t (Shape.mem_types_of_handle? hhandle)
  · intro e hmem
    obtain ⟨k, hk⟩ := List.mem_iff_getElem?.mp hmem
    obtain ⟨f, hf, -⟩ := he.takesInterface hk
    rw [he.wrapper k e hk]
    exact (List.getElem?_eq_some_iff.mp hf).1
  · intro e hmem k hk
    obtain ⟨p, -, hp⟩ := exists_of_forall₂_right he.entryPoints hmem
    rw [hp.members] at hk
    obtain ⟨id, -, hid⟩ := List.mem_filterMap.mp hk
    obtain ⟨f, hf, -⟩ := Option.bind_eq_some_iff.mp hid
    have hlt := ((d.memberOf?_interface id).1 k hid).lt
    obtain ⟨t, layout, body, hs, hbody, hvars, -, htypes⟩ :=
      he.laysOut hsound TypeArena.uniqued_empty hwalks hf
    have hlength := congrArg List.length hwalks.map_operands
    rw [List.length_map, List.length_map, hvars.length_eq, htypes.length_eq] at hlength
    refine ⟨f.node, t, body, ?_, Workspace.structType?_eq_some_iff.mpr ⟨layout, hs⟩, hbody,
      hlength ▸ hlt⟩
    rw [he.interfaceStruct, hf]
    rfl

end LoweredModule

/-! ### Outcomes -/

/-- The words that a diagnostic points at are written behind its message. -/
theorem Diagnostic.append_text (d : Diagnostic) :
    "conversion failed: " ++ d.text = "conversion failed: " ++ d.cause.message ++ " (words " ++
      toString d.start ++ ".." ++ toString d.stop ++ ")" := by
  delta Diagnostic.text
  simp only [String.append_assoc]
  rfl

namespace Invocation

variable {v : Invocation} {binary : List UInt8} {shader : ShaderModule}

/-- There is a shader in the binary unless it cannot be split into words, or the words are no
module. -/
theorem decoded_eq_error_iff :
    (∃ d, wordsOfBinary binary >>= ShaderModule.read = .error d) ↔
      (∃ d, wordsOfBinary binary = .error d) ∨
        ∃ words d, wordsOfBinary binary = .ok words ∧ ShaderModule.read words = .error d := by
  cases hwords : wordsOfBinary binary with
  | error d => exact iff_of_true ⟨d, rfl⟩ (Or.inl ⟨d, rfl⟩)
  | ok words =>
    constructor
    · rintro ⟨d, hd⟩
      exact Or.inr ⟨words, d, rfl, hd⟩
    · rintro (⟨d, hd⟩ | ⟨words', d, hok, hd⟩)
      · exact nomatch hd
      · obtain rfl := Except.ok.inj hok
        exact ⟨d, hd⟩

/-- A binary that holds no shader ends the run. -/
theorem run_of_undecoded {d : Diagnostic}
    (h : wordsOfBinary binary >>= ShaderModule.read = .error d) :
    v.run binary = { exitCode := 101 } := by
  rw [run, h]

/-- A shader that cannot be lowered is reported. -/
theorem run_of_refused {d : Diagnostic}
    (h : wordsOfBinary binary >>= ShaderModule.read = .ok shader)
    (hlower : lower {} shader v.moduleName = .error d) :
    v.run binary = { exitCode := 1, report := some ("conversion failed: " ++ d.text) } := by
  rw [run, h]
  dsimp only
  rw [hlower]

/-- A shader that is lowered is written. -/
theorem run_of_lowered {m : LoweredModule}
    (h : wordsOfBinary binary >>= ShaderModule.read = .ok shader)
    (hlower : lower {} shader v.moduleName = .ok m) :
    v.run binary =
      { exitCode := 0, output := m.text ++ if v.printInterface then m.interfaceText else "" } := by
  rw [run, h]
  dsimp only
  rw [hlower]

/-- **What a run comes to**, for whatever binary, name and options. The exit code is 101, with
nothing on standard output, if the binary cannot be split into words or the words are no module;
it is 1, with the report and nothing on standard output, if there is a module that cannot be
lowered; and otherwise it is 0, with the text of the unit on standard output and after it, if it
is wanted, the lines of the interface. No index that is used on the way is out of range. -/
theorem run_outcome (v : Invocation) (binary : List UInt8) :
    ((v.run binary).exitCode = 101 ↔ (∃ d, wordsOfBinary binary = .error d) ∨
      ∃ words d, wordsOfBinary binary = .ok words ∧ ShaderModule.read words = .error d) ∧
    ((v.run binary).exitCode = 101 → (v.run binary).output = "") ∧
    ((v.run binary).exitCode = 1 ↔ ∃ shader d,
      wordsOfBinary binary >>= ShaderModule.read = .ok shader ∧
        lower {} shader v.moduleName = .error d) ∧
    ((v.run binary).exitCode = 0 ↔ ∃ shader m,
      wordsOfBinary binary >>= ShaderModule.read = .ok shader ∧
        lower {} shader v.moduleName = .ok m) ∧
    ∀ shader, wordsOfBinary binary >>= ShaderModule.read = .ok shader →
      (∀ words, wordsOfBinary binary = .ok words → shader.Inside words) ∧
      (∀ before d, before <+: shader.instructions →
        Declarations.ofInstructions {} before = .ok d → d.Inside) ∧
      (∀ d, lower {} shader v.moduleName = .error d → (v.run binary).output = "" ∧
        (v.run binary).report = some ("conversion failed: " ++ d.cause.message ++ " (words " ++
          toString d.start ++ ".." ++ toString d.stop ++ ")")) ∧
      ∀ m, lower {} shader v.moduleName = .ok m → m.Inside ∧
        ∃ text lines, m.unit.WrittenAs m.arena text ∧ m.Lists lines ∧
          (v.run binary).output =
            text ++ if v.printInterface then String.join (lines.map (· ++ "\n")) else "" := by
  rw [← decoded_eq_error_iff]
  have hinside (shader : ShaderModule)
      (h : wordsOfBinary binary >>= ShaderModule.read = .ok shader) :
      (∀ words, wordsOfBinary binary = .ok words → shader.Inside words) ∧
        ∀ before d, before <+: shader.instructions →
          Declarations.ofInstructions {} before = .ok d → d.Inside := by
    refine ⟨fun words hwords => ?_, fun _ _ _ hd =>
      Declarations.inside_ofInstructions TypeArena.uniqued_empty hd⟩
    rw [hwords] at h
    exact ShaderModule.inside_of_read h
  refine ⟨?_, ?_, ?_, ?_, fun shader h => ⟨(hinside shader h).1, (hinside shader h).2,
    fun d hd => ?_, fun m hm => ⟨LoweredModule.inside_of_lower hm, m.text, _,
      LoweredModule.writtenAs_text hm, LoweredModule.lists_of_lower hm, ?_⟩⟩⟩
  case refine_5 =>
    rw [run_of_refused h hd]
    exact ⟨rfl, congrArg some d.append_text⟩
  case refine_6 =>
    rw [run_of_lowered h hm]
    rfl
  all_goals
    cases hdecoded : wordsOfBinary binary >>= ShaderModule.read with
    | error d => simp [run_of_undecoded hdecoded]
    | ok shader =>
      cases hlower : lower {} shader v.moduleName with
      | error d => simp [run_of_refused hdecoded hlower, hlower]
      | ok m => simp [run_of_lowered hdecoded hlower, hlower]

/-- A shader with a decorated input, an output and a global of one struct type, and a function
that has a parameter with a name. -/
theorem run_outcome_listing :
    let words : List Word :=
      [0x7230203, 0x10000, 0, 22, 0, 0x6000f, 0, 9, 98, 20, 21, 0x60010, 9, 17, 8, 4, 1, 0x30005,
        6, 97, 0x30005, 11, 83, 0x30005, 12, 120, 0x40047, 20, 30, 2, 0x20013, 1, 0x30016, 2, 32,
        0x3001e, 11, 2, 0x40020, 3, 1, 2, 0x40020, 4, 3, 11, 0x40020, 13, 6, 11, 0x4003b, 3, 20,
        1, 0x4003b, 4, 21, 3, 0x4003b, 13, 6, 6, 0x40021, 10, 1, 2, 0x50036, 1, 9, 0, 10, 0x30037,
        2, 12, 0x10038]
    let binary := binaryOfWords .littleEndian words
    let text := "; module 'shader'\n%S = type \x7b float \x7d\n" ++
      "%io_struct = type \x7b float, %S \x7d\n@a = internal global %S\n" ++
      "declare void @b(%io_struct* %io_struct)\n" ++
      "declare internal void @function_9(float %x)\n"
    let listing := "\n; io struct %io_struct\n;   0: float [DecorationWithParameters " ++
      "\x7b decoration: Location, parameters: [2] \x7d]\n;   1: %S []\n" ++
      "; entry point 'b' (Vertex) interface members [0, 1] local size Some([8, 4, 1])\n"
    (run { path := "shader.spv" } binary).output = text ∧
      (run { path := "shader.spv", printInterface := true } binary).output = text ++ listing ∧
      ∃ shader m, wordsOfBinary binary >>= ShaderModule.read = .ok shader ∧
        lower {} shader "shader" = .ok m ∧ m.Inside ∧ m.unit.WrittenAs m.arena text := by
  intro words binary text listing
  have hrun : run { path := "shader.spv" } binary = { exitCode := 0, output := text } := by
    decide +kernel
  obtain ⟨-, -, -, hlowered, hwritten⟩ := run_outcome { path := "shader.spv" } binary
  obtain ⟨shader, m, hread, hm⟩ := hlowered.mp (congrArg Outcome.exitCode hrun)
  obtain ⟨hinside, text', lines, htext, -, houtput⟩ := (hwritten shader hread).2.2.2 m hm
  obtain rfl : text = text' := by
    rw [hrun] at houtput
    exact houtput.trans (String.append_empty)
  exact ⟨congrArg Outcome.output hrun, by decide +kernel, shader, m, hread, hm, hinside, htext⟩

end Invocation

end ShaderLowering
