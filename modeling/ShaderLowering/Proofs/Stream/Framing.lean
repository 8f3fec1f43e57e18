import ShaderLowering.Stream.ShaderModule

/-!
# How a stream is framed

Every instruction announces its own length, and that is all the framing a stream
has: nothing separates one instruction from the next, and nothing closes the last
one. So a stream is readable exactly when the lengths that are announced add up to
what is there, and this file says so in both directions.

What a reader gets is a *tiling*: instructions that stand one after the other, from
the place where the first begins to the place where the stream ends, with no word
between them and none left over (`ShaderLowering.Tiles`). Writing them one after
the other gives the stream back, which is therefore cut up in one way only. A
writer that keeps to the length field's range is read back word for word, whichever
end of a word it writes first.

The statement with all of this in it is `ShaderLowering.ShaderModule.read_framed`.
The rest of the file is one lemma for each of the three things that are read: a
word, an instruction and a header.
-/

namespace ShaderLowering

/-! ### Words from either end -/

namespace Word

theorem toNat_ofBytes (a b c d : UInt8) :
    (ofBytes a b c d).toNat = a.toNat + 256 * b.toNat + 65536 * c.toNat + 16777216 * d.toNat := by
  have ha := a.toNat_lt
  have hb := b.toNat_lt
  have hc := c.toNat_lt
  have hd := d.toNat_lt
  rw [ofBytes, UInt32.toNat_ofNat_of_lt']
  show _ < 4294967296
  omega

theorem toNat_byteAt (w : Word) (unit : Nat) :
    (byteAt w unit).toNat = w.toNat / unit % 256 := by
  rw [byteAt, UInt8.toNat_ofNat_of_lt']
  exact Nat.mod_lt _ (by decide)

/-- A word is put together from its bytes. -/
theorem ofBytes_byteAt (w : Word) :
    ofBytes (byteAt w 1) (byteAt w 256) (byteAt w 65536) (byteAt w 16777216) = w := by
  have hw : w.toNat < 4294967296 := w.toNat_lt
  apply UInt32.toNat_inj.mp
  simp only [toNat_ofBytes, toNat_byteAt]
  omega

/-- The bytes of a word are those that it is put together from. -/
theorem bytes_ofBytes (a b c d : UInt8) : bytes (ofBytes a b c d) = [a, b, c, d] := by
  have ha := a.toNat_lt
  have hb := b.toNat_lt
  have hc := c.toNat_lt
  have hd := d.toNat_lt
  have hplace : ∀ (unit : Nat) (byte : UInt8),
      (a.toNat + 256 * b.toNat + 65536 * c.toNat + 16777216 * d.toNat) / unit % 256 = byte.toNat →
        byteAt (ofBytes a b c d) unit = byte := by
    intro unit byte h
    apply UInt8.toNat_inj.mp
    rw [toNat_byteAt, toNat_ofBytes, h]
  rw [bytes, hplace 1 a (by omega), hplace 256 b (by omega), hplace 65536 c (by omega),
    hplace 16777216 d (by omega)]

/-- Reading a word from the other end twice gives the word. -/
@[simp]
theorem swapped_swapped (w : Word) : w.swapped.swapped = w := by
  obtain ⟨h₁, h₂, h₃, h₄⟩ : _ ∧ _ ∧ _ ∧ _ := by
    simpa only [bytes, List.cons.injEq, and_true] using bytes_ofBytes (byteAt w 16777216)
      (byteAt w 65536) (byteAt w 256) (byteAt w 1)
  rw [swapped, swapped, h₁, h₂, h₃, h₄, ofBytes_byteAt]

end Word

/-! ### One instruction -/

/-- The number and the operands of an instruction, without its place. -/
def Instruction.content (i : Instruction) : UInt16 × List Word :=
  (i.opcode, i.operands)

namespace Instruction

/-- The words that say a number and its operands. -/
def frame (content : UInt16 × List Word) : List Word :=
  UInt32.ofNat ((content.2.length + 1) * 65536 + content.1.toNat) :: content.2

/-- The content fits the length field. -/
def Fits (content : UInt16 × List Word) : Prop :=
  content.2.length ≤ 65534

instance (content : UInt16 × List Word) : Decidable (Fits content) :=
  inferInstanceAs (Decidable (_ ≤ _))

private theorem toNat_head {content : UInt16 × List Word} (h : Fits content) :
    (UInt32.ofNat ((content.2.length + 1) * 65536 + content.1.toNat)).toNat =
      (content.2.length + 1) * 65536 + content.1.toNat := by
  have hopcode := content.1.toNat_lt
  rw [Fits] at h
  apply UInt32.toNat_ofNat_of_lt'
  show _ < 4294967296
  omega

/-- What is read at the front of words is written there, and stands where it was
read. -/
theorem of_read {start : Nat} {first : Word} {rest : List Word} {i : Instruction}
    (h : read start first rest = .ok i) :
    Fits i.content ∧ i.start = start ∧ i.stop = start + (i.operands.length + 1) ∧
      first :: rest = i.encode ++ rest.drop i.operands.length := by
  have hfirst := first.toNat_lt
  rw [read] at h
  by_cases hzero : first.toNat / 65536 = 0
  · rw [if_pos hzero] at h
    cases h
  by_cases hroom : rest.length + 1 < first.toNat / 65536
  · rw [if_neg hzero, if_pos hroom] at h
    cases h
  rw [if_neg hzero, if_neg hroom] at h
  obtain rfl := Except.ok.inj h
  have hlength : (rest.take (first.toNat / 65536 - 1)).length = first.toNat / 65536 - 1 :=
    List.length_take_of_le (by omega)
  refine ⟨?_, rfl, ?_, ?_⟩
  · show (rest.take (first.toNat / 65536 - 1)).length ≤ 65534
    omega
  · show start + first.toNat / 65536 = start + ((rest.take (first.toNat / 65536 - 1)).length + 1)
    omega
  · -- the two halves of the first word put it together again
    have hhead : UInt32.ofNat
        ((first.toNat / 65536 - 1 + 1) * 65536 + (UInt16.ofNat (first.toNat % 65536)).toNat) =
          first := by
      rw [UInt16.toNat_ofNat_of_lt' (Nat.mod_lt _ (by decide)), Nat.sub_add_cancel (by omega),
        Nat.div_add_mod']
      exact UInt32.ofNat_toNat
    show first :: rest = UInt32.ofNat (((rest.take (first.toNat / 65536 - 1)).length + 1) * 65536 +
        (UInt16.ofNat (first.toNat % 65536)).toNat) :: rest.take (first.toNat / 65536 - 1) ++
          rest.drop (rest.take (first.toNat / 65536 - 1)).length
    rw [hlength, hhead, List.cons_append, List.take_append_drop]

/-- What is left behind an instruction ends where the words end. -/
theorem stop_add_of_read {start : Nat} {first : Word} {rest : List Word} {i : Instruction}
    (h : read start first rest = .ok i) :
    i.stop + (rest.drop i.operands.length).length = start + (first :: rest).length := by
  obtain ⟨-, -, hstop, hwords⟩ := of_read h
  have hlength := congrArg List.length hwords
  simp only [encode, List.length_cons, List.length_append, List.cons_append] at hlength ⊢
  omega

/-- What is written at the front of words is read there. -/
theorem read_frame (start : Nat) {content : UInt16 × List Word} (h : Fits content)
    (rest : List Word) :
    read start (UInt32.ofNat ((content.2.length + 1) * 65536 + content.1.toNat))
        (content.2 ++ rest) =
      .ok ⟨content.1, content.2, start, start + (content.2.length + 1)⟩ := by
  have hopcode : content.1.toNat < 65536 := content.1.toNat_lt
  have hquot : ((content.2.length + 1) * 65536 + content.1.toNat) / 65536 =
      content.2.length + 1 := by omega
  have hrem : ((content.2.length + 1) * 65536 + content.1.toNat) % 65536 =
      content.1.toNat := by omega
  rw [read, toNat_head h, hquot, hrem, if_neg (Nat.succ_ne_zero _), if_neg (by simp),
    Nat.add_sub_cancel, List.take_left, UInt16.ofNat_toNat]

end Instruction

/-! ### Tilings -/

/-- The instructions stand one after the other from `start` to `stop`, each taking
its first word and its operands. -/
def Tiles : Nat → List Instruction → Nat → Prop
  | start, [], stop => start = stop
  | start, i :: is, stop =>
    i.start = start ∧ i.stop = i.start + (i.operands.length + 1) ∧ Tiles i.stop is stop

namespace Instruction

/-- Reading instructions is reading the first and then the others where it stops. -/
theorem readAll_cons_eq_ok {start : Nat} {first : Word} {rest : List Word}
    {is : List Instruction} :
    readAll start (first :: rest) = .ok is ↔
      ∃ i others, read start first rest = .ok i ∧
        readAll i.stop (rest.drop i.operands.length) = .ok others ∧ is = i :: others := by
  rw [readAll]
  constructor
  · intro h
    cases hi : read start first rest with
    | error e =>
      rw [hi] at h
      cases h
    | ok i =>
      cases hothers : readAll i.stop (rest.drop i.operands.length) with
      | error e =>
        simp only [hi, bind, Except.bind, hothers] at h
        cases h
      | ok others =>
        simp only [hi, bind, Except.bind, hothers] at h
        exact ⟨i, others, rfl, hothers, (Except.ok.inj h).symm⟩
  · rintro ⟨i, others, hi, hothers, rfl⟩
    simp only [hi, bind, Except.bind, hothers]
    rfl

/-- **What is read out of words tiles them**: the instructions stand without gaps
from the first word to the end of the last, and writing them gives the words back. -/
theorem of_readAll {start : Nat} {words : List Word} {is : List Instruction}
    (h : readAll start words = .ok is) :
    (∀ i ∈ is, Fits i.content) ∧ Tiles start is (start + words.length) ∧
      is.flatMap encode = words := by
  induction start, words using readAll.induct generalizing is with
  | case1 start =>
    rw [readAll] at h
    obtain rfl := Except.ok.inj h
    exact ⟨List.forall_mem_nil _, rfl, rfl⟩
  | case2 start first rest ih =>
    obtain ⟨i, others, hi, hothers, rfl⟩ := readAll_cons_eq_ok.mp h
    obtain ⟨hfits, hstart, hstop, hwords⟩ := of_read hi
    obtain ⟨hall, htiles, hflat⟩ := ih i hothers
    refine ⟨?_, ⟨hstart, hstart ▸ hstop, stop_add_of_read hi ▸ htiles⟩, ?_⟩
    · intro j hj
      rcases List.mem_cons.mp hj with rfl | hj
      · exact hfits
      · exact hall j hj
    · rw [List.flatMap_cons, hflat]
      exact hwords.symm

/-- **What is written is read back**, wherever it stands. -/
theorem exists_readAll (start : Nat) {contents : List (UInt16 × List Word)}
    (h : ∀ content ∈ contents, Fits content) :
    ∃ is, readAll start (contents.flatMap frame) = .ok is ∧ is.map content = contents := by
  induction contents generalizing start with
  | nil => exact ⟨[], readAll.eq_1 start, rfl⟩
  | cons first contents ih =>
    obtain ⟨hfirst, hothers⟩ := List.forall_mem_cons.mp h
    obtain ⟨others, hread, hcontent⟩ := ih (start + (first.2.length + 1)) hothers
    let i : Instruction := ⟨first.1, first.2, start, start + (first.2.length + 1)⟩
    refine ⟨i :: others, readAll_cons_eq_ok.mpr ⟨i, others, read_frame start hfirst _, ?_, rfl⟩, ?_⟩
    · show readAll i.stop ((first.2 ++ contents.flatMap frame).drop first.2.length) = _
      rw [List.drop_left]
      exact hread
    · rw [List.map_cons, hcontent]
      rfl

end Instruction

/-! ### Chunks -/

/-- A run of words whose first word gives their number in its upper half. -/
def IsChunk (words : List Word) : Prop :=
  ∃ first rest, words = first :: rest ∧ first.toNat / 65536 = words.length

namespace IsChunk

/-- A chunk is what some instruction is written as. -/
theorem iff_frame {words : List Word} :
    IsChunk words ↔ ∃ content, Instruction.Fits content ∧ words = Instruction.frame content := by
  constructor
  · rintro ⟨first, rest, rfl, hlength⟩
    have hfirst : first.toNat < 4294967296 := first.toNat_lt
    rw [List.length_cons] at hlength
    refine ⟨(UInt16.ofNat (first.toNat % 65536), rest), ?_, ?_⟩
    · show rest.length ≤ 65534
      omega
    · rw [Instruction.frame, UInt16.toNat_ofNat_of_lt' (Nat.mod_lt _ (by decide)), ← hlength,
        Nat.div_add_mod', UInt32.ofNat_toNat]
  · rintro ⟨content, hfits, rfl⟩
    have hopcode : content.1.toNat < 65536 := content.1.toNat_lt
    refine ⟨_, _, rfl, ?_⟩
    rw [Instruction.toNat_head hfits, Instruction.frame, List.length_cons]
    omega

/-- Chunks in a row are what some instructions are written as. -/
theorem exists_frames {chunks : List (List Word)} (h : ∀ chunk ∈ chunks, IsChunk chunk) :
    ∃ contents : List (UInt16 × List Word), (∀ content ∈ contents, Instruction.Fits content) ∧
      chunks = contents.map Instruction.frame := by
  induction chunks with
  | nil => exact ⟨[], List.forall_mem_nil _, rfl⟩
  | cons chunk chunks ih =>
    obtain ⟨hchunk, hchunks⟩ := List.forall_mem_cons.mp h
    obtain ⟨content, hfits, rfl⟩ := iff_frame.mp hchunk
    obtain ⟨contents, hall, rfl⟩ := ih hchunks
    exact ⟨content :: contents, List.forall_mem_cons.mpr ⟨hfits, hall⟩, rfl⟩

/-- Chunks that start alike and are followed by anything are the same chunk. -/
theorem eq_of_append {a b l m : List Word} (ha : IsChunk a) (hb : IsChunk b)
    (h : a ++ l = b ++ m) : a = b ∧ l = m := by
  obtain ⟨first, rest, rfl, hlength⟩ := ha
  obtain ⟨first', rest', rfl, hlength'⟩ := hb
  obtain ⟨rfl, -⟩ := List.cons.inj h
  exact List.append_inj h (hlength.symm.trans hlength')

/-- Words are cut into chunks in one way only. -/
theorem eq_of_flatten {as bs : List (List Word)} (ha : ∀ a ∈ as, IsChunk a)
    (hb : ∀ b ∈ bs, IsChunk b) (h : as.flatten = bs.flatten) : as = bs := by
  induction as generalizing bs with
  | nil =>
    cases bs with
    | nil => rfl
    | cons b bs =>
      obtain ⟨first, rest, rfl, -⟩ := hb b (List.mem_cons_self ..)
      cases h
  | cons a as ih =>
    cases bs with
    | nil =>
      obtain ⟨first, rest, rfl, -⟩ := ha a (List.mem_cons_self ..)
      cases h
    | cons b bs =>
      obtain ⟨hfirst, has⟩ := List.forall_mem_cons.mp ha
      obtain ⟨hfirst', hbs⟩ := List.forall_mem_cons.mp hb
      obtain ⟨rfl, hrest⟩ := eq_of_append hfirst hfirst' h
      rw [ih has hbs hrest]

end IsChunk

/-- Instructions that fit the length field are written as chunks. -/
theorem Instruction.isChunk_encode {is : List Instruction} (h : ∀ i ∈ is, Fits i.content) :
    ∀ chunk ∈ is.map encode, IsChunk chunk :=
  List.forall_mem_map.mpr fun i hi => IsChunk.iff_frame.mpr ⟨i.content, h i hi, rfl⟩

/-! ### Headers -/

namespace Header

/-- The words begin with a header that is accepted. -/
structure Opens (words : List Word) : Prop where
  /-- There are as many words as a header has. -/
  room : wordCount ≤ words.length
  /-- The first is the magic number. -/
  magic : words[0]? = some Word.magic
  /-- The second says a version that begins with a one. -/
  version : ∃ version, words[1]? = some version ∧ version.toNat / 65536 % 256 = 1
  /-- The fifth is zero. -/
  schema : words[4]? = some 0

/-- **The headers that are read are the ones that are accepted.** -/
theorem exists_read {words : List Word} : (∃ header, read words = .ok header) ↔ Opens words := by
  constructor
  · rintro ⟨header, h⟩
    unfold read at h
    split at h
    next magic version generator idBound schema rest =>
      by_cases hmagic : magic ≠ Word.magic
      · rw [if_pos hmagic] at h
        cases h
      by_cases hversion : version.toNat / 65536 % 256 ≠ 1
      · rw [if_neg hmagic, if_pos hversion] at h
        cases h
      by_cases hschema : schema ≠ 0
      · rw [if_neg hmagic, if_neg hversion, if_pos hschema] at h
        cases h
      refine ⟨?_, congrArg some (Decidable.not_not.mp hmagic),
        ⟨version, rfl, Decidable.not_not.mp hversion⟩,
        congrArg some (Decidable.not_not.mp hschema)⟩
      simp only [wordCount, List.length_cons]
      omega
    next => cases h
  · intro h
    match words, h with
    | magic :: version :: generator :: idBound :: schema :: rest, h =>
      obtain ⟨-, hmagic, ⟨_, hversion, hone⟩, hschema⟩ := h
      obtain rfl := Option.some.inj hmagic
      obtain rfl := Option.some.inj hversion
      obtain rfl := Option.some.inj hschema
      refine ⟨⟨1, version.toNat / 256 % 256, generator, idBound⟩, ?_⟩
      simp only [read, ne_eq, not_true_eq_false, if_false, hone]

/-- What follows a header does not matter to it. -/
theorem Opens.append {words : List Word} (h : Opens words) (rest : List Word) :
    Opens (words ++ rest) := by
  obtain ⟨hroom, hmagic, ⟨version, hversion, hone⟩, hschema⟩ := h
  rw [wordCount] at hroom
  refine ⟨?_, ?_, ⟨version, ?_, hone⟩, ?_⟩
  · rw [List.length_append, wordCount]
    omega
  all_goals
    rw [List.getElem?_append_left (by omega)]
    assumption

end Header

/-! ### Modules -/

namespace ShaderModule

/-- A module is read when its header and its instructions are. -/
theorem read_eq_ok {words : List Word} {m : ShaderModule} :
    read words = .ok m ↔ Header.read (upright words) = .ok m.header ∧
      Instruction.readAll Header.wordCount ((upright words).drop Header.wordCount) =
        .ok m.instructions := by
  rw [read]
  constructor
  · intro h
    cases hheader : Header.read (upright words) with
    | error e =>
      simp only [hheader, bind, Except.bind] at h
      cases h
    | ok header =>
      cases his : Instruction.readAll Header.wordCount
          ((upright words).drop Header.wordCount) with
      | error e =>
        simp only [hheader, his, bind, Except.bind] at h
        cases h
      | ok is =>
        simp only [hheader, his, bind, Except.bind] at h
        obtain rfl := Except.ok.inj h
        exact ⟨rfl, rfl⟩
  · rintro ⟨hheader, his⟩
    simp only [hheader, his, bind, Except.bind]
    rfl

/-- Words that begin with the magic number are the right way up. -/
theorem upright_of_magic {words : List Word} (h : words[0]? = some Word.magic) :
    upright words = words := by
  rw [upright, if_neg]
  rw [List.head?_eq_getElem?, h]
  decide

/-- Words written from the other end are turned around. -/
theorem upright_map_swapped {words : List Word} (h : words[0]? = some Word.magic) :
    upright (words.map Word.swapped) = words := by
  rw [upright, if_pos, List.map_map]
  · exact (List.map_congr_left fun w _ => Word.swapped_swapped w).trans (List.map_id _)
  · rw [List.head?_eq_getElem?, List.getElem?_map, h]
    rfl

/-- The words are a header that is accepted and then the given chunks. -/
structure Framed (words : List Word) (chunks : List (List Word)) : Prop where
  /-- The words begin with such a header. -/
  opens : Header.Opens words
  /-- The chunks announce their own lengths. -/
  announced : ∀ chunk ∈ chunks, IsChunk chunk
  /-- Nothing but the chunks follows the header. -/
  cut : words.drop Header.wordCount = chunks.flatten

/-- The words are accepted exactly when they are framed. -/
theorem exists_read {words : List Word} :
    (∃ m, read words = .ok m) ↔ ∃ chunks, Framed (upright words) chunks := by
  constructor
  · rintro ⟨m, h⟩
    obtain ⟨hheader, his⟩ := read_eq_ok.mp h
    obtain ⟨hfits, -, hwords⟩ := Instruction.of_readAll his
    refine ⟨m.instructions.map Instruction.encode, Header.exists_read.mp ⟨_, hheader⟩,
      Instruction.isChunk_encode hfits, ?_⟩
    rw [← List.flatMap_def, hwords]
  · rintro ⟨chunks, hopens, hchunks, hcut⟩
    obtain ⟨header, hheader⟩ := Header.exists_read.mpr hopens
    obtain ⟨contents, hfits, rfl⟩ := IsChunk.exists_frames hchunks
    obtain ⟨is, his, -⟩ := Instruction.exists_readAll Header.wordCount hfits
    refine ⟨⟨header, is⟩, read_eq_ok.mpr ⟨hheader, ?_⟩⟩
    rw [hcut, ← List.flatMap_def]
    exact his

/-- What is read stands without gaps behind the header, and its instructions are
the chunks of the words. -/
theorem tiles_of_read {words : List Word} {m : ShaderModule} (h : read words = .ok m) :
    Tiles Header.wordCount m.instructions (upright words).length ∧
      m.instructions.flatMap Instruction.encode = (upright words).drop Header.wordCount ∧
      ∀ chunks, Framed (upright words) chunks →
        chunks = m.instructions.map Instruction.encode := by
  obtain ⟨hheader, his⟩ := read_eq_ok.mp h
  obtain ⟨hfits, htiles, hwords⟩ := Instruction.of_readAll his
  have hroom := (Header.exists_read.mp ⟨_, hheader⟩).room
  refine ⟨?_, hwords, ?_⟩
  · rw [List.length_drop, Nat.add_sub_cancel' hroom] at htiles
    exact htiles
  · intro chunks hframed
    apply IsChunk.eq_of_flatten hframed.announced (Instruction.isChunk_encode hfits)
    rw [← hframed.cut, ← hwords, List.flatMap_def]

/-- Instructions that fit the length field are read back from behind a header,
whichever end of the words was written first. -/
theorem exists_read_frames {header : List Word} {contents : List (UInt16 × List Word)}
    (hopens : Header.Opens header) (hheader : header.length = Header.wordCount)
    (hfits : ∀ content ∈ contents, Instruction.Fits content) :
    ∃ m, m.instructions.map Instruction.content = contents ∧
      read (header ++ contents.flatMap Instruction.frame) = .ok m ∧
      read ((header ++ contents.flatMap Instruction.frame).map Word.swapped) = .ok m := by
  have hall := hopens.append (contents.flatMap Instruction.frame)
  obtain ⟨h, hread⟩ := Header.exists_read.mpr hall
  obtain ⟨is, his, hcontents⟩ := Instruction.exists_readAll Header.wordCount hfits
  have hmodule : ∀ words, upright words = header ++ contents.flatMap Instruction.frame →
      read words = .ok ⟨h, is⟩ := by
    intro words hwords
    refine read_eq_ok.mpr ⟨hwords ▸ hread, ?_⟩
    rw [hwords, ← hheader, List.drop_left, hheader]
    exact his
  exact ⟨⟨h, is⟩, hcontents, hmodule _ (upright_of_magic hall.magic),
    hmodule _ (upright_map_swapped hall.magic)⟩

/-- **A stream is read exactly when it is framed, and reading undoes writing.**
Words are accepted if they begin with a header that is and go on in chunks. What is
then read stands without gaps from the end of the header to the end of the words,
writing its instructions gives the words back, and there is no other way to cut the
words up. Every list of instructions that fit the length field is read back from what
it is written as, whichever end of its words was written first. -/
theorem read_framed :
    (∀ words, (∃ m, read words = .ok m) ↔ ∃ chunks, Framed (upright words) chunks) ∧
    (∀ words m, read words = .ok m →
      Tiles Header.wordCount m.instructions (upright words).length ∧
      m.instructions.flatMap Instruction.encode = (upright words).drop Header.wordCount ∧
      ∀ chunks, Framed (upright words) chunks →
        chunks = m.instructions.map Instruction.encode) ∧
    ∀ (header : List Word) (contents : List (UInt16 × List Word)),
      Header.Opens header → header.length = Header.wordCount →
        (∀ content ∈ contents, Instruction.Fits content) →
          ∃ m, m.instructions.map Instruction.content = contents ∧
            read (header ++ contents.flatMap Instruction.frame) = .ok m ∧
            read ((header ++ contents.flatMap Instruction.frame).map Word.swapped) = .ok m :=
  ⟨fun _ => exists_read, fun _ _ => tiles_of_read, fun _ _ => exists_read_frames⟩

/-- Two instructions, one of which is a single word, come back from both orders. -/
theorem read_framed_pair :
    ∃ m, m.instructions.map Instruction.content = [(17, [1]), (253, [])] ∧
      read [0x07230203, 0x00010300, 0, 4, 0, 0x00020011, 1, 0x000100FD] = .ok m ∧
      read [0x03022307, 0x00030100, 0, 0x04000000, 0, 0x11000200, 0x01000000, 0xFD000100] =
        .ok m :=
  read_framed.2.2 [0x07230203, 0x00010300, 0, 4, 0] [(17, [1]), (253, [])]
    ⟨by decide, rfl, ⟨0x00010300, rfl, by decide⟩, rfl⟩ rfl (by decide)

end ShaderModule

end ShaderLowering
