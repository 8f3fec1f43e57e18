import ShaderLowering.Utf8

/-!
# Encoding and decoding characters

The encoder works on code points and the decoder on bytes, so the two of them do not
have a case in common: one asks how large a number is, the other what a first byte
promises. What they share is written down here as a relation, `Utf8.Codes`: these are
the bytes of that character. It has one constructor for each promise of a first byte,
so the decoder follows it from left to right (`Utf8.Codes.decodeFrom_append`,
`Utf8.exists_codes`), and the encoder gives the one sequence of bytes that is related
to a character (`Utf8.codes_encodeChar`, `Utf8.Codes.encodeChar_eq`).

Two things come of it. Decoding is the inverse of encoding, and accepts nothing that
the encoder does not write (`Utf8.decode_eq_ok_iff`). And the encoder writes what the
standard library keeps a string as (`Utf8.toByteArray_encode`), which makes the
library's notion of valid UTF-8 the one that the decoder decides
(`Utf8.exists_decode_iff`).
-/

namespace ShaderLowering

namespace Utf8

variable {a b : UInt8} {bytes rest : List UInt8} {ch : Char} {index : Nat}

/-! ### What the encoder writes -/

/-- The encoding of a character is the one that the standard library has for it. -/
theorem encodeChar_eq_utf8EncodeChar (c : Char) : encodeChar c = String.utf8EncodeChar c := by
  have hn : c.val.toNat = c.toNat := rfl
  have hvalid : c.toNat.isValidChar := c.valid
  rw [encodeChar, String.utf8EncodeChar, hn]
  generalize c.toNat = n at hvalid ⊢
  rw [Nat.isValidChar] at hvalid
  by_cases h₁ : n < 0x80
  · rw [if_pos h₁, if_pos (by omega)]
  by_cases h₂ : n < 0x800
  · rw [if_neg h₁, if_pos h₂, if_neg (by omega), if_pos (by omega)]
    simp only [continuation, Nat.div_one, Nat.add_comm 0x80]
    rw [Nat.mod_eq_of_lt (a := n / 64) (by omega), Nat.add_comm]
  by_cases h₃ : n < 0x10000
  · rw [if_neg h₁, if_neg h₂, if_pos h₃, if_neg (by omega), if_neg (by omega), if_pos (by omega)]
    simp only [continuation, Nat.div_one, Nat.add_comm 0x80]
    rw [Nat.mod_eq_of_lt (a := n / 4096) (by omega), Nat.add_comm]
  · rw [if_neg h₁, if_neg h₂, if_neg h₃, if_neg (by omega), if_neg (by omega), if_neg (by omega)]
    simp only [continuation, Nat.div_one, Nat.add_comm 0x80]
    rw [Nat.mod_eq_of_lt (a := n / 262144) (by omega), Nat.add_comm]

/-- The bytes of a text are those that it is kept as. -/
theorem toByteArray_encode (s : String) : (encode s).toByteArray = s.toByteArray := by
  rw [encode, funext encodeChar_eq_utf8EncodeChar]
  exact String.utf8Encode_toList

theorem length_encode (s : String) : (encode s).length = s.utf8ByteSize := by
  rw [← List.size_toByteArray, toByteArray_encode]
  rfl

theorem toNat_continuation (n unit : Nat) : (continuation n unit).toNat = 0x80 + n / unit % 64 := by
  rw [continuation, UInt8.toNat_ofNat_of_lt']
  show _ < 256
  omega

/-- Only the character number zero has a zero byte. -/
theorem zero_mem_encodeChar_iff (c : Char) : 0 ∈ encodeChar c ↔ c.toNat = 0 := by
  have hvalid : c.toNat.isValidChar := c.valid
  have hzero : ∀ m < 256, (0 : UInt8) = UInt8.ofNat m ↔ m = 0 := by
    intro m hm
    rw [← UInt8.toNat_inj, UInt8.toNat_ofNat_of_lt' hm]
    exact eq_comm
  have hcont : ∀ unit, (0 : UInt8) ≠ continuation c.toNat unit := by
    intro unit h
    have := toNat_continuation c.toNat unit
    rw [← h] at this
    exact absurd this (by change ¬ 0 = _; omega)
  rw [Nat.isValidChar] at hvalid
  rw [encodeChar]
  split
  · rw [List.mem_singleton, hzero _ (by omega)]
  split
  · simp only [List.mem_cons, List.not_mem_nil, hcont, or_false,
      hzero (0xC0 + c.toNat / 64) (by omega)]
    omega
  split
  · simp only [List.mem_cons, List.not_mem_nil, hcont, or_false,
      hzero (0xE0 + c.toNat / 4096) (by omega)]
    omega
  · simp only [List.mem_cons, List.not_mem_nil, hcont, or_false,
      hzero (0xF0 + c.toNat / 262144) (by omega)]
    omega

/-- A text without the character number zero has no zero byte. -/
theorem zero_mem_encode_iff (s : String) : 0 ∈ encode s ↔ Char.ofNat 0 ∈ s.toList := by
  have hchar : ∀ c : Char, c.toNat = 0 ↔ c = Char.ofNat 0 := fun c => by
    rw [← Char.toNat_inj]
    rfl
  simp only [encode, List.mem_flatMap, zero_mem_encodeChar_iff, hchar, exists_eq_right]

/-! ### What a first byte promises -/

theorem Lead.ofByte?_eq_single_iff : Lead.ofByte? a = some .single ↔ a.toNat < 0x80 := by
  simp only [Lead.ofByte?, UInt8.lt_iff_toNat_lt, ← UInt8.toNat_inj]
  grind

theorem Lead.ofByte?_eq_two_iff :
    Lead.ofByte? a = some .two ↔ 0xC2 ≤ a.toNat ∧ a.toNat < 0xE0 := by
  simp only [Lead.ofByte?, UInt8.lt_iff_toNat_lt, ← UInt8.toNat_inj]
  grind

theorem within_iff {low high : UInt8} :
    within low high b ↔ low.toNat ≤ b.toNat ∧ b.toNat ≤ high.toNat := by
  simp only [within, Bool.and_eq_true, decide_eq_true_eq, UInt8.le_iff_toNat_le]

theorem isContinuation_iff : isContinuation b ↔ 0x80 ≤ b.toNat ∧ b.toNat < 0xC0 := by
  rw [isContinuation, within_iff]
  show 0x80 ≤ _ ∧ _ ≤ 0xBF ↔ _
  omega

/-- The first two bytes of three: nothing that two bytes could say, no surrogate. -/
theorem Lead.three_iff :
    (∃ low high, Lead.ofByte? a = some (.three low high) ∧ within low high b) ↔
      (0xE0 ≤ a.toNat ∧ a.toNat < 0xF0) ∧ (0x80 ≤ b.toNat ∧ b.toNat < 0xC0) ∧
        (a.toNat = 0xE0 → 0xA0 ≤ b.toNat) ∧ (a.toNat = 0xED → b.toNat < 0xA0) := by
  have hlead : ∀ low high, Lead.ofByte? a = some (.three low high) ↔
      (0xE0 ≤ a.toNat ∧ a.toNat < 0xF0) ∧ low = (if a.toNat = 0xE0 then 0xA0 else 0x80) ∧
        high = (if a.toNat = 0xED then 0x9F else 0xBF) := by
    intro low high
    simp only [Lead.ofByte?, UInt8.lt_iff_toNat_lt, ← @UInt8.toNat_inj a]
    grind
  simp only [hlead, within_iff, and_assoc, exists_and_left, exists_eq_left]
  rw [apply_ite UInt8.toNat, apply_ite UInt8.toNat]
  show _ ∧ _ ∧ (if _ then 0xA0 else 0x80) ≤ _ ∧ _ ≤ (if _ then 0x9F else 0xBF) ↔ _
  grind

/-- The first two bytes of four: nothing that three bytes could say, no number that is too
large. -/
theorem Lead.four_iff :
    (∃ low high, Lead.ofByte? a = some (.four low high) ∧ within low high b) ↔
      (0xF0 ≤ a.toNat ∧ a.toNat < 0xF5) ∧ (0x80 ≤ b.toNat ∧ b.toNat < 0xC0) ∧
        (a.toNat = 0xF0 → 0x90 ≤ b.toNat) ∧ (a.toNat = 0xF4 → b.toNat < 0x90) := by
  have hlead : ∀ low high, Lead.ofByte? a = some (.four low high) ↔
      (0xF0 ≤ a.toNat ∧ a.toNat < 0xF5) ∧ low = (if a.toNat = 0xF0 then 0x90 else 0x80) ∧
        high = (if a.toNat = 0xF4 then 0x8F else 0xBF) := by
    intro low high
    simp only [Lead.ofByte?, UInt8.lt_iff_toNat_lt, ← @UInt8.toNat_inj a]
    grind
  simp only [hlead, within_iff, and_assoc, exists_and_left, exists_eq_left]
  rw [apply_ite UInt8.toNat, apply_ite UInt8.toNat]
  show _ ∧ _ ∧ (if _ then 0x90 else 0x80) ≤ _ ∧ _ ≤ (if _ then 0x8F else 0xBF) ↔ _
  grind

/-! ### The bytes of a character -/

/-- These are the bytes of that character: a first byte, what it promises, and the number
that their payload makes up. -/
inductive Codes : List UInt8 → Char → Prop
  | single {a : UInt8} (h : Lead.ofByte? a = some .single) : Codes [a] (assemble a.toNat [])
  | two {a b : UInt8} (h : Lead.ofByte? a = some .two) (hb : isContinuation b) :
      Codes [a, b] (assemble (a.toNat % 32) [b])
  | three {a b c low high : UInt8} (h : Lead.ofByte? a = some (.three low high))
      (hb : within low high b) (hc : isContinuation c) :
      Codes [a, b, c] (assemble (a.toNat % 16) [b, c])
  | four {a b c d low high : UInt8} (h : Lead.ofByte? a = some (.four low high))
      (hb : within low high b) (hc : isContinuation c) (hd : isContinuation d) :
      Codes [a, b, c, d] (assemble (a.toNat % 8) [b, c, d])

/-- The decoder reads a character where its bytes are. -/
theorem Codes.decodeFrom_append (h : Codes bytes ch) (index : Nat) :
    decodeFrom index (bytes ++ rest) =
      (decodeFrom (index + bytes.length) rest).map (ch :: ·) := by
  cases h with
  | single h =>
    rw [List.cons_append, decodeFrom.eq_def]
    simp only [h]
    rfl
  | two h hb =>
    rw [List.cons_append, decodeFrom.eq_def]
    simp only [h, hb, List.cons_append, if_true]
    rfl
  | three h hb hc =>
    rw [List.cons_append, decodeFrom.eq_def]
    simp only [h, hb, hc, List.cons_append, if_true]
    rfl
  | four h hb hc hd =>
    rw [List.cons_append, decodeFrom.eq_def]
    simp only [h, hb, hc, hd, List.cons_append, if_true]
    rfl

/-- Where the decoder goes through, the bytes of a character are in front. -/
theorem exists_codes {text : List Char} (h : decodeFrom index (a :: bytes) = .ok text) :
    ∃ front rest ch others, a :: bytes = front ++ rest ∧ text = ch :: others ∧ Codes front ch ∧
      decodeFrom (index + front.length) rest = .ok others := by
  have hmore : ∀ {result : Except Fault (List Char)} {ch : Char},
      (do return ch :: (← result) : Except Fault (List Char)) = .ok text →
        ∃ others, text = ch :: others ∧ result = .ok others := by
    rintro (_ | others) ch h
    · cases h
    · exact ⟨others, (Except.ok.inj h).symm, rfl⟩
  rw [decodeFrom.eq_def] at h
  dsimp only at h
  split at h
  · cases h
  · rename_i hlead
    obtain ⟨others, htext, hrest⟩ := hmore h
    exact ⟨[a], _, _, others, rfl, htext, .single hlead, hrest⟩
  · rename_i hlead
    split at h
    · cases h
    split at h
    · rename_i hb
      obtain ⟨others, htext, hrest⟩ := hmore h
      exact ⟨[a, _], _, _, others, rfl, htext, .two hlead hb, hrest⟩
    · cases h
  · rename_i low high hlead
    split at h
    · cases h
    split at h
    · rename_i hb
      split at h
      · cases h
      split at h
      · rename_i hc
        obtain ⟨others, htext, hrest⟩ := hmore h
        exact ⟨[a, _, _], _, _, others, rfl, htext, .three hlead hb hc, hrest⟩
      · cases h
    · cases h
  · rename_i low high hlead
    split at h
    · cases h
    split at h
    · rename_i hb
      split at h
      · cases h
      split at h
      · rename_i hc
        split at h
        · cases h
        split at h
        · rename_i hd
          obtain ⟨others, htext, hrest⟩ := hmore h
          exact ⟨[a, _, _, _], _, _, others, rfl, htext, .four hlead hb hc hd, hrest⟩
        · cases h
      · cases h
    · cases h

theorem toNat_ofNat {n : Nat} (h : n.isValidChar) : (Char.ofNat n).toNat = n := by
  rw [Char.ofNat, dif_pos h]
  rfl

theorem ofNat_eq {n : Nat} (h : n = b.toNat) : UInt8.ofNat n = b := by
  rw [h, UInt8.ofNat_toNat]

/-- The encoder gives back the bytes of a character. The ranges of the second byte are what
makes the number of the character as large as its length promises. -/
theorem Codes.encodeChar_eq (h : Codes bytes ch) : encodeChar ch = bytes := by
  cases h with
  | @single a h =>
    rw [Lead.ofByte?_eq_single_iff] at h
    have hvalid : a.toNat.isValidChar := by rw [Nat.isValidChar]; omega
    rw [assemble, List.foldl_nil, encodeChar, toNat_ofNat hvalid, if_pos h, UInt8.ofNat_toNat]
  | @two a b h hb =>
    rw [Lead.ofByte?_eq_two_iff] at h
    rw [isContinuation_iff] at hb
    obtain ⟨n, hn⟩ : ∃ n, n = 64 * (a.toNat % 32) + b.toNat % 64 := ⟨_, rfl⟩
    have hvalid : n.isValidChar := by rw [Nat.isValidChar]; omega
    simp only [assemble, List.foldl_cons, List.foldl_nil, ← hn]
    rw [encodeChar, toNat_ofNat hvalid, if_neg (by omega), if_pos (by omega),
      ofNat_eq (b := a) (by omega), continuation, ofNat_eq (b := b) (by omega)]
  | @three a b c low high h hb hc =>
    obtain ⟨ha, hb, hlow, hhigh⟩ := Lead.three_iff.mp ⟨low, high, h, hb⟩
    rw [isContinuation_iff] at hc
    obtain ⟨n, hn⟩ : ∃ n, n = 64 * (64 * (a.toNat % 16) + b.toNat % 64) + c.toNat % 64 := ⟨_, rfl⟩
    have hvalid : n.isValidChar := by rw [Nat.isValidChar]; omega
    simp only [assemble, List.foldl_cons, List.foldl_nil, ← hn]
    rw [encodeChar, toNat_ofNat hvalid, if_neg (by omega), if_neg (by omega), if_pos (by omega),
      ofNat_eq (b := a) (by omega), continuation, ofNat_eq (b := b) (by omega), continuation,
      ofNat_eq (b := c) (by omega)]
  | @four a b c d low high h hb hc hd =>
    obtain ⟨ha, hb, hlow, hhigh⟩ := Lead.four_iff.mp ⟨low, high, h, hb⟩
    rw [isContinuation_iff] at hc hd
    obtain ⟨n, hn⟩ : ∃ n, n = 64 * (64 * (64 * (a.toNat % 8) + b.toNat % 64) + c.toNat % 64) +
      d.toNat % 64 := ⟨_, rfl⟩
    have hvalid : n.isValidChar := by rw [Nat.isValidChar]; omega
    simp only [assemble, List.foldl_cons, List.foldl_nil, ← hn]
    rw [encodeChar, toNat_ofNat hvalid, if_neg (by omega), if_neg (by omega), if_neg (by omega),
      ofNat_eq (b := a) (by omega), continuation, ofNat_eq (b := b) (by omega), continuation,
      ofNat_eq (b := c) (by omega), continuation, ofNat_eq (b := d) (by omega)]

/-- The encoder writes the bytes of a character. -/
theorem codes_encodeChar (c : Char) : Codes (encodeChar c) c := by
  have hvalid : c.toNat.isValidChar := c.valid
  rw [Nat.isValidChar] at hvalid
  have hcont : ∀ unit, isContinuation (continuation c.toNat unit) := by
    intro unit
    rw [isContinuation_iff, toNat_continuation]
    omega
  rw [encodeChar]
  split
  · have ha : (UInt8.ofNat c.toNat).toNat = c.toNat :=
      UInt8.toNat_ofNat_of_lt' (by change _ < 256; omega)
    have := Codes.single (Lead.ofByte?_eq_single_iff.mpr (by rw [ha]; assumption))
    rwa [ha, assemble, List.foldl_nil, Char.ofNat_toNat] at this
  split
  · have ha : (UInt8.ofNat (0xC0 + c.toNat / 64)).toNat = 0xC0 + c.toNat / 64 :=
      UInt8.toNat_ofNat_of_lt' (by change _ < 256; omega)
    have := Codes.two (Lead.ofByte?_eq_two_iff.mpr (by rw [ha]; omega)) (hcont 1)
    simp only [ha, toNat_continuation, assemble, List.foldl_cons, List.foldl_nil] at this
    rwa [show 64 * ((0xC0 + c.toNat / 64) % 32) + (0x80 + c.toNat / 1 % 64) % 64 = c.toNat by omega,
      Char.ofNat_toNat] at this
  split
  · have ha : (UInt8.ofNat (0xE0 + c.toNat / 4096)).toNat = 0xE0 + c.toNat / 4096 :=
      UInt8.toNat_ofNat_of_lt' (by change _ < 256; omega)
    obtain ⟨low, high, hlead, hb⟩ := Lead.three_iff.mpr
      (show _ ∧ (_ ≤ (continuation c.toNat 64).toNat ∧ _) ∧ _ by
        rw [ha, toNat_continuation]; omega)
    have := Codes.three hlead hb (hcont 1)
    simp only [ha, toNat_continuation, assemble, List.foldl_cons, List.foldl_nil] at this
    rwa [show 64 * (64 * ((0xE0 + c.toNat / 4096) % 16) + (0x80 + c.toNat / 64 % 64) % 64) +
      (0x80 + c.toNat / 1 % 64) % 64 = c.toNat by omega, Char.ofNat_toNat] at this
  · have ha : (UInt8.ofNat (0xF0 + c.toNat / 262144)).toNat = 0xF0 + c.toNat / 262144 :=
      UInt8.toNat_ofNat_of_lt' (by change _ < 256; omega)
    obtain ⟨low, high, hlead, hb⟩ := Lead.four_iff.mpr
      (show _ ∧ (_ ≤ (continuation c.toNat 4096).toNat ∧ _) ∧ _ by
        rw [ha, toNat_continuation]; omega)
    have := Codes.four hlead hb (hcont 64) (hcont 1)
    simp only [ha, toNat_continuation, assemble, List.foldl_cons, List.foldl_nil] at this
    rwa [show 64 * (64 * (64 * ((0xF0 + c.toNat / 262144) % 8) +
      (0x80 + c.toNat / 4096 % 64) % 64) + (0x80 + c.toNat / 64 % 64) % 64) +
      (0x80 + c.toNat / 1 % 64) % 64 = c.toNat by omega, Char.ofNat_toNat] at this

/-! ### Whole texts -/

theorem decodeFrom_flatMap_encodeChar (text : List Char) (index : Nat) :
    decodeFrom index (text.flatMap encodeChar) = .ok text := by
  induction text generalizing index with
  | nil => rw [List.flatMap_nil, decodeFrom]
  | cons c text ih =>
    rw [List.flatMap_cons, (codes_encodeChar c).decodeFrom_append, ih]
    rfl

theorem flatMap_encodeChar_of_decodeFrom {text : List Char}
    (h : decodeFrom index bytes = .ok text) : text.flatMap encodeChar = bytes := by
  induction text generalizing index bytes with
  | nil =>
    cases bytes with
    | nil => rfl
    | cons a bytes =>
      obtain ⟨front, rest, ch, others, -, hnil, -⟩ := exists_codes h
      cases hnil
  | cons c text ih =>
    cases bytes with
    | nil =>
      rw [decodeFrom] at h
      cases h
    | cons a bytes =>
      obtain ⟨front, rest, ch, others, hbytes, htext, hcodes, hrest⟩ := exists_codes h
      obtain ⟨rfl, rfl⟩ := List.cons.inj htext
      rw [List.flatMap_cons, hcodes.encodeChar_eq, ih hrest, hbytes]

/-- **Decoding is the inverse of encoding**: a sequence of bytes is read as a text exactly if
it is what the text is written as. -/
theorem decode_eq_ok_iff {s : String} : decode bytes = .ok s ↔ encode s = bytes := by
  constructor
  · intro h
    rw [decode] at h
    cases htext : decodeFrom 0 bytes with
    | error fault =>
      rw [htext] at h
      cases h
    | ok text =>
      rw [htext] at h
      rw [← Except.ok.inj h, encode, String.toList_ofList]
      exact flatMap_encodeChar_of_decodeFrom htext
  · rintro rfl
    rw [decode, encode, decodeFrom_flatMap_encodeChar]
    exact congrArg Except.ok String.ofList_toList

/-- The decoder accepts valid UTF-8 and nothing else. -/
theorem exists_decode_iff : (∃ s, decode bytes = .ok s) ↔ bytes.toByteArray.IsValidUTF8 := by
  simp only [decode_eq_ok_iff]
  constructor
  · rintro ⟨s, rfl⟩
    rw [toByteArray_encode]
    exact s.isValidUTF8
  · intro h
    refine ⟨String.ofByteArray bytes.toByteArray h, ?_⟩
    rw [← List.toByteArray_inj, toByteArray_encode]

end Utf8

end ShaderLowering
