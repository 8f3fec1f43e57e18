import ShaderLowering.Proofs.Stream.Framing

/-!
# Where a stream is refused

Words that are no module are refused at some of them: a header that is cut short as a
whole, one of its words that is wrong, or an instruction whose length cannot be right.
Each instruction is read off the front of what is left, and its place is counted along, so
the place that is reported is within the words
(`ShaderLowering.ShaderModule.within_of_read`). In a stream that is read, every
instruction is.
-/

namespace ShaderLowering

/-- The report is about some of the given number of words, or points at one or behind the
last. -/
def Diagnostic.Within (e : Diagnostic) (length : Nat) : Prop :=
  e.start ≤ e.stop ∧ e.stop ≤ length

theorem Diagnostic.within_pointing {start length : Nat} (h : start ≤ length) (cause : Cause) :
    (pointing start cause).Within length :=
  ⟨Nat.le_refl start, h⟩

namespace Instruction

variable {start : Nat} {first : Word} {rest words : List Word} {e : Diagnostic}

theorem within_of_read (h : read start first rest = .error e) :
    e.Within (start + (first :: rest).length) := by
  rw [read] at h
  split at h
  · rw [← Except.error.inj h]
    exact Diagnostic.within_pointing (Nat.le_add_right _ _) _
  · split at h
    · rw [← Except.error.inj h]
      exact ⟨Nat.le_add_right _ _, Nat.le_refl _⟩
    · exact absurd h (by simp)

/-- Instructions are refused at the first of them, or behind it. -/
theorem of_readAll_cons_eq_error (h : readAll start (first :: rest) = .error e) :
    read start first rest = .error e ∨ ∃ i, read start first rest = .ok i ∧
      readAll i.stop (rest.drop i.operands.length) = .error e := by
  rw [readAll] at h
  cases hi : read start first rest with
  | error d =>
    rw [hi] at h
    exact Or.inl (congrArg Except.error (Except.error.inj h))
  | ok i =>
    simp only [hi, bind, Except.bind] at h
    cases hothers : readAll i.stop (rest.drop i.operands.length) with
    | error d =>
      rw [hothers] at h
      exact Or.inr ⟨i, rfl, hothers.trans (congrArg Except.error (Except.error.inj h))⟩
    | ok others =>
      rw [hothers] at h
      exact absurd h (by simp [pure, Except.pure])

/-- **Instructions are refused within the words** they are read from. -/
theorem within_of_readAll (h : readAll start words = .error e) :
    e.Within (start + words.length) := by
  induction start, words using readAll.induct with
  | case1 start =>
    rw [readAll] at h
    exact absurd h (by simp)
  | case2 start first rest ih =>
    rcases of_readAll_cons_eq_error h with hfirst | ⟨i, hi, hothers⟩
    · exact within_of_read hfirst
    · exact stop_add_of_read hi ▸ ih i hothers

end Instruction

/-- Instructions that stand one after the other stand between the first and the last word. -/
theorem Tiles.bounds {start stop : Nat} {is : List Instruction} (h : Tiles start is stop) :
    start ≤ stop ∧ ∀ i ∈ is, i.start ≤ i.stop ∧ i.stop ≤ stop := by
  induction is generalizing start with
  | nil => exact ⟨Nat.le_of_eq h, List.forall_mem_nil _⟩
  | cons i is ih =>
    obtain ⟨hstart, hlength, hrest⟩ := h
    obtain ⟨hle, hbounds⟩ := ih hrest
    exact ⟨by omega, List.forall_mem_cons.mpr ⟨⟨by omega, hle⟩, hbounds⟩⟩

theorem Header.within_of_read {words : List Word} {e : Diagnostic}
    (h : Header.read words = .error e) : e.Within words.length := by
  unfold Header.read at h
  split at h
  · rename_i magic version generator idBound schema rest
    have hroom : 5 ≤ (magic :: version :: generator :: idBound :: schema :: rest).length := by
      simp only [List.length_cons]
      omega
    dsimp only at h
    split at h
    · rw [← Except.error.inj h]
      exact Diagnostic.within_pointing (by omega) _
    · split at h
      · rw [← Except.error.inj h]
        exact Diagnostic.within_pointing (by omega) _
      · split at h
        · rw [← Except.error.inj h]
          exact Diagnostic.within_pointing (by omega) _
        · exact absurd h (by simp)
  · rw [← Except.error.inj h]
    exact ⟨Nat.zero_le _, Nat.le_refl _⟩

namespace ShaderModule

variable {words : List Word} {e : Diagnostic} {shader : ShaderModule}

theorem length_upright (words : List Word) : (upright words).length = words.length := by
  rw [upright]
  split
  · exact List.length_map _
  · rfl

/-- **Words that are no module are refused within them.** -/
theorem within_of_read (h : read words = .error e) : e.Within words.length := by
  rw [read] at h
  rw [← length_upright words]
  cases hheader : Header.read (upright words) with
  | error d =>
    simp only [hheader, bind, Except.bind] at h
    exact Except.error.inj h ▸ Header.within_of_read hheader
  | ok header =>
    have hroom := (Header.exists_read.mp ⟨header, hheader⟩).room
    cases his : Instruction.readAll Header.wordCount ((upright words).drop Header.wordCount) with
    | error d =>
      simp only [hheader, his, bind, Except.bind] at h
      have hwithin := Instruction.within_of_readAll his
      rw [List.length_drop, Nat.add_sub_cancel' hroom] at hwithin
      exact Except.error.inj h ▸ hwithin
    | ok is =>
      simp only [hheader, his, bind, Except.bind] at h
      exact absurd h (by simp [pure, Except.pure])

/-- The instructions of a module stand within the words. -/
theorem bounds_of_read (h : read words = .ok shader) :
    ∀ i ∈ shader.instructions, i.start ≤ i.stop ∧ i.stop ≤ words.length :=
  length_upright words ▸ (tiles_of_read h).1.bounds.2

end ShaderModule

end ShaderLowering
