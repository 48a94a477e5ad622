import ReadmePress.Text.Veil

/-!
Veiled texts can be told apart and read back, and they stand in the order of the texts that they
veil.
-/

namespace ReadmePress.Text.WideText

theorem surrogate_sign_code (offset : Fin 0x800) :
    (surrogateSign offset).toNat = 0x4e00 + offset.val := by
  have bound := offset.isLt
  rw [surrogateSign, Char.ofNat, dif_pos (Or.inl (by omega))]
  rfl

theorem surrogate_sign_not_plain (offset : Fin 0x800) : surrogateSign offset ≠ plainSign := by
  intro same
  have code := surrogate_sign_code offset
  rw [same, show plainSign.toNat = 0x21 from rfl] at code
  omega

theorem unveil_surrogate_sign (offset : Fin 0x800) :
    unveilSign (surrogateSign offset) = .surrogate offset := by
  have bound := offset.isLt
  rw [unveilSign, if_neg (surrogate_sign_not_plain offset)]
  apply congrArg CodePoint.surrogate
  apply Fin.ext
  simp only [surrogate_sign_code]
  omega

theorem unveil_plain (character : Char) (rest : List Char) (plain : character ≠ veilMark) :
    unveil (character :: rest) = .scalar character :: unveil rest := by
  cases rest with
  | nil => rfl
  | cons sign more => rw [unveil, if_neg plain]

theorem unveil_mark (sign : Char) (rest : List Char) :
    unveil (veilMark :: sign :: rest) = unveilSign sign :: unveil rest := by
  rw [unveil, if_pos rfl]

/-- A veiled code point is read back, whatever follows. -/
theorem unveil_point (point : CodePoint) (rest : List Char) :
    unveil (veilPoint point ++ rest) = point :: unveil rest := by
  cases point with
  | surrogate offset =>
      have signs : veilPoint (.surrogate offset) ++ rest =
          veilMark :: surrogateSign offset :: rest := rfl
      rw [signs, unveil_mark, unveil_surrogate_sign]
  | scalar character =>
      by_cases isMark : character = veilMark
      · have signs : veilPoint (.scalar character) ++ rest = veilMark :: plainSign :: rest := by
          rw [veilPoint, if_pos isMark]
          rfl
        rw [signs, unveil_mark, unveilSign, if_pos rfl, isMark]
      · have signs : veilPoint (.scalar character) ++ rest = character :: rest := by
          rw [veilPoint, if_neg isMark]
          rfl
        rw [signs, unveil_plain _ _ isMark]

theorem unveil_veil (text : WideText) : unveil (veil text) = text := by
  induction text with
  | nil => rfl
  | cons point rest induction =>
      rw [veil, List.flatMap_cons, ← veil, unveil_point, induction]

theorem veil_injective (text other : WideText) (same : veil text = veil other) : text = other := by
  rw [← unveil_veil text, same, unveil_veil]

section Order

/-- Code points in the order of their numbers. -/
def Precedes (point other : CodePoint) : Prop := point.toNat < other.toNat

theorem code_point_ext (point other : CodePoint) (same : point.toNat = other.toNat) :
    point = other := by
  have apart (character : Char) (offset : Fin 0x800) :
      character.toNat ≠ 0xd800 + offset.val := by
    have valid := character.valid
    have bound := offset.isLt
    have code : character.val.toNat = character.toNat := rfl
    simp only [UInt32.isValidChar, Nat.isValidChar] at valid
    omega
  cases point with
  | scalar character =>
      cases other with
      | scalar second => exact congrArg CodePoint.scalar (Char.toNat_inj.mp same)
      | surrogate offset => exact absurd same (apart character offset)
  | surrogate offset =>
      cases other with
      | scalar second => exact absurd same.symm (apart second offset)
      | surrogate second =>
          apply congrArg CodePoint.surrogate
          apply Fin.ext
          exact Nat.add_left_cancel same

/-- A point is veiled as itself, away from the surrogates, or as the mark with a sign. The signs
are in the order of the points that they stand for. -/
theorem veil_point_cases (point : CodePoint) :
    (∃ character, veilPoint point = [character] ∧ character.toNat = point.toNat ∧
        (point.toNat < 0xd7ff ∨ 0xdfff < point.toNat)) ∨
      ∃ sign, veilPoint point = [veilMark, sign] ∧ 0xd7ff ≤ point.toNat ∧ point.toNat ≤ 0xdfff ∧
        (point.toNat = 0xd7ff ∧ sign.toNat = 0x21 ∨
          0xd7ff < point.toNat ∧ sign.toNat = 0x4e00 + (point.toNat - 0xd800)) := by
  cases point with
  | scalar character =>
      have code : (CodePoint.scalar character).toNat = character.toNat := rfl
      by_cases isMark : character = veilMark
      · have markCode : veilMark.toNat = 0xd7ff := rfl
        refine Or.inr ⟨plainSign, if_pos isMark, ?_⟩
        rw [code, isMark, markCode]
        exact ⟨by omega, by omega, Or.inl ⟨rfl, rfl⟩⟩
      · refine Or.inl ⟨character, if_neg isMark, code.symm, ?_⟩
        have notMark : character.toNat ≠ 0xd7ff := fun same => isMark (Char.toNat_inj.mp same)
        have valid := character.valid
        have value : character.val.toNat = character.toNat := rfl
        simp only [UInt32.isValidChar, Nat.isValidChar] at valid
        omega
  | surrogate offset =>
      have code : (CodePoint.surrogate offset).toNat = 0xd800 + offset.val := rfl
      have bound := offset.isLt
      refine Or.inr ⟨surrogateSign offset, rfl, ?_⟩
      rw [code, surrogate_sign_code]
      omega

theorem lt_by_code (first second : Char) (rest otherRest : List Char) :
    first :: rest < second :: otherRest ↔
      first.toNat < second.toNat ∨ first.toNat = second.toNat ∧ rest < otherRest := by
  have lessThan : first < second ↔ first.toNat < second.toNat := by
    rw [Char.lt_def, UInt32.lt_iff_toNat_lt]
    rfl
  rw [List.cons_lt_cons_iff, lessThan, Char.toNat_inj]

/-- What stands for different code points is in their order, whatever follows. -/
theorem veil_points_lt_iff (point other : CodePoint) (different : point ≠ other)
    (rest otherRest : List Char) :
    veilPoint point ++ rest < veilPoint other ++ otherRest ↔ Precedes point other := by
  have apart : point.toNat ≠ other.toNat := fun same => different (code_point_ext _ _ same)
  have markCode : veilMark.toNat = 0xd7ff := rfl
  unfold Precedes
  rcases veil_point_cases point with
    ⟨character, veiled, code, range⟩ | ⟨sign, veiled, least, greatest, signCode⟩
  · rcases veil_point_cases other with
      ⟨second, otherVeiled, otherCode, otherRange⟩ |
        ⟨otherSign, otherVeiled, otherLeast, otherGreatest, otherSignCode⟩
    · simp only [veiled, otherVeiled, List.cons_append, lt_by_code]
      omega
    · simp only [veiled, otherVeiled, List.cons_append, lt_by_code]
      omega
  · rcases veil_point_cases other with
      ⟨second, otherVeiled, otherCode, otherRange⟩ |
        ⟨otherSign, otherVeiled, otherLeast, otherGreatest, otherSignCode⟩
    · simp only [veiled, otherVeiled, List.cons_append, lt_by_code]
      omega
    · -- Both begin with the mark, so their signs decide.
      have signsApart : sign.toNat ≠ otherSign.toNat := by omega
      simp only [veiled, otherVeiled, List.cons_append, lt_by_code, signsApart, Nat.lt_irrefl,
        true_and, false_and, false_or, or_false]
      omega

theorem veil_starts (point : CodePoint) (rest : WideText) :
    veil (point :: rest) = veilPoint point ++ veil rest := List.flatMap_cons

theorem lt_of_shared_start (start rest otherRest : List Char) :
    start ++ rest < start ++ otherRest ↔ rest < otherRest := by
  induction start with
  | nil => rfl
  | cons character more induction =>
      rw [List.cons_append, List.cons_append, List.cons_lt_cons_iff]
      simpa using induction

/-- Veiled texts are in the order of the texts. -/
theorem veil_lt_iff (text other : WideText) :
    veil text < veil other ↔ List.Lex Precedes text other := by
  have nonempty (point : CodePoint) (rest : WideText) : veil (point :: rest) ≠ [] := by
    intro nothing
    have emptied := unveil_veil (point :: rest)
    rw [nothing] at emptied
    exact absurd emptied (by simp [unveil])
  induction text generalizing other with
  | nil =>
      cases other with
      | nil => simp [veil]
      | cons second more =>
          refine iff_of_true ?_ List.Lex.nil
          obtain ⟨first, others, veiled⟩ := List.exists_cons_of_ne_nil (nonempty second more)
          rw [veiled]
          exact List.nil_lt_cons first others
  | cons point rest induction =>
      cases other with
      | nil => simp [veil]
      | cons second more =>
          rw [veil_starts, veil_starts, List.cons_lex_cons_iff]
          by_cases same : point = second
          · rw [same, lt_of_shared_start]
            exact (induction more).trans (by simp [Precedes])
          · rw [veil_points_lt_iff _ _ same]
            simp [same]

end Order

end ReadmePress.Text.WideText
