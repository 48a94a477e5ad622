import ReadmePress.Proofs.Document.NormalForm
import ReadmePress.Proofs.Document.PlainLines

/-!
Blocks of lines that tidying leaves as they are wherever they follow text. A block leaves no
fence open and ends in text, so that another block can follow it: a document of blocks is tidied
to itself.
-/

namespace ReadmePress.Tidy

open ReadmePress.Text

/-- A line of text that is neither a heading nor a fence marker. -/
structure ProseLine (line : List Char) : Prop where
  text : line ≠ []
  noMarker : marker? line = none
  noHeading : ¬ IsHeadingLine line

/-- A line that begins with a plain character and no number sign is prose. -/
theorem prose_of_start (first : Char) (rest : List Char) (plain : isPlainStart first = true)
    (noHeading : first ≠ '#') : ProseLine (first :: rest) := by
  simp only [isPlainStart, Bool.and_eq_true, Bool.not_eq_true'] at plain
  obtain ⟨⟨-, noMarker⟩, -⟩ := plain
  refine ⟨by simp, by simp [marker?, noMarker], ?_⟩
  intro heading
  exact noHeading (by simpa using heading.head)

/-- Lines that are settled under a line of text, leave no fence open and end in text, so that
the next lines stand as these do. -/
structure SettledBlock (lines : List (List Char)) : Prop where
  settled : Settled none true lines
  unfenced : openFence lines = none
  ends : endsInText true lines = true

theorem settled_block_nil : SettledBlock [] := ⟨trivial, rfl, rfl⟩

theorem settled_block_append (first second : List (List Char)) (firstBlock : SettledBlock first)
    (secondBlock : SettledBlock second) : SettledBlock (first ++ second) where
  settled := by
    rw [settled_append, ← openFence, firstBlock.unfenced, firstBlock.ends]
    exact ⟨firstBlock.settled, secondBlock.settled⟩
  unfenced := by
    rw [openFence, List.foldl_append, ← openFence, firstBlock.unfenced]
    exact secondBlock.unfenced
  ends := by
    rw [ends_in_text_append, firstBlock.ends]
    exact secondBlock.ends

theorem settled_block_flat_map {Part : Type} (parts : List Part)
    (lines : Part → List (List Char)) (blocks : ∀ part ∈ parts, SettledBlock (lines part)) :
    SettledBlock (parts.flatMap lines) := by
  induction parts with
  | nil => exact settled_block_nil
  | cons part more induction =>
      obtain ⟨here, later⟩ := List.forall_mem_cons.mp blocks
      rw [List.flatMap_cons]
      exact settled_block_append _ _ here (induction later)

theorem settled_block_prose (lines : List (List Char)) (prose : ∀ line ∈ lines, ProseLine line) :
    SettledBlock lines := by
  have single : ∀ line ∈ lines, SettledBlock [line] := by
    intro line member
    obtain ⟨text, noMarker, noHeading⟩ := prose line member
    refine ⟨⟨fun _ => prose_is_kept true line text noHeading, trivial⟩,
      fence_after_text none line noMarker, ?_⟩
    simpa [endsInText] using text
  have block := settled_block_flat_map lines (fun line => [line]) single
  rwa [List.flatMap_singleton'] at block

/-- A line of text after a blank one is a block, whether it is prose or a heading. -/
theorem settled_block_after_blank (line : List Char) (text : line ≠ [])
    (noMarker : marker? line = none) : SettledBlock [[], line] where
  settled := ⟨fun _ => blank_is_kept, fun _ => text_is_kept line text, trivial⟩
  unfenced := fence_after_text none line noMarker
  ends := by simpa [endsInText] using text

theorem settled_block_heading (line : List Char) (heading : IsHeadingLine line) :
    SettledBlock [[], line] :=
  settled_block_after_blank line (heading_ne_nil line heading) (heading_is_no_marker line heading)

/-- Where a fence stays open over lines, they are settled and it is open after them. -/
theorem settled_in_fence (opener : Fence) (afterText : Bool) (lines : List (List Char))
    (stays : ∀ line ∈ lines, fenceAfter (some opener) line = some opener) :
    Settled (some opener) afterText lines ∧
      lines.foldl fenceAfter (some opener) = some opener := by
  induction lines generalizing afterText with
  | nil => exact ⟨trivial, rfl⟩
  | cons line rest induction =>
      obtain ⟨here, later⟩ := List.forall_mem_cons.mp stays
      obtain ⟨settled, sameFence⟩ := induction (!line.isEmpty) later
      rw [Settled, List.foldl_cons, here]
      exact ⟨⟨by simp, settled⟩, sameFence⟩

/-- Lines between two markers of a fence, after a blank line, are a block. -/
theorem settled_block_fenced (opener : Fence) (opening closing : List Char)
    (inner : List (List Char)) (opens : marker? opening = some opener)
    (stays : ∀ line ∈ inner, fenceAfter (some opener) line = some opener)
    (closes : fenceAfter (some opener) closing = none) (text : closing ≠ []) :
    SettledBlock ([] :: opening :: inner ++ [closing]) := by
  have isText : opening ≠ [] := by
    rintro rfl
    simp [marker?] at opens
  have opened : fenceAfter none opening = some opener := opens
  obtain ⟨settledInner, sameFence⟩ := settled_in_fence opener (!opening.isEmpty) inner stays
  have settledClosing : Settled (some opener)
      (endsInText (!opening.isEmpty) inner) [closing] := ⟨by simp, trivial⟩
  refine ⟨?_, ?_, ?_⟩
  · refine ⟨fun _ => blank_is_kept, fun _ => text_is_kept opening isText, ?_⟩
    rw [fence_after_blank, opened]
    refine (settled_append _ _ inner [closing]).mpr ⟨settledInner, ?_⟩
    rw [sameFence]
    exact settledClosing
  · rw [open_fence_concat, openFence, List.foldl_cons, List.foldl_cons, fence_after_blank, opened,
      sameFence, closes]
  · rw [ends_in_text_concat]
    simpa using text

theorem ends_in_text_cases (lines : List (List Char)) (ends : endsInText false lines = true) :
    ∃ front last, lines = front ++ [last] ∧ last ≠ [] := by
  rcases List.eq_nil_or_concat lines with rfl | ⟨front, last, rfl⟩
  · exact absurd ends (by decide)
  · rw [List.concat_eq_append] at ends ⊢
    rw [ends_in_text_concat] at ends
    exact ⟨front, last, rfl, by simpa using ends⟩

/-- A text of a heading and a block under it has these lines when it is tidied. -/
theorem tidied_under_heading (text : List Char) (heading : List Char)
    (block : List (List Char)) (isHeading : IsHeadingLine heading) (isBlock : SettledBlock block)
    (lines : trimmedLines text = heading :: block ++ [[]]) :
    tidiedLines text = heading :: block := by
  have headingText := heading_is_text heading isHeading
  have unfenced := fence_after_text none heading (heading_is_no_marker heading isHeading)
  have settled : Settled none false (heading :: block) := by
    refine ⟨fun _ => text_is_kept heading (heading_ne_nil heading isHeading), ?_⟩
    rw [unfenced, headingText]
    exact isBlock.settled
  have ends : endsInText false (heading :: block) = true := by
    rw [endsInText, List.foldl_cons, headingText]
    exact isBlock.ends
  obtain ⟨front, last, same, isText⟩ := ends_in_text_cases _ ends
  rw [same] at settled lines ⊢
  rw [tidiedLines, lines]
  exact tidied_before_end front last isText settled

end ReadmePress.Tidy
