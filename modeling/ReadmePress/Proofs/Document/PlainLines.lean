import ReadmePress.Proofs.Document.Parts

/-!
Lines that no fence depends on. A text of one line stays one line of the draft, and one that
starts with a character of its own, no blank, no fence marker and no slot, opens and closes no
fence. So lists open none, and a code block that holds no marker closes the one it opens.
-/

namespace ReadmePress

open ReadmePress.Text

/-- A text without line ends. -/
def OneLine (text : String) : Prop :=
  ∀ character ∈ text.toList, character ≠ '\n' ∧ character ≠ '\r'

instance (text : String) : Decidable (OneLine text) :=
  List.decidableBAll (fun character => character ≠ '\n' ∧ character ≠ '\r') text.toList

theorem one_line_append (first second : String) (firstOneLine : OneLine first)
    (secondOneLine : OneLine second) : OneLine (first ++ second) := by
  intro character member
  rw [String.toList_append] at member
  rcases List.mem_append.mp member with inFirst | inSecond
  · exact firstOneLine character inFirst
  · exact secondOneLine character inSecond

theorem split_one_line (text : List Char) (oneLine : '\n' ∉ text) : split '\n' text = [text] := by
  induction text with
  | nil => rfl
  | cons character rest induction =>
      rw [List.mem_cons, not_or] at oneLine
      rw [split, if_neg (Ne.symm oneLine.1), induction oneLine.2]

/-- The lines of a text without carriage returns stand one after the other in the draft. -/
theorem part_lines_text (text : String) (noReturn : '\r' ∉ text.toList) :
    partLines (text ++ "\n") = (linesOf text).map trimEnd := by
  have feed : "\n".toList = ['\n'] := rfl
  have unified : unifyNewlines (text.toList ++ ['\n']) = text.toList ++ ['\n'] := by
    apply unify_newlines_of_no_return
    simpa using noReturn
  rw [partLines, Tidy.trimmedLines, String.toList_append, feed, unified, split_eq_split_on,
    List.splitOn_append_cons_self, List.splitOn_nil, List.map_append, List.map_singleton,
    List.dropLast_concat]
  rfl

theorem part_lines_one_line (text : String) (oneLine : OneLine text) :
    partLines (text ++ "\n") = [trimEnd text.toList] := by
  have noFeed : '\n' ∉ text.toList := fun member => (oneLine '\n' member).1 rfl
  rw [part_lines_text text fun member => (oneLine '\r' member).2 rfl, linesOf,
    ← split_eq_split_on, split_one_line _ noFeed]
  rfl

/-- Characters that no blank, no fence marker and no slot starts with. -/
def isPlainStart (character : Char) : Bool :=
  !isBlank character && !Tidy.isFenceCharacter character && character != Char.ofNat 0

/-- A text of one line that starts with a plain character. -/
structure PlainLine (text : String) : Prop where
  oneLine : OneLine text
  start : text.toList.head?.any isPlainStart = true

theorem plain_line_append (first second : String) (plain : PlainLine first)
    (oneLine : OneLine second) : PlainLine (first ++ second) := by
  refine ⟨one_line_append first second plain.oneLine oneLine, ?_⟩
  have start := plain.start
  rw [String.toList_append]
  cases characters : first.toList with
  | nil => simp [characters] at start
  | cons character rest => simpa [characters] using start

theorem trim_end_start (character : Char) (rest : List Char)
    (notBlank : isBlank character = false) :
    trimEnd (character :: rest) = character :: trimEnd rest := by
  rw [trimEnd]
  cases trimEnd rest <;> simp [notBlank]

theorem shown_line_start (character : Char) (rest : List Char) (noSlot : character ≠ Char.ofNat 0) :
    ∃ shown, shownLine (character :: rest) = character :: shown := by
  have slot : descriptionSlot.toList = Char.ofNat 0 :: descriptionSlot.toList.tail := rfl
  have notHere : descriptionSlot.toList.isPrefixOf (character :: rest) = false := by
    rw [slot, List.isPrefixOf]
    simp [Ne.symm noSlot]
  rw [shownLine, replace, replaceFrom, notHere]
  exact ⟨_, rfl⟩

/-- A plain line leaves every fence as it is. -/
theorem fence_over_plain_line (fence : Option Tidy.Fence) (text : String)
    (plain : PlainLine text) : fenceOver fence (text ++ "\n") = fence := by
  have start := plain.start
  cases characters : text.toList with
  | nil => simp [characters] at start
  | cons character rest =>
      simp only [characters, List.head?_cons, Option.any_some, isPlainStart, Bool.and_eq_true,
        Bool.not_eq_true', bne_iff_ne] at start
      obtain ⟨⟨notBlank, noMarker⟩, noSlot⟩ := start
      obtain ⟨shown, line⟩ := shown_line_start character (trimEnd rest) noSlot
      rw [fenceOver, shownLines, part_lines_one_line text plain.oneLine, characters,
        trim_end_start character rest notBlank, List.map_singleton, line, List.foldl_cons,
        List.foldl_nil]
      exact Tidy.fence_after_text fence _ (by simp [Tidy.marker?, noMarker])

theorem fence_over_plain_lines (fence : Option Tidy.Fence) (texts : List String)
    (plain : ∀ text ∈ texts, PlainLine text) :
    fenceOver fence (String.join (texts.map (· ++ "\n"))) = fence := by
  rw [fence_over_join fence _ (whole_each_line texts), List.foldl_map]
  induction texts with
  | nil => rfl
  | cons text more induction =>
      obtain ⟨here, later⟩ := List.forall_mem_cons.mp plain
      rw [List.foldl_cons, fence_over_plain_line fence text here, induction later]

theorem fence_over_list_items (fence : Option Tidy.Fence) (texts : List String)
    (oneLine : ∀ text ∈ texts, OneLine text) : fenceOver fence (listItems texts) = fence := by
  have bullet : PlainLine "- " := ⟨by decide, by decide⟩
  rw [list_items_lines]
  apply fence_over_plain_lines fence
  intro line member
  obtain ⟨text, isText, rfl⟩ := List.mem_map.mp member
  exact plain_line_append "- " text bullet (oneLine text isText)

/-- A text of several lines is its lines, one after the other. -/
theorem lines_of_intercalate (texts : List String) (notEmpty : texts ≠ []) :
    String.intercalate "\n" texts ++ "\n" = String.join (texts.map (· ++ "\n")) := by
  induction texts with
  | nil => exact absurd rfl notEmpty
  | cons text more induction =>
      cases more with
      | nil => simp
      | cons next others =>
          rw [String.intercalate_cons_cons, List.map_cons, String.join_cons,
            ← induction (by simp)]
          simp only [String.append_assoc]

/-- The fence of a code block. -/
def codeFence : Tidy.Fence := { character := Char.ofNat 0x60, length := 3 }

theorem marker_starts_line (line : List Char) (marker : Tidy.Fence)
    (marked : Tidy.marker? line = some marker) :
    List.replicate marker.length marker.character <+: line := by
  cases line with
  | nil => simp [Tidy.marker?] at marked
  | cons first rest =>
      simp only [Tidy.marker?] at marked
      split at marked
      next =>
        obtain rfl := Option.some.inj marked
        have same : rest.takeWhile (· == first) =
            List.replicate (rest.takeWhile (· == first)).length first := by
          apply List.eq_replicate_of_mem
          intro character member
          exact beq_iff_eq.mp (List.all_eq_true.mp List.all_takeWhile character member)
        rw [List.replicate_succ, List.cons_prefix_cons, ← same]
        exact ⟨rfl, List.takeWhile_prefix _⟩
      next => exact absurd marked (by simp)

/-- Inside a code block every line that does not begin with its fence leaves it open. -/
theorem stays_in_code_block (line : List Char) (noFence : ¬ "```".toList <+: line) :
    Tidy.fenceAfter (some codeFence) line = some codeFence := by
  cases marked : Tidy.marker? line with
  | none => exact Tidy.fence_after_text _ line marked
  | some marker =>
      have stays : Tidy.closes codeFence marker = false := by
        rw [Bool.eq_false_iff]
        intro closes
        simp only [Tidy.closes, Bool.and_eq_true, beq_iff_eq, decide_eq_true_eq] at closes
        obtain ⟨sameCharacter, longEnough⟩ := closes
        have fence : "```".toList <+: List.replicate marker.length marker.character := by
          refine ⟨List.replicate (marker.length - codeFence.length) codeFence.character, ?_⟩
          have start : "```".toList = List.replicate codeFence.length codeFence.character := by
            decide
          rw [sameCharacter, start, List.replicate_append_replicate,
            Nat.add_sub_cancel' longEnough]
        exact noFence (fence.trans (marker_starts_line line marker marked))
      simp [Tidy.fenceAfter, marked, stays]

theorem stays_in_code_block_over (text : String)
    (noFence : ∀ line ∈ shownLines text, ¬ "```".toList <+: line) :
    fenceOver (some codeFence) text = some codeFence := by
  rw [fenceOver]
  generalize shownLines text = lines at noFence
  induction lines with
  | nil => rfl
  | cons line rest induction =>
      obtain ⟨here, later⟩ := List.forall_mem_cons.mp noFence
      rw [List.foldl_cons, stays_in_code_block line here, induction later]

/-- A code block whose text does not close its fence leaves none open. -/
theorem code_block_leaves_no_fence (info text : String) (known : info = "" ∨ info = "bash")
    (inside : fenceOver (some codeFence) (text ++ "\n") = some codeFence) :
    LeavesNoFence (codeBlock info text) := by
  have opening : fenceOver none ("\n" ++ "```" ++ info ++ "\n") = some codeFence := by
    rcases known with rfl | rfl <;> decide
  have closing : fenceOver (some codeFence) ("```" ++ "\n") = none := by decide
  rw [LeavesNoFence, code_block_parts, fence_over_append _ _ _ (whole_lines_line _), opening,
    fence_over_append _ _ _ (whole_lines_line _), inside, closing]

end ReadmePress
