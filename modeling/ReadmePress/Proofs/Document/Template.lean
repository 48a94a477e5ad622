import ReadmePress.Document.Template
import ReadmePress.Proofs.Document.Description
import ReadmePress.Proofs.Document.Slugs

/-!
Templates read back. Pieces written as the text of a template are found in it again, so a
template says what its author wrote, and the built-in layout of the short document is the template
of its text with the features written out. In the document of any template the description stands
as it was given, and nothing else depends on it.
-/

namespace ReadmePress

open ReadmePress.Text

/-- A piece as the text of a template has it. -/
def TemplatePiece.source : TemplatePiece → List Char
  | .literal character => [character]
  | .slot name => "\x7b\x7b ".toList ++ name.toList ++ " \x7d\x7d".toList

/-- A piece that is told from its text alone: no literal opens a slot, and a name ends with its
slot. -/
def TemplatePiece.IsPlain : TemplatePiece → Prop
  | .literal character => character ≠ '{'
  | .slot name => ∀ character ∈ name.toList, isBlank character = false ∧ character ≠ '}'

namespace Template

section Reading

theorem take_slot_closed (inner more : List Char) (closed : '}' ∉ inner) :
    takeSlot? (inner ++ '}' :: '}' :: more) = some (inner, more) := by
  induction inner with
  | nil => rfl
  | cons character rest induction =>
      rw [List.mem_cons, not_or] at closed
      rw [List.cons_append, takeSlot?.eq_3 _ _ (by simp [Ne.symm closed.1]), induction closed.2]
      rfl

theorem pieces_passing (passing : Nat) (text : List Char) :
    piecesFrom passing text = parse (text.drop passing) := by
  induction passing generalizing text with
  | zero => rfl
  | succ passing induction =>
      cases text with
      | nil => simp [parse, piecesFrom]
      | cons character rest => exact induction rest

theorem parse_literal (character : Char) (more : List Char) (opensNothing : character ≠ '{') :
    parse (character :: more) = .literal character :: parse more := by
  rw [parse, piecesFrom.eq_5 _ _ (by simp [opensNothing])]
  rfl

/-- The name of a slot is what stands between its braces, without blanks around it. -/
theorem parse_slot (inner more : List Char) (closed : '}' ∉ inner) :
    parse ('{' :: '{' :: (inner ++ '}' :: '}' :: more)) =
      .slot (String.ofList (trim inner)) :: parse more := by
  have slotLength : ('{' :: (inner ++ '}' :: '}' :: more)).length - more.length =
      ('{' :: (inner ++ ['}', '}'])).length := by
    simp only [List.length_cons, List.length_append, List.length_nil]
    omega
  have behind : ('{' :: (inner ++ '}' :: '}' :: more)).drop
      ('{' :: (inner ++ ['}', '}'])).length = more := by
    have split : '{' :: (inner ++ '}' :: '}' :: more) = '{' :: (inner ++ ['}', '}']) ++ more := by
      simp
    rw [split, List.drop_left]
  simp only [parse, piecesFrom, take_slot_closed inner more closed]
  rw [pieces_passing, slotLength, behind]
  rfl

theorem trim_end_padded (text : List Char) : trimEnd (text ++ [' ']) = trimEnd text := by
  induction text with
  | nil => rfl
  | cons character rest induction => rw [List.cons_append, trimEnd, induction, trimEnd]

theorem trim_padded (name : List Char)
    (noBlank : ∀ character ∈ name, isBlank character = false) :
    trim (' ' :: (name ++ [' '])) = name := by
  have trimmed := trim_of_no_blank name noBlank
  cases name with
  | nil => rfl
  | cons first rest =>
      have start (text : List Char) : trimStart (first :: text) = first :: text :=
        List.dropWhile_cons_of_neg (by simp [noBlank first List.mem_cons_self])
      have blank : trimStart (' ' :: (first :: rest ++ [' '])) =
          trimStart (first :: rest ++ [' ']) := List.dropWhile_cons_of_pos (by decide)
      rw [trim, blank, List.cons_append, start, ← List.cons_append, trim_end_padded]
      rwa [trim, start] at trimmed

theorem parse_piece (piece : TemplatePiece) (plain : piece.IsPlain) (more : List Char) :
    parse (piece.source ++ more) = piece :: parse more := by
  cases piece with
  | literal character => exact parse_literal character more plain
  | slot name =>
      have closed : '}' ∉ ' ' :: (name.toList ++ [' ']) := by
        simp only [List.mem_cons, List.mem_append, List.not_mem_nil, or_false, not_or]
        exact ⟨by decide, fun member => (plain '}' member).2 rfl, by decide⟩
      have read := parse_slot (' ' :: (name.toList ++ [' '])) more closed
      rw [trim_padded _ fun character member => (plain character member).1,
        String.ofList_toList] at read
      simpa [TemplatePiece.source] using read

/-- What is written is read, whatever text stands behind it. -/
theorem parse_source (pieces : List TemplatePiece) (plain : ∀ piece ∈ pieces, piece.IsPlain)
    (more : List Char) :
    parse (pieces.flatMap TemplatePiece.source ++ more) = pieces ++ parse more := by
  induction pieces with
  | nil => rfl
  | cons piece rest induction =>
      obtain ⟨here, later⟩ := List.forall_mem_cons.mp plain
      rw [List.flatMap_cons, List.append_assoc, parse_piece piece here, induction later]
      rfl

theorem render_append (values : List (String × String)) (first second : List TemplatePiece) :
    render values (first ++ second) = render values first ++ render values second := by
  rw [← String.toList_inj, String.toList_append]
  simp only [render, String.toList_ofList, List.flatMap_append]

/-- A template without slots. -/
def literals (text : String) : List TemplatePiece := text.toList.map .literal

theorem render_literals (values : List (String × String)) (text : String) :
    render values (literals text) = text := by
  rw [← String.toList_inj]
  simp only [render, literals, String.toList_ofList, List.flatMap_map, List.flatMap_singleton']

theorem render_slot (values : List (String × String)) (name value : String)
    (found : OrderedMap.find? values name = some value) :
    render values [.slot name] = value := by
  simp [render, found]

end Reading

section BuiltIn

/-- The built-in template, its list of features written out. -/
def builtInPieces (features : List String) : List TemplatePiece :=
  literals "# " ++ [.slot "name"]
    ++ literals "\n\n" ++ [.slot "description"]
    ++ literals "\n\n## " ++ [.slot "features_title"]
    ++ literals ("\n" ++ listItems features)

theorem brace_not_in_items (features : List String)
    (plain : ∀ feature ∈ features, '{' ∉ feature.toList) : '{' ∉ (listItems features).toList := by
  intro brace
  rw [listItems, String.toList_join, List.flatMap_map] at brace
  obtain ⟨feature, listed, inItem⟩ := List.mem_flatMap.mp brace
  simp only [String.toList_append, List.mem_append] at inItem
  rcases inItem with (inBullet | inFeature) | inEnd
  · exact absurd inBullet (by decide)
  · exact plain feature listed inFeature
  · exact absurd inEnd (by decide)

theorem literals_are_plain (text : String) (plain : '{' ∉ text.toList) :
    ∀ piece ∈ literals text, piece.IsPlain := by
  intro piece member
  obtain ⟨character, inText, rfl⟩ := List.mem_map.mp member
  rintro rfl
  exact plain inText

theorem built_in_is_plain (features : List String)
    (plain : ∀ feature ∈ features, '{' ∉ feature.toList) :
    ∀ piece ∈ builtInPieces features, piece.IsPlain := by
  have items : '{' ∉ ("\n" ++ listItems features).toList := by
    rw [String.toList_append, List.mem_append, not_or]
    exact ⟨by decide, brace_not_in_items features plain⟩
  have letters : ∀ name ∈ ["name", "description", "features_title"],
      name.toList.all (fun character => !isBlank character && character != '}') = true := by
    decide
  have slots (name : String) (listed : name ∈ ["name", "description", "features_title"]) :
      (TemplatePiece.slot name).IsPlain := by
    intro character inName
    simpa using List.all_eq_true.mp (letters name listed) character inName
  simp only [builtInPieces, List.forall_mem_append, List.forall_mem_singleton, and_assoc]
  exact ⟨literals_are_plain _ (by decide), slots _ (by decide), literals_are_plain _ (by decide),
    slots _ (by decide), literals_are_plain _ (by decide), slots _ (by decide),
    literals_are_plain _ items⟩

theorem render_built_in (name description : String) (features : List String) :
    render
        [("name", name), ("description", slotFor description),
          ("features_title", shortFeaturesTitle)]
        (builtInPieces features) =
      "# " ++ name ++ "\n\n" ++ slotFor description ++ "\n\n## " ++ shortFeaturesTitle
        ++ ("\n" ++ listItems features) := by
  simp only [builtInPieces, render_append, render_literals]
  rw [render_slot _ "name" name rfl, render_slot _ "description" (slotFor description) rfl,
    render_slot _ "features_title" shortFeaturesTitle rfl]

/-- The built-in layout of the short document is its template with the features written out. -/
theorem built_in_template (name description : String) (features : List String)
    (notNone : features ≠ []) (plain : ∀ feature ∈ features, '{' ∉ feature.toList) :
    shortDocument ((builtInPieces features).flatMap TemplatePiece.source) name description =
      ReadmePress.shortDocument name description features := by
  have read := parse_source (builtInPieces features) (built_in_is_plain features plain) []
  have nothing : parse [] = [] := rfl
  rw [List.append_nil, nothing, List.append_nil] at read
  have shown : (if features.isEmpty then [shortDefaultFeature] else features) = features := by
    rw [List.isEmpty_eq_false_iff.mpr notNone, if_neg Bool.false_ne_true]
  have feeds : "\n\n## " = "\n" ++ "\n## " := rfl
  have sameDraft :
      render
          [("name", name), ("description", slotFor description),
            ("features_title", shortFeaturesTitle)]
          (builtInPieces features) =
        shortDraft name description features := by
    rw [render_built_in, shortDraft, shown, feeds, sectionHeading]
    simp only [String.append_assoc]
  rw [shortDocument, read, sameDraft]
  rfl

end BuiltIn

section Descriptions

/-- The draft that a template gives where there is a description. -/
def describedDraft (template : List Char) (name : String) : String :=
  render [("name", name), ("description", descriptionSlot), ("features_title", shortFeaturesTitle)]
    (parse template)

/-- Replacing a text cuts what is around it into pieces that do not depend on what takes its
place. -/
theorem replaced_pieces (pattern text : List Char) (passing : Nat) :
    ∃ first more, ∀ replacement,
      replaceFrom pattern replacement passing text = replacement.intercalate (first :: more) := by
  induction text generalizing passing with
  | nil => exact ⟨[], [], fun _ => rfl⟩
  | cons character rest induction =>
      cases passing with
      | succ passing => exact induction passing
      | zero =>
          by_cases starts : pattern.isPrefixOf (character :: rest) = true
          · obtain ⟨first, more, cut⟩ := induction (pattern.length - 1)
            refine ⟨[], first :: more, fun replacement => ?_⟩
            rw [replaceFrom, if_pos starts, cut, List.intercalate_cons_cons, List.nil_append]
          · obtain ⟨first, more, cut⟩ := induction 0
            refine ⟨character :: first, more, fun replacement => ?_⟩
            rw [replaceFrom, if_neg starts, cut]
            exact (intercalate_append_head replacement [character] first more).symm

/-- The description stands as it was given wherever a template has a slot for it: the document is
the tidied draft, cut at the slots, with the description between the pieces. -/
theorem description_fills_template (template : List Char) (name : String) :
    ∃ pieces : List (List Char),
      descriptionSlot.toList.intercalate pieces =
          Tidy.tidyChars (describedDraft template name).toList ∧
        ∀ description : String, description ≠ "" →
          (shortDocument template name description).toList =
            description.toList.intercalate pieces := by
  obtain ⟨first, more, cut⟩ := replaced_pieces descriptionSlot.toList
    (Tidy.tidyChars (describedDraft template name).toList) 0
  refine ⟨first :: more, ?_, fun description described => ?_⟩
  · rw [← cut, replace_by_itself _ _ (by decide), List.drop_zero]
  · rw [← cut, shortDocument, slotFor, if_neg described, finishDocument, String.toList_ofList]
    rfl

end Descriptions

end Template

end ReadmePress
