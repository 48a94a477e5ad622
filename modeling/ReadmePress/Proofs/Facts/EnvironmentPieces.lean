import ReadmePress.Proofs.Facts.EnvironmentAccesses
import ReadmePress.Proofs.Text.Lines

/-!
Environment variables of texts that are put together from pieces. No access reads across a
semicolon, and a line feed always ends a line of a sample file, so the keys of the whole are those
of the pieces in their order. What a line feed can add to the lines before it is an empty line,
which names no key.
-/

namespace ReadmePress

open ReadmePress.Text

namespace Text

/-- A search that reads nothing across a divider. Before it, the same is found as in a text that
ends there. -/
structure Search.StopsAt {Value : Type} (find : Search Value) (divider : Char) : Prop where
  atEnd : ∀ before, find before [] = none
  divides : ∀ before text rest, find before (text ++ divider :: rest) =
    (find before text).map fun found => (found.1, found.2 ++ divider :: rest)

/-- Such a search scans both sides of the divider for themselves. -/
theorem scan_with_divided {Value : Type} (find : Search Value) (divider : Char)
    (stops : find.StopsAt divider) (passing : Nat) (before : Option Char)
    (first second : List Char) (within : passing ≤ first.length) :
    scanWith find passing before (first ++ divider :: second) =
      scanWith find passing before first ++ scanWith find 0 (some divider) second := by
  induction first generalizing passing before with
  | nil =>
      obtain rfl := Nat.le_zero.mp within
      have nothing : find before (divider :: second) = none := by
        have divided := stops.divides before [] second
        rwa [stops.atEnd] at divided
      simp only [List.nil_append, scanWith, nothing]
  | cons character rest induction =>
      cases passing with
      | succ passing =>
          rw [List.cons_append, scanWith, scanWith]
          exact induction passing (some character) (Nat.le_of_succ_le_succ within)
      | zero =>
          have divided := stops.divides before (character :: rest) second
          rw [List.cons_append] at divided ⊢
          rw [scanWith, scanWith, divided]
          cases find before (character :: rest) with
          | none => exact induction 0 (some character) (Nat.zero_le _)
          | some found =>
              have samePassing : (rest ++ divider :: second).length
                  - (found.2 ++ divider :: second).length = rest.length - found.2.length := by
                rw [List.length_append, List.length_append, Nat.add_sub_add_right]
              simp only [Option.map_some]
              rw [samePassing, List.cons_append]
              apply congrArg
              exact induction _ (some character) (Nat.sub_le _ _)

/-- A line feed at the end of a text adds no line to it or an empty one. -/
theorem lines_after_ended_eq (pending text : List Char) :
    linesAfter pending (text ++ ['\n']) = linesAfter pending text ∨
      linesAfter pending (text ++ ['\n']) = linesAfter pending text ++ [[]] := by
  fun_induction linesAfter pending text with
  | case1 pending isEmpty =>
      rw [List.isEmpty_iff.mp isEmpty]
      exact Or.inr rfl
  | case2 pending notEmpty =>
      rw [List.nil_append, lines_after_line_feed]
      exact Or.inl rfl
  | case3 pending more induction =>
      rw [List.cons_append, List.cons_append, lines_after_pair, List.cons_append]
      exact induction.imp (congrArg _) (congrArg _)
  | case4 pending character more noPair isBreak induction =>
      rcases lines_before_line_feed pending more character noPair with ⟨rfl, rfl⟩ | step
      · exact Or.inl (lines_after_pair pending [])
      · rw [List.cons_append, step, if_pos isBreak, List.cons_append]
        exact induction.imp (congrArg _) (congrArg _)
  | case5 pending character more noPair noBreak induction =>
      rcases lines_before_line_feed pending more character noPair with ⟨rfl, rfl⟩ | step
      · exact absurd (by decide) noBreak
      · rw [List.cons_append, step, if_neg noBreak]
        exact induction

end Text

namespace EnvironmentKey

theorem semicolon_not_in_reading (before after : Option Char) (piece : List Char)
    (access : EnvironmentAccess) (reading : EnvironmentReading before piece after access) :
    ';' ∉ piece := by
  cases reading with
  | dotted _ _ key isKey ends =>
      have notInKey : ';' ∉ key := fun member => absurd (isKey.allowed ';' member) (by decide)
      simpa using notInKey
  | bracketed _ _ key gap space opening closing isKey gapBlank spaceBlank opens closes =>
      have notInKey : ';' ∉ key := fun member => absurd (isKey.allowed ';' member) (by decide)
      have notInGap : ';' ∉ gap := fun member => absurd (gapBlank ';' member) (by decide)
      have notInSpace : ';' ∉ space := fun member => absurd (spaceBlank ';' member) (by decide)
      have notQuote : ∀ quote, Route.isQuote quote = true → ';' ≠ quote := by
        rintro quote isQuote rfl
        exact absurd isQuote (by decide)
      simp [notInKey, notInGap, notInSpace, notQuote opening opens, notQuote closing closes]

/-- An access may stand before a semicolon where it may stand at the end of a text. -/
theorem reading_before_semicolon (before : Option Char) (piece remaining rest : List Char)
    (access : EnvironmentAccess) :
    EnvironmentReading before piece (remaining ++ ';' :: rest).head? access ↔
      EnvironmentReading before piece remaining.head? access := by
  cases remaining with
  | cons first others => rfl
  | nil =>
      constructor
      · intro reading
        cases reading with
        | dotted _ _ key isKey ends => exact .dotted before _ key isKey nofun
        | bracketed _ _ key gap space opening closing isKey gapBlank spaceBlank opens closes =>
            exact .bracketed before _ key gap space opening closing isKey gapBlank spaceBlank opens
              closes
      · intro reading
        cases reading with
        | dotted _ _ key isKey ends =>
            refine .dotted before _ key isKey ?_
            rintro character ⟨⟩
            decide
        | bracketed _ _ key gap space opening closing isKey gapBlank spaceBlank opens closes =>
            exact .bracketed before _ key gap space opening closing isKey gapBlank spaceBlank opens
              closes

theorem search_stops_at_semicolon : search.StopsAt ';' where
  atEnd := fun _ => rfl
  divides := by
    intro before text rest
    cases found : search before text with
    | some result =>
        obtain ⟨access, remaining⟩ := result
        obtain ⟨piece, rfl, reading⟩ := search_found before text remaining access found
        rw [List.append_assoc]
        apply search_finds
        exact (reading_before_semicolon before piece remaining rest access).mpr reading
    | none =>
        cases across : search before (text ++ ';' :: rest) with
        | none => rfl
        | some result =>
            -- What is read from the whole ends before the semicolon, so it is read here too.
            obtain ⟨access, remaining⟩ := result
            obtain ⟨piece, cut, reading⟩ := search_found before _ remaining access across
            have apart := semicolon_not_in_reading before _ piece access reading
            obtain ⟨below, rfl, rfl⟩ : ∃ below, text = piece ++ below ∧
                remaining = below ++ ';' :: rest := by
              rcases List.append_eq_append_iff.mp cut with ⟨beyond, rfl, start⟩ | inFront
              · cases beyond with
                | nil => exact ⟨[], by simp, start.symm⟩
                | cons first others =>
                    obtain ⟨rfl, -⟩ := List.cons.inj start
                    simp at apart
              · exact inFront
            have here := search_finds before piece below access
              ((reading_before_semicolon before piece below rest access).mp reading)
            rw [here] at found
            exact absurd found (by simp)

theorem scan_divided (first second : List Char) :
    scan (first ++ ';' :: second) = scan first ++ scan second := by
  rw [scan, scan_from_eq 0 none,
    scan_with_divided search ';' search_stops_at_semicolon 0 none first second (Nat.zero_le _),
    List.map_append, ← scan_from_eq, ← scan_from_eq]
  rfl

theorem sample_divided (first second : List Char) :
    ofSample (first ++ '\n' :: second) = ofSample first ++ ofSample second := by
  rw [ofSample, lines_append, List.filterMap_append]
  rcases lines_after_ended_eq [] first with same | oneMore
  · rw [lines, same]
    rfl
  · have nothing : [[]].filterMap ofSampleLine? = [] := rfl
    rw [lines, oneMore, List.filterMap_append, nothing, List.append_nil]
    rfl

/-- A name of capitals, digits and low lines. -/
structure IsVariableName (name : String) : Prop where
  notEmpty : name ≠ ""
  written : ∀ character ∈ name.toList,
    ('A' ≤ character ∧ character ≤ 'Z') ∨ ('0' ≤ character ∧ character ≤ '9') ∨ character = '_'

theorem variable_name_of_key (key : List Char) (isKey : IsKeyText key) :
    IsVariableName (String.ofList key) := by
  constructor
  · intro empty
    apply isKey.notEmpty
    rw [← String.toList_ofList (l := key), empty]
    rfl
  · intro character member
    rw [String.toList_ofList] at member
    simpa [isKeyCharacter, or_assoc] using isKey.allowed character member

theorem sample_names (text : List Char) : ∀ key ∈ ofSample text, IsVariableName key := by
  intro key member
  obtain ⟨line, -, assigned⟩ := List.mem_filterMap.mp member
  simp only [ofSampleLine?] at assigned
  split at assigned
  next found rest taken =>
    obtain rfl := Option.some.inj assigned
    exact variable_name_of_key found (take_key_found line found _ taken).2.1
  next => exact absurd assigned (by simp)

/-- The keys of pieces with a semicolon between them, or with a line feed in a sample file, are
those of the first and then those of the second; and every key is a name. -/
theorem keys_of_pieces (first second : List Char) :
    scan (first ++ ';' :: second) = scan first ++ scan second ∧
      ofSample (first ++ '\n' :: second) = ofSample first ++ ofSample second ∧
      (∀ key ∈ scan first, IsVariableName key) ∧ ∀ key ∈ ofSample first, IsVariableName key := by
  refine ⟨scan_divided first second, sample_divided first second, ?_, sample_names first⟩
  intro key member
  obtain ⟨characters, rfl, isKey⟩ := scanned_keys first key member
  exact variable_name_of_key characters isKey

end EnvironmentKey

end ReadmePress
