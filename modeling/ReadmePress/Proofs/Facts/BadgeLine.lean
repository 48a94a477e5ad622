import Mathlib.Data.List.Forall2
import ReadmePress.Facts.Badges
import ReadmePress.Proofs.Text.Percent
import ReadmePress.Proofs.Text.Splitting

/-!
The line of badges can be taken apart again. Encoded labels hold no blank, so the parts between
blanks are the badges; each kind of badge has an opening of its own, and what stands between it
and the closing decodes to the label, whatever the label holds.
-/

namespace ReadmePress

open ReadmePress.Text

/-- The parts of a line between blanks. An empty line has none. -/
def lineParts (line : String) : List (List Char) :=
  if line = "" then [] else split ' ' line.toList

namespace BadgeLabels

/-- Takes the opening and the closing off a part and decodes what is between them. -/
def labelBetween? (opening closing : String) (part : List Char) : Option String := do
  let opened ← part.dropPrefix? opening.toList
  let encoded ← opened.dropSuffix? closing.toList
  (percentDecode? encoded).map String.ofList

/-- Reads a line of badges. -/
def ofLine (line : String) : BadgeLabels :=
  { license := (lineParts line).findSome? (labelBetween? licenseOpening licenseClosing)
    node := (lineParts line).findSome? (labelBetween? nodeOpening nodeClosing)
    typescript := (lineParts line).contains typescriptBadge.toList }

/-- The same labels with empty ones left out. -/
def withoutEmpty (labels : BadgeLabels) : BadgeLabels :=
  { labels with
    license := labels.license.filter (· != "")
    node := labels.node.filter (· != "") }

theorem badge_text (opening label closing : String) :
    (badge opening label closing).toList =
      opening.toList ++ percentEncode label.toList ++ closing.toList := by
  rw [badge, String.toList_append, String.toList_append, String.toList_ofList]

theorem label_of_badge (opening label closing : String) :
    labelBetween? opening closing (badge opening label closing).toList = some label := by
  have opened : (badge opening label closing).toList.dropPrefix? opening.toList =
      some (percentEncode label.toList ++ closing.toList) := by
    rw [badge_text, List.append_assoc]
    exact List.dropPrefix?_append_of_beq _ (by simp)
  have encoded : (percentEncode label.toList ++ closing.toList).dropSuffix? closing.toList =
      some (percentEncode label.toList) :=
    List.dropSuffix?_eq_some_iff.mpr ⟨closing.toList, rfl, by simp⟩
  simp only [labelBetween?, opened, Option.bind_eq_bind, Option.bind_some, encoded,
    percent_decode_encoded, Option.map_some, String.ofList_toList]

theorem blank_not_in_address_part (part : List Char) (isPart : IsAddressPart part) :
    ' ' ∉ part := by
  have digits : ∀ digit ∈ "0123456789ABCDEF".toList, ' ' ≠ digit := by simp
  induction isPart with
  | nothing => exact List.not_mem_nil
  | kept character rest isKept more induction =>
      have notBlank : ' ' ≠ character := by
        rintro rfl
        exact absurd isKept (by unfold IsKeptCharacter; decide)
      simp [notBlank, induction]
  | escape high low rest highDigit lowDigit more induction =>
      simp [digits high highDigit, digits low lowDigit, induction]

theorem blank_not_in_badge (opening label closing : String) (opens : ' ' ∉ opening.toList)
    (closes : ' ' ∉ closing.toList) : ' ' ∉ (badge opening label closing).toList := by
  have inLabel := blank_not_in_address_part _ (encoded_is_address_part label.toList)
  rw [badge_text]
  simp [opens, inLabel, closes]

theorem mem_badges (labels : BadgeLabels) (shown : String) (member : shown ∈ labels.badges) :
    (∃ label, shown = badge licenseOpening label licenseClosing) ∨
      (∃ label, shown = badge nodeOpening label nodeClosing) ∨ shown = typescriptBadge := by
  simp only [badges, List.mem_append] at member
  rcases member with (isLicense | isNode) | isTyping
  · obtain ⟨label, -, rfl⟩ := List.mem_map.mp isLicense
    exact Or.inl ⟨label, rfl⟩
  · obtain ⟨label, -, rfl⟩ := List.mem_map.mp isNode
    exact Or.inr (Or.inl ⟨label, rfl⟩)
  · split at isTyping
    next => exact Or.inr (Or.inr (List.mem_singleton.mp isTyping))
    next => simp at isTyping

theorem badge_is_one_part (labels : BadgeLabels) (shown : String) (member : shown ∈ labels.badges) :
    shown.toList ≠ [] ∧ ' ' ∉ shown.toList := by
  rcases mem_badges labels shown member with ⟨label, rfl⟩ | ⟨label, rfl⟩ | rfl
  · refine ⟨?_, blank_not_in_badge _ label _ (by decide) (by decide)⟩
    rw [badge_text]
    exact List.cons_ne_nil _ _
  · refine ⟨?_, blank_not_in_badge _ label _ (by decide) (by decide)⟩
    rw [badge_text]
    exact List.cons_ne_nil _ _
  · decide

/-- Between blanks a line has its badges, one after the other. -/
theorem parts_of_line (labels : BadgeLabels) :
    lineParts labels.line = labels.badges.map String.toList := by
  have blank : " ".toList = [' '] := rfl
  have joined : labels.line.toList = [' '].intercalate (labels.badges.map String.toList) := by
    rw [BadgeLabels.line, String.toList_intercalate, blank]
  have oneParts : ∀ part ∈ labels.badges.map String.toList, part ≠ [] ∧ ' ' ∉ part := by
    intro part member
    obtain ⟨shown, isShown, rfl⟩ := List.mem_map.mp member
    exact badge_is_one_part labels shown isShown
  cases parts : labels.badges.map String.toList with
  | nil =>
      rw [parts] at joined
      exact if_pos (String.toList_inj.mp joined)
  | cons first rest =>
      rw [parts] at joined oneParts
      have notEmpty : labels.line ≠ "" := by
        intro isEmpty
        have inLine := infix_of_intercalate [' '] first _ (List.mem_cons_self (l := rest))
        rw [← joined, isEmpty] at inLine
        exact (oneParts first List.mem_cons_self).1 (List.infix_nil.mp inLine)
      rw [lineParts, if_neg notEmpty, split_eq_split_on, joined]
      exact List.splitOn_intercalate ' ' (fun part member => (oneParts part member).2)
        (List.cons_ne_nil _ _)

/-- A part that begins otherwise is not read as a badge with an opening. -/
theorem label_of_other (opening closing : String) (part : List Char) (first : Char)
    (opens : opening.toList.head? = some first) (other : part.head? ≠ some first) :
    labelBetween? opening closing part = none := by
  have closed : part.dropPrefix? opening.toList = none := by
    rw [← Option.not_isSome_iff_eq_none, Option.isSome_iff_exists]
    rintro ⟨rest, opened⟩
    obtain ⟨front, rfl, same⟩ := List.dropPrefix?_eq_some_iff.mp opened
    rw [beq_iff_eq] at same
    subst same
    apply other
    rw [List.head?_append, opens]
    rfl
  rw [labelBetween?, closed]
  rfl

theorem badge_starts (opening label closing : String) (first : Char)
    (opens : opening.toList.head? = some first) :
    (badge opening label closing).toList.head? = some first := by
  rw [badge_text, List.append_assoc, List.head?_append, opens]
  rfl

/-- The parts that tell of a label: one, or none without a label. -/
def labelParts (opening closing : String) (label : Option String) : List (List Char) :=
  label.toList.map fun text => (badge opening text closing).toList

/-- The part that tells of typing. -/
def typingParts (typescript : Bool) : List (List Char) :=
  if typescript then [typescriptBadge.toList] else []

theorem parts_by_kind (labels : BadgeLabels) :
    lineParts labels.line =
      labelParts licenseOpening licenseClosing labels.withoutEmpty.license
        ++ labelParts nodeOpening nodeClosing labels.withoutEmpty.node
        ++ typingParts labels.typescript := by
  have typing : (if labels.typescript then [typescriptBadge] else []).map String.toList =
      typingParts labels.typescript := by
    rw [typingParts]
    split <;> rfl
  rw [parts_of_line, badges, List.map_append, List.map_append, List.map_map, List.map_map, typing]
  rfl

section Reading

theorem own_label_read (opening closing : String) (label : Option String) :
    (labelParts opening closing label).findSome? (labelBetween? opening closing) = label := by
  cases label with
  | none => rfl
  | some text =>
      have parts : labelParts opening closing (some text) =
        [(badge opening text closing).toList] := rfl
      rw [parts, List.findSome?_singleton, label_of_badge]

theorem other_label_skipped (opening closing other otherClosing : String) (label : Option String)
    (first second : Char) (opens : opening.toList.head? = some first)
    (otherOpens : other.toList.head? = some second) (different : first ≠ second) :
    (labelParts opening closing label).findSome? (labelBetween? other otherClosing) = none := by
  rw [List.findSome?_eq_none_iff]
  intro part member
  obtain ⟨text, -, rfl⟩ := List.mem_map.mp member
  apply label_of_other other otherClosing _ second otherOpens
  rw [badge_starts opening text closing first opens]
  simpa using different

theorem typing_skipped (typescript : Bool) :
    (typingParts typescript).findSome? (labelBetween? licenseOpening licenseClosing) = none ∧
      (typingParts typescript).findSome? (labelBetween? nodeOpening nodeClosing) = none := by
  cases typescript <;> decide +kernel

/-- A part from which a label is read is not the one that tells of typing. -/
theorem label_is_no_typing (opening closing : String) (label : Option String)
    (noLabel : labelBetween? opening closing typescriptBadge.toList = none) :
    typescriptBadge.toList ∉ labelParts opening closing label := by
  intro member
  obtain ⟨text, -, same⟩ := List.mem_map.mp member
  rw [← same, label_of_badge] at noLabel
  exact absurd noLabel (by simp)

theorem line_read_back (labels : BadgeLabels) : ofLine labels.line = labels.withoutEmpty := by
  have license : (lineParts labels.line).findSome? (labelBetween? licenseOpening licenseClosing) =
      labels.withoutEmpty.license := by
    rw [parts_by_kind, List.findSome?_append, List.findSome?_append, own_label_read,
      other_label_skipped nodeOpening nodeClosing licenseOpening licenseClosing _ '!' '[' rfl rfl
        (by decide), (typing_skipped labels.typescript).1, Option.or_none, Option.or_none]
  have node : (lineParts labels.line).findSome? (labelBetween? nodeOpening nodeClosing) =
      labels.withoutEmpty.node := by
    rw [parts_by_kind, List.findSome?_append, List.findSome?_append, own_label_read,
      other_label_skipped licenseOpening licenseClosing nodeOpening nodeClosing _ '[' '!' rfl rfl
        (by decide), (typing_skipped labels.typescript).2, Option.none_or, Option.or_none]
  have noLicense := label_is_no_typing licenseOpening licenseClosing labels.withoutEmpty.license
    (by decide +kernel)
  have noNode := label_is_no_typing nodeOpening nodeClosing labels.withoutEmpty.node
    (by decide +kernel)
  have typing : (lineParts labels.line).contains typescriptBadge.toList = labels.typescript := by
    rw [parts_by_kind, Bool.eq_iff_iff, List.contains_iff_mem, List.mem_append, List.mem_append,
      or_iff_right (not_or.mpr ⟨noLicense, noNode⟩), typingParts]
    cases labels.typescript <;> simp
  rw [ofLine, license, node, typing]
  rfl

end Reading

end BadgeLabels

/-- What a badge can tell of. -/
inductive BadgeKind where
  | license
  | node
  | typescript

namespace BadgeFacts

/-- A part of a line that tells a label between a fixed opening and a fixed closing. -/
def TellsLabel (opening closing : String) (label : Option WideText) (part : List Char) : Prop :=
  ∃ text encoded, label = some (WideText.ofChars text) ∧
    part = opening.toList ++ encoded ++ closing.toList ∧
    IsAddressPart encoded ∧ percentDecode? encoded = some text

/-- The part of a line that tells of one kind. -/
def Tells (facts : BadgeFacts) : BadgeKind → List Char → Prop
  | .license => TellsLabel BadgeLabels.licenseOpening BadgeLabels.licenseClosing facts.license
  | .node => TellsLabel BadgeLabels.nodeOpening BadgeLabels.nodeClosing facts.node
  | .typescript => fun part => part = BadgeLabels.typescriptBadge.toList

/-- What there is something to tell of: labels that are not empty, and typing. -/
def has (facts : BadgeFacts) : BadgeKind → Bool
  | .license => !(facts.license.getD []).isEmpty
  | .node => !(facts.node.getD []).isEmpty
  | .typescript => facts.typescript

/-- The same facts with empty labels left out. -/
def withoutEmpty (facts : BadgeFacts) : BadgeFacts :=
  { facts with
    license := facts.license.filter (!·.isEmpty)
    node := facts.node.filter (!·.isEmpty) }

/-- The facts that labels tell. -/
def ofLabels (labels : BadgeLabels) : BadgeFacts :=
  { license := labels.license.map WideText.ofString
    node := labels.node.map WideText.ofString
    typescript := labels.typescript }

/-- Reads a line of badges. -/
def ofLine (line : String) : BadgeFacts := ofLabels (BadgeLabels.ofLine line)

/-- The texts to be encoded, in the order in which they are. -/
def labelTexts (facts : BadgeFacts) : List WideText := facts.license.toList ++ facts.node.toList

/-- The first of some texts that holds a lone surrogate. -/
def firstUnencodable? (texts : List WideText) : Option WideText :=
  texts.find? fun text => text.toChars?.isNone

theorem plain_label_cases (label : Option WideText) :
    (∃ plain : Option String, plainLabel label = .ok plain ∧
        label = plain.map WideText.ofString ∧ firstUnencodable? label.toList = none) ∨
      ∃ text, plainLabel label = .error { text := text } ∧
        firstUnencodable? label.toList = some text := by
  cases label with
  | none => exact Or.inl ⟨none, rfl, rfl, rfl⟩
  | some text =>
      cases characters : text.toChars? with
      | none =>
          refine Or.inr ⟨text, ?_, ?_⟩
          · simp [plainLabel, WideText.encodable, characters, Except.map]
          · simp [firstUnencodable?, characters]
      | some plain =>
          have isPlain := (WideText.toChars?_eq_some_iff text plain).mp characters
          refine Or.inl ⟨some (String.ofList plain), ?_, ?_, ?_⟩
          · simp [plainLabel, WideText.encodable, characters, Except.map]
          · simp [isPlain, WideText.ofString]
          · simp [firstUnencodable?, characters]

/-- Either all labels can be written, or the first one that cannot is refused. -/
theorem labels_cases (facts : BadgeFacts) :
    (∃ labels, facts.labels = .ok labels ∧ facts = ofLabels labels ∧
        firstUnencodable? facts.labelTexts = none) ∨
      ∃ text, facts.labels = .error { text := text } ∧
        firstUnencodable? facts.labelTexts = some text := by
  rw [labelTexts, firstUnencodable?, List.find?_append, ← firstUnencodable?, ← firstUnencodable?]
  rcases plain_label_cases facts.license with
    ⟨license, licensePlain, isLicense, licenseFine⟩ | ⟨text, licenseRefused, isFirst⟩
  · rw [licenseFine, Option.none_or]
    rcases plain_label_cases facts.node with
      ⟨node, nodePlain, isNode, nodeFine⟩ | ⟨text, nodeRefused, isFirst⟩
    · refine Or.inl ⟨{ license, node, typescript := facts.typescript }, ?_, ?_, nodeFine⟩
      · rw [labels, licensePlain, nodePlain]
        rfl
      · rw [ofLabels, ← isLicense, ← isNode]
    · refine Or.inr ⟨text, ?_, isFirst⟩
      rw [labels, licensePlain, nodeRefused]
      rfl
  · refine Or.inr ⟨text, ?_, ?_⟩
    · rw [labels, licenseRefused]
      rfl
    · rw [isFirst, Option.some_or]

section Telling

theorem badge_tells (opening label closing : String) :
    TellsLabel opening closing (some (WideText.ofString label))
      (BadgeLabels.badge opening label closing).toList :=
  ⟨label.toList, percentEncode label.toList, rfl, BadgeLabels.badge_text opening label closing,
    encoded_is_address_part label.toList, percent_decode_encoded label.toList⟩

theorem of_string_empty_iff (text : String) : (WideText.ofString text).isEmpty = (text == "") := by
  rw [WideText.ofString, WideText.ofChars, Bool.eq_iff_iff, List.isEmpty_iff, List.map_eq_nil_iff,
    String.toList_eq_nil_iff, beq_iff_eq]

/-- A label has a part exactly when it is not empty. -/
theorem label_told (facts : BadgeFacts) (kind : BadgeKind) (opening closing : String)
    (label : Option String)
    (isPresent : facts.has kind = !((label.map WideText.ofString).getD []).isEmpty)
    (isTold : facts.Tells kind = TellsLabel opening closing (label.map WideText.ofString)) :
    List.Forall₂ facts.Tells ([kind].filter facts.has)
      (BadgeLabels.labelParts opening closing (label.filter (· != ""))) := by
  rw [List.filter_singleton, isPresent]
  cases label with
  | none => exact .nil
  | some text =>
      by_cases isEmpty : text = ""
      · rw [isEmpty]
        exact .nil
      · have present : Option.filter (· != "") (some text) = some text := by simp [isEmpty]
        have shown : (!(((some text).map WideText.ofString).getD []).isEmpty) = true := by
          simp [of_string_empty_iff, isEmpty]
        rw [present, shown]
        refine .cons ?_ .nil
        rw [isTold]
        exact badge_tells opening text closing

theorem typing_told (facts : BadgeFacts) :
    List.Forall₂ facts.Tells ([BadgeKind.typescript].filter facts.has)
      (BadgeLabels.typingParts facts.typescript) := by
  have isPresent : facts.has .typescript = facts.typescript := rfl
  rw [List.filter_singleton, isPresent, BadgeLabels.typingParts]
  cases facts.typescript with
  | false => exact .nil
  | true => exact .cons rfl .nil

theorem kinds_told (labels : BadgeLabels) :
    List.Forall₂ (ofLabels labels).Tells
      ([.license, .node, .typescript].filter (ofLabels labels).has) (lineParts labels.line) := by
  have kinds : [BadgeKind.license, .node, .typescript] = [.license] ++ [.node] ++ [.typescript] :=
    rfl
  rw [BadgeLabels.parts_by_kind, kinds, List.filter_append, List.filter_append]
  apply List.rel_append
  · apply List.rel_append
    · exact label_told _ .license BadgeLabels.licenseOpening BadgeLabels.licenseClosing
        labels.license rfl rfl
    · exact label_told _ .node BadgeLabels.nodeOpening BadgeLabels.nodeClosing labels.node rfl rfl
  · exact typing_told (ofLabels labels)

theorem without_empty_of_labels (labels : BadgeLabels) :
    ofLabels labels.withoutEmpty = (ofLabels labels).withoutEmpty := by
  have filtered (label : Option String) :
      (label.filter (· != "")).map WideText.ofString =
        (label.map WideText.ofString).filter (!·.isEmpty) := by
    cases label with
    | none => rfl
    | some text =>
        by_cases isEmpty : text = ""
        · rw [isEmpty]
          rfl
        · simp [Option.filter, of_string_empty_iff, isEmpty]
  rw [ofLabels, BadgeLabels.withoutEmpty, withoutEmpty, ofLabels, filtered, filtered]

end Telling

/-- Where every label has a UTF-8 form, there is a line of badges: it has one part for each thing
that there is to tell of, in a fixed order, and can be read back. Otherwise the first label that
has none is refused. -/
theorem badge_line_reads_back (facts : BadgeFacts) :
    ((∀ text ∈ facts.labelTexts, text.toChars? ≠ none) →
      ∃ line, facts.line = .ok line ∧
        List.Forall₂ facts.Tells ([.license, .node, .typescript].filter facts.has)
          (lineParts line) ∧
        ofLine line = facts.withoutEmpty) ∧
      ∀ text, firstUnencodable? facts.labelTexts = some text →
        facts.line = .error { text := text } := by
  rcases labels_cases facts with ⟨labels, found, isOf, allFine⟩ | ⟨first, refused, isFirst⟩
  · refine ⟨fun _ => ⟨labels.line, ?_, ?_, ?_⟩, ?_⟩
    · rw [line, found]
      rfl
    · rw [isOf]
      exact kinds_told labels
    · rw [ofLine, BadgeLabels.line_read_back, without_empty_of_labels, isOf]
    · intro text isFirst
      rw [allFine] at isFirst
      exact absurd isFirst (by simp)
  · refine ⟨fun fine => ?_, ?_⟩
    · have isNone := List.find?_some isFirst
      exact absurd (Option.isNone_iff_eq_none.mp isNone)
        (fine first (List.mem_of_find?_eq_some isFirst))
    · intro text isText
      rw [isFirst] at isText
      rw [line, refused, ← Option.some.inj isText]
      rfl

/-- Facts with every badge; one label looks like the closing of another and is no ASCII. -/
def everyBadge : BadgeFacts :=
  { license := some (WideText.ofString "-brightgreen) \u8bb8\u53ef")
    node := some (WideText.ofString ">=18 100%")
    typescript := true }

theorem every_badge_reads_back :
    (∀ text ∈ everyBadge.labelTexts, text.toChars? ≠ none) ∧
      ∃ line, everyBadge.line = .ok line ∧
        List.Forall₂ everyBadge.Tells [.license, .node, .typescript] (lineParts line) ∧
        ofLine line = everyBadge := by
  have writable : ∀ text ∈ everyBadge.labelTexts, text.toChars? ≠ none := by
    decide +kernel
  exact ⟨writable, (badge_line_reads_back everyBadge).1 writable⟩

/-- Facts whose license is half of a surrogate pair. -/
def surrogateLicense : BadgeFacts :=
  { license := some [.surrogate ⟨0, Nat.succ_pos 0x7ff⟩], node := none, typescript := false }

theorem surrogate_license_has_no_line :
    surrogateLicense.has .license = true ∧
      surrogateLicense.line = .error { text := [.surrogate ⟨0, Nat.succ_pos 0x7ff⟩] } ∧
      ¬ ∃ line, surrogateLicense.line = .ok line := by
  have refused : surrogateLicense.line =
      .error { text := [.surrogate ⟨0, Nat.succ_pos 0x7ff⟩] } := rfl
  refine ⟨rfl, refused, ?_⟩
  rw [refused]
  exact nofun

end BadgeFacts

end ReadmePress
