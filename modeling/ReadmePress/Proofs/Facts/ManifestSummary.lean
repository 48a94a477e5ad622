import ReadmePress.Facts.Manifest
import ReadmePress.Proofs.Json.DistinctNames
import ReadmePress.Proofs.Json.RoundTrip

/-!
The summary of a manifest is a manifest with the same fields. A manifest that comes from a file
has no name twice in a map, so its summary is written as it is and, where no text in it holds a
surrogate, read back field by field.
-/

namespace ReadmePress

open ReadmePress.Text

/-- No half of a surrogate pair stands in the text. -/
def Text.WideText.HoldsNoSurrogate (text : WideText) : Prop :=
  ∀ offset, CodePoint.surrogate offset ∉ text

theorem no_surrogate_iff (text : WideText) :
    text.HoldsNoSurrogate ↔ ∃ characters, text = WideText.ofChars characters := by
  constructor
  · intro plain
    induction text with
    | nil => exact ⟨[], rfl⟩
    | cons point rest induction =>
        obtain ⟨characters, same⟩ := induction fun offset member =>
          plain offset (List.mem_cons_of_mem _ member)
        cases point with
        | surrogate offset => exact absurd List.mem_cons_self (plain offset)
        | scalar character => exact ⟨character :: characters, congrArg (_ :: ·) same⟩
  · rintro ⟨characters, rfl⟩ offset member
    obtain ⟨character, -, same⟩ := List.mem_map.mp member
    exact absurd same nofun

theorem of_string_injective (text other : String)
    (same : WideText.ofString text = WideText.ofString other) : text = other := by
  have characters := congrArg WideText.characters same
  simp only [WideText.ofString, characters_of_chars] at characters
  exact String.toList_inj.mp characters

/-- A member of an object that is made of named values. -/
theorem Json.member_of_named (entries : List (String × Json)) (name : String) :
    Json.member? (entries.map fun (name, value) => (WideText.ofString name, value)) name =
      OrderedMap.find? entries name := by
  induction entries with
  | nil => rfl
  | cons entry rest induction =>
      obtain ⟨known, value⟩ := entry
      rw [Json.member?] at induction ⊢
      rw [List.map_cons, OrderedMap.find?, OrderedMap.find?, induction]
      by_cases same : known = name
      · rw [if_pos same, if_pos (congrArg WideText.ofString same)]
      · rw [if_neg same, if_neg (mt (of_string_injective known name) same)]

namespace Manifest

/-- The fields of a summary under their names. -/
def namedFields (manifest : Manifest) : List (String × Json) :=
  [("name", textValue manifest.name), ("version", textValue manifest.version),
    ("description", textValue manifest.description), ("scripts", mapValue manifest.scripts),
    ("dependencies", mapValue manifest.dependencies),
    ("devDependencies", mapValue manifest.devDependencies),
    ("license", textValue manifest.license), ("engines", mapValue manifest.engines)]

def fieldNames : List String :=
  ["name", "version", "description", "scripts", "dependencies", "devDependencies", "license",
    "engines"]

def maps (manifest : Manifest) : List TextMap :=
  [manifest.scripts, manifest.dependencies, manifest.devDependencies, manifest.engines].filterMap
    id

/-- Every text in a manifest, the names in its maps with them. -/
def texts (manifest : Manifest) : List WideText :=
  [manifest.name, manifest.version, manifest.description, manifest.license].filterMap id ++
    manifest.maps.flatMap fun map => map.flatMap fun (name, text) => [name, text]

theorem field_of_text (text : Option WideText) : fieldText? (textValue text) = text := by
  cases text <;> rfl

theorem field_of_map (map : Option TextMap) : fieldMap? (mapValue map) = map := by
  cases map with
  | none => rfl
  | some entries =>
      change some ((entries.map fun entry => (entry.1, Json.string entry.2)).map
        fun member => (member.1, member.2.plain)) = some entries
      rw [List.map_map]
      exact congrArg some (List.map_id entries)

theorem field_names_distinct (manifest : Manifest) :
    (OrderedMap.keys manifest.namedFields).Nodup := by
  change fieldNames.Nodup
  decide

section Fields

variable (manifest : Manifest)

/-- The members of a summary. -/
def summaryMembers : List (WideText × Json) :=
  manifest.namedFields.map fun (name, value) => (WideText.ofString name, value)

theorem summary_field (name : String) (value : Json)
    (member : (name, value) ∈ manifest.namedFields) :
    Json.member? manifest.summaryMembers name = some value := by
  rw [summaryMembers, Json.member_of_named]
  exact OrderedMap.find_of_mem _ name value manifest.field_names_distinct member

theorem summary_text_field (name : String) (text : Option WideText)
    (member : (name, textValue text) ∈ manifest.namedFields) :
    (Json.member? manifest.summaryMembers name).bind fieldText? = text := by
  rw [summary_field manifest name _ member]
  exact field_of_text text

theorem summary_map_field (name : String) (map : Option TextMap)
    (member : (name, mapValue map) ∈ manifest.namedFields) :
    (Json.member? manifest.summaryMembers name).bind fieldMap? = map := by
  rw [summary_field manifest name _ member]
  exact field_of_map map

/-- The manifest that a summary holds is the summarised one. -/
theorem summary_manifest : ofMembers manifest.summaryMembers = manifest := by
  have text := summary_text_field manifest
  have map := summary_map_field manifest
  simp only [ofMembers]
  rw [text "name" manifest.name (by simp [namedFields]),
    text "version" manifest.version (by simp [namedFields]),
    text "description" manifest.description (by simp [namedFields]),
    map "scripts" manifest.scripts (by simp [namedFields]),
    map "dependencies" manifest.dependencies (by simp [namedFields]),
    map "devDependencies" manifest.devDependencies (by simp [namedFields]),
    text "license" manifest.license (by simp [namedFields]),
    map "engines" manifest.engines (by simp [namedFields])]

theorem summary_names : manifest.summaryMembers.map Prod.fst = fieldNames.map WideText.ofString :=
  rfl

theorem summary_eq : manifest.summary = .object manifest.summaryMembers := rfl

end Fields

section Maps

theorem field_map_distinct (value : Json) (distinct : value.NamesDistinct) (map : TextMap)
    (isField : fieldMap? value = some map) : (OrderedMap.keys map).Nodup := by
  cases distinct with
  | single value noArray noObject =>
      cases value with
      | object members => exact absurd rfl (noObject members)
      | _ => exact absurd isField nofun
  | array items => exact absurd isField nofun
  | object members distinct =>
      obtain rfl := Option.some.inj isField
      rw [OrderedMap.keys, List.map_map]
      exact distinct

/-- The manifest of an object without repeated names has no name twice in a map. -/
theorem maps_distinct (members : List (WideText × Json))
    (distinct : (Json.object members).NamesDistinct) :
    ∀ map ∈ (ofMembers members).maps, (OrderedMap.keys map).Nodup := by
  have below : ∀ entry ∈ members, entry.2.NamesDistinct := by
    cases distinct with
    | single value noArray noObject => exact absurd rfl (noObject members)
    | object members distinct below => exact below
  have ofField (name : String) (map : TextMap)
      (isField : (Json.member? members name).bind fieldMap? = some map) :
      (OrderedMap.keys map).Nodup := by
    obtain ⟨value, isMember, isField⟩ := Option.bind_eq_some_iff.mp isField
    have member := OrderedMap.mem_of_find members _ value isMember
    exact field_map_distinct value (below _ member) map isField
  intro map member
  simp only [maps, ofMembers, List.mem_filterMap, List.mem_cons, List.not_mem_nil, or_false,
    id_eq, exists_eq_or_imp, exists_eq_left] at member
  rcases member with isField | isField | isField | isField
  all_goals exact ofField _ map isField

end Maps

section Writing

theorem text_value_textual (depth : Nat) (text : Option WideText)
    (plain : ∀ found ∈ text, found.HoldsNoSurrogate) :
    Json.IsTextual depth (textValue text) := by
  cases text with
  | none => exact .null depth
  | some found =>
      obtain ⟨characters, rfl⟩ := (no_surrogate_iff found).mp (plain found rfl)
      exact .text depth characters

theorem map_value_textual (depth : Nat) (map : Option TextMap)
    (distinct : ∀ found ∈ map, (OrderedMap.keys found).Nodup)
    (plain : ∀ found ∈ map, ∀ entry ∈ found,
      entry.1.HoldsNoSurrogate ∧ entry.2.HoldsNoSurrogate) :
    Json.IsTextual (depth + 1) (mapValue map) := by
  cases map with
  | none => exact .null (depth + 1)
  | some found =>
      apply Json.IsTextual.object
      · have names := distinct found rfl
        rw [OrderedMap.keys] at names ⊢
        rw [List.map_map]
        exact names
      · intro entry member
        obtain ⟨field, isField, rfl⟩ := List.mem_map.mp member
        exact (no_surrogate_iff _).mp (plain found rfl field isField).1
      · intro entry member
        obtain ⟨field, isField, rfl⟩ := List.mem_map.mp member
        exact text_value_textual depth (some field.2) fun text isText => by
          obtain rfl := Option.some.inj isText
          exact (plain found rfl field isField).2

theorem summary_textual (manifest : Manifest) (depth : Nat)
    (distinct : ∀ map ∈ manifest.maps, (OrderedMap.keys map).Nodup)
    (plain : ∀ text ∈ manifest.texts, text.HoldsNoSurrogate) :
    Json.IsTextual (depth + 2) manifest.summary := by
  have text (field : Option WideText)
      (isField : field ∈
        [manifest.name, manifest.version, manifest.description, manifest.license]) :
      Json.IsTextual (depth + 1) (textValue field) := by
    apply text_value_textual
    intro found isFound
    exact plain found
      (List.mem_append_left _ (List.mem_filterMap.mpr ⟨field, isField, isFound⟩))
  have map (field : Option TextMap)
      (isField : field ∈
        [manifest.scripts, manifest.dependencies, manifest.devDependencies, manifest.engines]) :
      Json.IsTextual (depth + 1) (mapValue field) := by
    apply map_value_textual
    · intro found isFound
      exact distinct found (List.mem_filterMap.mpr ⟨field, isField, isFound⟩)
    · intro found isFound entry member
      have isMap : found ∈ manifest.maps := List.mem_filterMap.mpr ⟨field, isField, isFound⟩
      have inTexts (text : WideText) (inEntry : text ∈ [entry.1, entry.2]) :
          text.HoldsNoSurrogate := by
        apply plain text
        apply List.mem_append_right
        exact List.mem_flatMap.mpr ⟨found, isMap, List.mem_flatMap.mpr ⟨entry, member, inEntry⟩⟩
      exact ⟨inTexts _ (by simp), inTexts _ (by simp)⟩
  rw [summary_eq]
  apply Json.IsTextual.object
  · rw [OrderedMap.keys, summary_names]
    decide
  · intro entry member
    obtain ⟨field, isField, rfl⟩ := List.mem_map.mp member
    exact ⟨field.1.toList, rfl⟩
  · intro entry member
    obtain ⟨field, isField, rfl⟩ := List.mem_map.mp member
    simp only [namedFields, List.mem_cons, List.not_mem_nil, or_false] at isField
    rcases isField with rfl | rfl | rfl | rfl | rfl | rfl | rfl | rfl
    · exact text _ (by simp)
    · exact text _ (by simp)
    · exact text _ (by simp)
    · exact map _ (by simp)
    · exact map _ (by simp)
    · exact map _ (by simp)
    · exact text _ (by simp)
    · exact map _ (by simp)

/-- Where no text holds a surrogate the written summary is a text that is read as the summary
and comes through a file as it is. -/
theorem written_summary (manifest : Manifest)
    (distinct : ∀ map ∈ manifest.maps, (OrderedMap.keys map).Nodup)
    (plain : ∀ text ∈ manifest.texts, text.HoldsNoSurrogate) :
    ∃ text, (Json.render manifest.summary).toString? = some text ∧ '\r' ∉ text.toList ∧
      Json.parse text.toList = .ok (.object manifest.summaryMembers) := by
  have textual : Json.IsTextual Json.nestingLimit manifest.summary :=
    summary_textual manifest 958 distinct plain
  have storable := Json.written_storable _ 0 _ textual
  obtain ⟨same, noReturn⟩ := storable_text _ storable
  refine ⟨String.ofList (Json.render manifest.summary).characters, ?_, ?_, ?_⟩
  · rw [WideText.toString?_eq_some_iff, WideText.ofString, String.toList_ofList]
    exact same
  · rw [String.toList_ofList]
    exact noReturn
  · rw [String.toList_ofList, ← summary_eq]
    exact Json.parse_rendered _ textual

end Writing

end Manifest

end ReadmePress
