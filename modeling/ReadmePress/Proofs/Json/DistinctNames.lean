import ReadmePress.Json.Parser
import ReadmePress.Proofs.OrderedMap
import ReadmePress.Proofs.Outcome

/-!
No object that is read has a name twice. A name that is repeated in the text keeps its place and
takes the last value, at every level of nesting.
-/

namespace ReadmePress

open ReadmePress.Number ReadmePress.Text

namespace Json

/-- No object in the value has a name twice, and the value has not either. -/
inductive NamesDistinct : Json → Prop where
  | single (value : Json) (noArray : ∀ items, value ≠ .array items)
      (noObject : ∀ members, value ≠ .object members) : NamesDistinct value
  | array (items : List Json) (below : ∀ item ∈ items, NamesDistinct item) :
      NamesDistinct (.array items)
  | object (members : List (WideText × Json)) (distinct : (OrderedMap.keys members).Nodup)
      (below : ∀ entry ∈ members, NamesDistinct entry.2) : NamesDistinct (.object members)

/-- A reader gives only values without repeated names. -/
def ReadsDistinct (reader : Reader Json) : Prop :=
  ∀ text value rest, reader text = .ok (value, rest) → NamesDistinct value

theorem named_values_distinct : ∀ entry ∈ namedValues, NamesDistinct entry.2 := by
  simp only [namedValues, List.forall_mem_cons, List.not_mem_nil, false_implies, implies_true,
    and_true]
  exact ⟨.single _ nofun nofun, .single _ nofun nofun, .single _ nofun nofun,
    .single _ nofun nofun, .single _ nofun nofun, .single _ nofun nofun⟩

theorem read_number_distinct : ReadsDistinct readNumber := by
  intro text value rest read
  simp only [readNumber] at read
  split at read
  next => exact absurd read nofun
  next =>
    split at read
    · split at read
      next => 
        cases read
        exact .single _ nofun nofun
      next => exact absurd read nofun
    · cases read
      exact .single _ nofun nofun

theorem read_scalar_distinct : ReadsDistinct readScalar := by
  intro text value rest read
  rw [readScalar] at read
  split at read
  next found isNamed =>
    obtain ⟨entry, member, dropped⟩ := List.exists_of_findSome?_eq_some isNamed
    obtain ⟨after, -, rfl⟩ := Option.map_eq_some_iff.mp dropped
    cases read
    exact named_values_distinct entry member
  next => exact read_number_distinct text value rest read

theorem read_items_distinct (reader : Reader Json) (distinct : ReadsDistinct reader) (fuel : Nat)
    (text : List Char) (items : List Json) (rest : List Char)
    (read : readItems reader fuel text = .ok (items, rest)) :
    ∀ item ∈ items, NamesDistinct item := by
  induction fuel generalizing text items rest with
  | zero => exact absurd read nofun
  | succ fuel induction =>
      rw [readItems] at read
      obtain ⟨⟨item, after⟩, first, read⟩ := bind_succeeds _ _ _ read
      have here := distinct text item after first
      simp only at read
      split at read
      next =>
        cases read
        exact List.forall_mem_singleton.mpr here
      next more _ =>
        obtain ⟨⟨others, rest⟩, later, read⟩ := bind_succeeds _ _ _ read
        cases read
        exact List.forall_mem_cons.mpr ⟨here, induction _ others rest later⟩
      next => exact absurd read nofun

theorem read_members_distinct (reader : Reader Json) (distinct : ReadsDistinct reader)
    (fuel : Nat) (text : List Char) (members : List (WideText × Json)) (rest : List Char)
    (read : readMembers reader fuel text = .ok (members, rest)) :
    ∀ entry ∈ members, NamesDistinct entry.2 := by
  induction fuel generalizing text members rest with
  | zero => exact absurd read nofun
  | succ fuel induction =>
      rw [readMembers] at read
      obtain ⟨⟨name, due⟩, -, read⟩ := bind_succeeds _ _ _ read
      obtain ⟨⟨value, after⟩, first, read⟩ := bind_succeeds _ _ _ read
      have here := distinct due value after first
      simp only at read
      split at read
      next =>
        cases read
        exact List.forall_mem_singleton.mpr here
      next more _ =>
        obtain ⟨⟨others, rest⟩, later, read⟩ := bind_succeeds _ _ _ read
        cases read
        exact List.forall_mem_cons.mpr ⟨here, induction _ others rest later⟩
      next => exact absurd read nofun

theorem read_value_distinct (depth : Nat) : ReadsDistinct (readValue depth) := by
  induction depth with
  | zero =>
      intro text value rest read
      unfold readValue at read
      split at read
      next => exact absurd read nofun
      next => exact absurd read nofun
      next =>
        obtain ⟨found, -, same⟩ := map_succeeds _ _ _ read
        cases same
        exact .single _ nofun nofun
      next => exact read_scalar_distinct _ value rest read
  | succ depth induction =>
      intro text value rest read
      unfold readValue at read
      split at read
      next =>
        split at read
        next =>
          cases read
          exact .array [] nofun
        next =>
          obtain ⟨⟨items, after⟩, found, same⟩ := map_succeeds _ _ _ read
          cases same
          exact .array items (read_items_distinct _ induction _ _ items rest found)
      next =>
        split at read
        next =>
          cases read
          exact .object [] List.nodup_nil nofun
        next =>
          obtain ⟨⟨members, after⟩, found, same⟩ := map_succeeds _ _ _ read
          cases same
          -- The members are put one by one, so what is kept of them has no name twice.
          have below := read_members_distinct _ induction _ _ members rest found
          exact .object _ (OrderedMap.of_entries_keys members) fun entry member =>
            below entry (OrderedMap.mem_of_entries members entry member)
      next =>
        obtain ⟨found, -, same⟩ := map_succeeds _ _ _ read
        cases same
        exact .single _ nofun nofun
      next => exact read_scalar_distinct _ value rest read

theorem parse_distinct (text : List Char) (value : Json) (parsed : parse text = .ok value) :
    NamesDistinct value := by
  rw [parse] at parsed
  split at parsed
  next => exact absurd parsed nofun
  next =>
    rw [parseWhole] at parsed
    obtain ⟨⟨found, rest⟩, read, whole⟩ := bind_succeeds _ _ _ parsed
    simp only at whole
    split at whole
    next =>
      cases whole
      exact read_value_distinct nestingLimit _ _ rest read
    next => exact absurd whole nofun

end Json

end ReadmePress
