import ReadmePress.OrderedMap

/-!
What a map finds. A value that is found under a key is an entry of the map, every key finds one,
and where no key appears twice every entry is found. Putting what is found changes nothing.

A map that is made of entries has no key twice and no other entries, and entries of distinct keys
are a map as they are.
-/

namespace ReadmePress.OrderedMap

variable {Key Value : Type} [DecidableEq Key]

theorem mem_of_find (map : OrderedMap Key Value) (key : Key) (value : Value)
    (found : map.find? key = some value) : (key, value) ∈ map := by
  induction map with
  | nil => simp [find?] at found
  | cons entry rest induction =>
      obtain ⟨known, held⟩ := entry
      rw [find?] at found
      split at found
      next same =>
        rw [same, Option.some.inj found]
        exact List.mem_cons_self
      next => exact List.mem_cons_of_mem _ (induction found)

theorem find_of_key (map : OrderedMap Key Value) (key : Key) (isKey : key ∈ map.keys) :
    ∃ value, map.find? key = some value := by
  induction map with
  | nil => simp [keys] at isKey
  | cons entry rest induction =>
      obtain ⟨known, held⟩ := entry
      rw [find?]
      split
      next => exact ⟨held, rfl⟩
      next different =>
        rcases List.mem_cons.mp isKey with same | isLater
        · exact absurd same.symm different
        · exact induction isLater

theorem find_of_mem (map : OrderedMap Key Value) (key : Key) (value : Value)
    (distinct : map.keys.Nodup) (member : (key, value) ∈ map) : map.find? key = some value := by
  induction map with
  | nil => simp at member
  | cons entry rest induction =>
      obtain ⟨known, held⟩ := entry
      obtain ⟨notLater, restDistinct⟩ := List.nodup_cons.mp distinct
      rw [find?]
      rcases List.mem_cons.mp member with same | isLater
      · obtain ⟨rfl, rfl⟩ := Prod.mk.inj same
        exact if_pos rfl
      · have different : known ≠ key := by
          rintro rfl
          exact notLater (List.mem_map.mpr ⟨(known, value), isLater, rfl⟩)
        rw [if_neg different]
        exact induction restDistinct isLater

/-- Where no key appears twice, the order of the entries does not matter to what is found. -/
theorem find_of_perm (map other : OrderedMap Key Value) (key : Key) (distinct : map.keys.Nodup)
    (order : List.Perm map other) : other.find? key = map.find? key := by
  have otherDistinct : other.keys.Nodup := ((order.map Prod.fst).nodup_iff).mp distinct
  cases found : map.find? key with
  | some value =>
      have member := order.mem_iff.mp (mem_of_find map key value found)
      exact find_of_mem other key value otherDistinct member
  | none =>
      cases otherFound : other.find? key with
      | none => rfl
      | some value =>
          have member := order.mem_iff.mpr (mem_of_find other key value otherFound)
          exact absurd (found.symm.trans (find_of_mem map key value distinct member)) nofun

theorem put_found (map : OrderedMap Key Value) (key : Key) (value : Value)
    (found : map.find? key = some value) : map.put key value = map := by
  induction map with
  | nil => simp [find?] at found
  | cons entry rest induction =>
      obtain ⟨known, held⟩ := entry
      rw [find?] at found
      rw [put]
      split at found
      next same => rw [if_pos same, Option.some.inj found]
      next different => rw [if_neg different, induction found]

theorem put_absent (map : OrderedMap Key Value) (key : Key) (value : Value)
    (absent : key ∉ map.keys) : map.put key value = map ++ [(key, value)] := by
  induction map with
  | nil => rfl
  | cons entry rest induction =>
      obtain ⟨notHere, notLater⟩ := not_or.mp (mt List.mem_cons.mpr absent)
      rw [put, if_neg (Ne.symm notHere), induction notLater]
      rfl

theorem mem_put (map : OrderedMap Key Value) (key : Key) (value : Value) (entry : Key × Value)
    (member : entry ∈ map.put key value) : entry = (key, value) ∨ entry ∈ map := by
  induction map with
  | nil => exact Or.inl (List.mem_singleton.mp member)
  | cons first rest induction =>
      rw [put] at member
      split at member
      next same =>
        rw [same] at member
        exact (List.mem_cons.mp member).imp_right (List.mem_cons_of_mem _)
      next =>
        rcases List.mem_cons.mp member with isFirst | isLater
        · exact Or.inr (isFirst ▸ List.mem_cons_self)
        · exact (induction isLater).imp_right (List.mem_cons_of_mem _)

theorem keys_put_distinct (map : OrderedMap Key Value) (key : Key) (value : Value)
    (distinct : map.keys.Nodup) : (map.put key value).keys.Nodup := by
  induction map with
  | nil => simp [put, keys]
  | cons entry rest induction =>
      obtain ⟨notLater, restDistinct⟩ := List.nodup_cons.mp distinct
      rw [put]
      split
      next => exact distinct
      next different =>
        apply List.nodup_cons.mpr ⟨_, induction restDistinct⟩
        intro member
        obtain ⟨other, isEntry, isKey⟩ := List.mem_map.mp member
        rcases mem_put rest key value other isEntry with isPut | isOld
        · exact different (by rw [← isKey, isPut])
        · exact notLater (isKey ▸ List.mem_map_of_mem isOld)

theorem of_entries_keys (entries : List (Key × Value)) : (ofEntries entries).keys.Nodup := by
  have puts (map : OrderedMap Key Value) (distinct : map.keys.Nodup) :
      (entries.foldl (fun map entry => map.put entry.1 entry.2) map).keys.Nodup := by
    induction entries generalizing map with
    | nil => exact distinct
    | cons entry rest induction => exact induction _ (keys_put_distinct map _ _ distinct)
  exact puts [] List.nodup_nil

theorem mem_of_entries (entries : List (Key × Value)) :
    ∀ entry ∈ ofEntries entries, entry ∈ entries := by
  have puts (map : OrderedMap Key Value) (entry : Key × Value)
      (member : entry ∈ entries.foldl (fun map entry => map.put entry.1 entry.2) map) :
      entry ∈ map ∨ entry ∈ entries := by
    induction entries generalizing map with
    | nil => exact Or.inl member
    | cons first rest induction =>
        rcases induction _ member with isPut | isLater
        · rcases mem_put map _ _ entry isPut with isFirst | isOld
          · exact Or.inr (isFirst ▸ List.mem_cons_self)
          · exact Or.inl isOld
        · exact Or.inr (List.mem_cons_of_mem first isLater)
  exact fun entry member => (puts [] entry member).resolve_left List.not_mem_nil

theorem of_entries_distinct (entries : List (Key × Value))
    (distinct : (entries.map Prod.fst).Nodup) : ofEntries entries = entries := by
  have puts (map : OrderedMap Key Value)
      (apart : (map.keys ++ entries.map Prod.fst).Nodup) :
      entries.foldl (fun map entry => map.put entry.1 entry.2) map = map ++ entries := by
    induction entries generalizing map with
    | nil => exact (List.append_nil map).symm
    | cons entry rest induction =>
        have absent : entry.1 ∉ map.keys := by
          intro member
          exact (List.nodup_append.mp apart).2.2 entry.1 member entry.1 List.mem_cons_self rfl
        have moved : ((map ++ [entry]).keys ++ rest.map Prod.fst).Nodup := by
          simpa [keys] using apart
        rw [List.foldl_cons, put_absent map _ _ absent,
          induction (List.nodup_cons.mp distinct).2 _ moved, List.append_assoc]
        rfl
  exact puts [] distinct

end ReadmePress.OrderedMap
