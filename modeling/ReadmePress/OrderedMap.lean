/-!
Maps that remember the order in which keys were first put. A key that is put again keeps its
place and takes the new value.
-/

namespace ReadmePress

/-- Entries in the order of their keys' first appearance. -/
abbrev OrderedMap (Key Value : Type) := List (Key × Value)

namespace OrderedMap

variable {Key Value : Type} [DecidableEq Key]

def find? (map : OrderedMap Key Value) (key : Key) : Option Value :=
  match map with
  | [] => none
  | (known, value) :: rest => if known = key then some value else find? rest key

def put (map : OrderedMap Key Value) (key : Key) (value : Value) : OrderedMap Key Value :=
  match map with
  | [] => [(key, value)]
  | (known, old) :: rest =>
      if known = key then (known, value) :: rest else (known, old) :: put rest key value

/-- Puts the entries one after the other. -/
def ofEntries (entries : List (Key × Value)) : OrderedMap Key Value :=
  entries.foldl (fun map entry => map.put entry.1 entry.2) []

def keys (map : OrderedMap Key Value) : List Key := map.map Prod.fst

theorem find?_put (map : OrderedMap Key Value) (key other : Key) (value : Value) :
    (map.put key value).find? other = if key = other then some value else map.find? other := by
  induction map with
  | nil => simp [put, find?]
  | cons entry rest induction =>
      obtain ⟨known, old⟩ := entry
      simp only [put]
      split
      · subst known
        by_cases same : key = other <;> simp [find?, same]
      · by_cases same : known = other
        · subst known
          have different : key ≠ other := fun equal => absurd equal.symm ‹_›
          simp [find?, different]
        · simp [find?, same, induction]

end OrderedMap

end ReadmePress
