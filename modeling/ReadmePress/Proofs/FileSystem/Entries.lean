import ReadmePress.FileSystem.Node

/-!
Trees of files seen place by place. What stands at a place is a file, a link or a directory;
the content of a directory is told by the places below it, so the order of its entries cannot
be seen. Everything that path resolution asks of a tree is answered by this view.
-/

namespace ReadmePress

/-- What stands at a place. -/
inductive Entry where
  | file (content : List UInt8)
  | link (target : String)
  | directory
  deriving DecidableEq, Repr

/-- What stands at a place, without the content of a file. -/
def Entry.outline : Entry → Entry
  | .file _ => .file []
  | .link target => .link target
  | .directory => .directory

theorem Entry.outline_eq_directory_iff (entry : Entry) :
    entry.outline = .directory ↔ entry = .directory := by
  cases entry <;> simp [outline]

namespace Node

def entry : Node → Entry
  | .file content => .file content
  | .link target => .link target
  | .directory _ => .directory

/-- What stands at a place, if anything does. -/
def entryAt? (files : Node) (location : Location) : Option Entry :=
  (files.node? location).map entry

/-- The second tree has what the first one has at every place, but for the contents of files. -/
def SameOutline (files others : Node) : Prop :=
  ∀ location, (others.entryAt? location).map Entry.outline =
    (files.entryAt? location).map Entry.outline

theorem same_outline_of_entries (files others : Node)
    (same : others.entryAt? = files.entryAt?) : files.SameOutline others := by
  intro location
  rw [same]

theorem directory_of_outline (files others : Node) (same : files.SameOutline others)
    (location : Location) :
    others.entryAt? location = some .directory ↔ files.entryAt? location = some .directory := by
  have told (found : Option Entry) :
      found = some .directory ↔ found.map Entry.outline = some .directory := by
    cases found <;> simp [Entry.outline_eq_directory_iff]
  rw [told, same location, ← told]

@[simp]
theorem node_at_root (files : Node) : files.node? [] = some files := by
  cases files <;> rfl

@[simp]
theorem entry_at_root (files : Node) : files.entryAt? [] = some files.entry := by
  simp [entryAt?]

theorem node_at_append (files : Node) (front back : Location) :
    files.node? (front ++ back) = (files.node? front).bind fun node => node.node? back := by
  induction front generalizing files with
  | nil => simp
  | cons name front induction =>
      cases files with
      | file content => rfl
      | link target => rfl
      | directory entries =>
          simp only [List.cons_append, node?]
          cases OrderedMap.find? entries name with
          | none => rfl
          | some child => simpa using induction child

theorem node_at_child (files : Node) (location : Location) (name : String)
    (entries : List (String × Node))
    (found : files.node? location = some (.directory entries)) :
    files.node? (location ++ [name]) = OrderedMap.find? entries name := by
  rw [node_at_append, found]
  simp [node?]

theorem entry_eq_directory_iff (node : Node) :
    node.entry = .directory ↔ ∃ entries, node = .directory entries := by
  cases node <;> simp [entry]

theorem entry_eq_file_iff (node : Node) (content : List UInt8) :
    node.entry = .file content ↔ node = .file content := by
  cases node <;> simp [entry]

theorem entry_at_eq_directory_iff (files : Node) (location : Location) :
    files.entryAt? location = some .directory ↔
      ∃ entries, files.node? location = some (.directory entries) := by
  simp only [entryAt?, Option.map_eq_some_iff, entry_eq_directory_iff]
  constructor
  · rintro ⟨node, found, entries, rfl⟩
    exact ⟨entries, found⟩
  · rintro ⟨entries, found⟩
    exact ⟨_, found, entries, rfl⟩

theorem entry_at_eq_file_iff (files : Node) (location : Location) (content : List UInt8) :
    files.entryAt? location = some (.file content) ↔
      files.node? location = some (.file content) := by
  simp only [entryAt?, Option.map_eq_some_iff, entry_eq_file_iff]
  constructor
  · rintro ⟨node, found, rfl⟩
    exact found
  · intro found
    exact ⟨_, found, rfl⟩

theorem entry_at_eq_none_iff (files : Node) (location : Location) :
    files.entryAt? location = none ↔ files.node? location = none := by
  simp [entryAt?]

/-- Only a directory has places below it. -/
theorem directory_above (files : Node) (location : Location) (name : String) (entry : Entry)
    (found : files.entryAt? (location ++ [name]) = some entry) :
    files.entryAt? location = some .directory := by
  obtain ⟨child, foundChild, _⟩ := Option.map_eq_some_iff.mp found
  rw [node_at_append] at foundChild
  obtain ⟨node, foundNode, below⟩ := Option.bind_eq_some_iff.mp foundChild
  cases node with
  | file content => simp [node?] at below
  | link target => simp [node?] at below
  | directory entries => exact (entry_at_eq_directory_iff _ _).mpr ⟨entries, foundNode⟩

/-- Nothing stands below a place. -/
def IsBare (files : Node) (location : Location) : Prop :=
  ∀ name rest, files.entryAt? (location ++ name :: rest) = none

theorem bare_of_absent (files : Node) (location : Location)
    (absent : files.entryAt? location = none) : files.IsBare location := by
  intro name rest
  rw [entry_at_eq_none_iff] at absent ⊢
  rw [node_at_append, absent]
  rfl

theorem bare_of_file (files : Node) (location : Location) (content : List UInt8)
    (found : files.entryAt? location = some (.file content)) : files.IsBare location := by
  intro name rest
  rw [entry_at_eq_file_iff] at found
  rw [entry_at_eq_none_iff, node_at_append, found]
  rfl

theorem file_is_bare (content : List UInt8) : (Node.file content).IsBare [] := by
  intro name rest
  rfl

theorem empty_directory_is_bare : (Node.directory []).IsBare [] := by
  intro name rest
  rfl

/-- A place that a node can be put at: the root, or a name in a directory. -/
def HasRoom (files : Node) (location : Location) : Prop :=
  location = [] ∨ files.entryAt? location.dropLast = some .directory

theorem room_of_found (files : Node) (location : Location) (entry : Entry)
    (found : files.entryAt? location = some entry) : files.HasRoom location := by
  rcases List.eq_nil_or_concat location with rfl | ⟨directory, name, rfl⟩
  · exact Or.inl rfl
  · apply Or.inr
    rw [List.concat_eq_append] at found ⊢
    rw [List.dropLast_concat]
    exact directory_above files directory name entry found

theorem entry_at_below (entries : List (String × Node)) (name : String) (rest : Location) :
    (Node.directory entries).entryAt? (name :: rest) =
      (OrderedMap.find? entries name).bind fun child => child.entryAt? rest := by
  simp only [entryAt?, node?]
  cases OrderedMap.find? entries name <;> rfl

/-- The first name on the way to a place below another one leads to a directory's entry. -/
theorem room_below (files : Node) (name next : String) (more : Location)
    (room : files.HasRoom (name :: next :: more)) :
    ∃ entries child, files = .directory entries ∧ OrderedMap.find? entries name = some child ∧
      child.HasRoom (next :: more) := by
  rcases room with impossible | room
  · exact absurd impossible (by simp)
  · cases files with
    | file content => simp [entryAt?, node?] at room
    | link target => simp [entryAt?, node?] at room
    | directory entries =>
        rw [List.dropLast_cons_cons, entry_at_below] at room
        obtain ⟨child, present, found⟩ := Option.bind_eq_some_iff.mp room
        exact ⟨entries, child, rfl, present, Or.inr found⟩

/-- Putting a node without content in the place of another one changes that place alone. -/
theorem entry_at_put (files value : Node) (location other : Location)
    (room : files.HasRoom location) (bare : files.IsBare location) (leaf : value.IsBare []) :
    (files.put location value).entryAt? other =
      if other = location then some value.entry else files.entryAt? other := by
  induction location generalizing files other with
  | nil =>
      cases other with
      | nil => simp [put]
      | cons name rest =>
          have nothingNew := leaf name rest
          have nothingOld := bare name rest
          simp only [List.nil_append] at nothingNew nothingOld
          simp [put, nothingNew, nothingOld]
  | cons name rest induction =>
      cases rest with
      | nil =>
          obtain ⟨entries, rfl⟩ : ∃ entries, files = .directory entries := by
            rcases room with impossible | room
            · exact absurd impossible (by simp)
            · simpa [entry_eq_directory_iff] using room
          cases other with
          | nil => simp [put, entry]
          | cons first below =>
              rw [put, entry_at_below, entry_at_below, OrderedMap.find?_put]
              by_cases same : name = first
              · subst first
                cases below with
                | nil => simp
                | cons next more =>
                    have nothingNew := leaf next more
                    have nothingOld := bare next more
                    rw [List.nil_append] at nothingNew
                    rw [List.cons_append, List.nil_append, entry_at_below] at nothingOld
                    simp [nothingNew, nothingOld]
              · simp [same, Ne.symm same]
      | cons next more =>
          obtain ⟨entries, child, rfl, present, room⟩ := room_below files name next more room
          have bareBelow : child.IsBare (next :: more) := by
            intro step steps
            have nothing := bare step steps
            rw [List.cons_append, entry_at_below, present] at nothing
            exact nothing
          have inner := fun below => induction child below room bareBelow
          cases other with
          | nil => simp [put, present, entry]
          | cons first below =>
              simp only [put, present]
              rw [entry_at_below, entry_at_below, OrderedMap.find?_put]
              by_cases same : name = first
              · subst first
                simpa [present] using inner below
              · simp [same, Ne.symm same]

end Node

end ReadmePress
