import ReadmePress.Proofs.Document.PlainLines
import ReadmePress.Proofs.OrderedMap
import ReadmePress.Proofs.SortedSet

/-!
The lines that a manifest gives: the scripts in their own order, each with its command, and the
dependencies in the order of their names, each with its version.
-/

namespace ReadmePress

section Scripts

/-- A script as its line shows it. -/
def scriptEntry (entry : String × String) : String := "npm run " ++ entry.1 ++ "  # " ++ entry.2

/-- The lines of the scripts, or the phrase for none. -/
def scriptTexts (scripts : Option (List (String × String))) (language : Language) : List String :=
  if (scripts.getD []).isEmpty then [language.placeholders.scripts]
  else (scripts.getD []).map scriptEntry

theorem script_text_lines (scripts : Option (List (String × String))) (language : Language) :
    scriptText scripts language ++ "\n" =
      String.join ((scriptTexts scripts language).map (· ++ "\n")) := by
  rw [scriptText, scriptTexts]
  cases scripts.getD [] with
  | nil => simp
  | cons first rest => exact lines_of_intercalate ((first :: rest).map scriptEntry) (by simp)

theorem mem_script_texts (scripts : Option (List (String × String))) (language : Language)
    (text : String) (member : text ∈ scriptTexts scripts language) :
    text = language.placeholders.scripts ∨ ∃ entry ∈ scripts.getD [], text = scriptEntry entry := by
  rw [scriptTexts] at member
  split at member
  · exact Or.inl (List.mem_singleton.mp member)
  · obtain ⟨entry, isEntry, rfl⟩ := List.mem_map.mp member
    exact Or.inr ⟨entry, isEntry, rfl⟩

theorem script_is_plain (entry : String × String) (oneLine : OneLine entry.1 ∧ OneLine entry.2) :
    PlainLine (scriptEntry entry) := by
  obtain ⟨name, command⟩ := oneLine
  have call : PlainLine "npm run " := ⟨by decide, by decide⟩
  exact plain_line_append _ _
    (plain_line_append _ _ (plain_line_append _ _ call name) (by decide)) command

end Scripts

section Stack

/-- A dependency as its line shows it. -/
def stackEntry (entry : String × String) : String := entry.1 ++ " " ++ entry.2

theorem stack_line_of_entry (dependencies : Option (List (String × String))) (line : String)
    (member : line ∈ stackLines dependencies) :
    ∃ entry ∈ dependencies.getD [], line = stackEntry entry := by
  obtain ⟨name, listed, rfl⟩ := List.mem_map.mp member
  obtain ⟨version, found⟩ :=
    OrderedMap.find_of_key _ name ((SortedSet.mem_of_list name _).mp listed)
  refine ⟨(name, version), OrderedMap.mem_of_find _ _ _ found, ?_⟩
  rw [found]
  rfl

/-- Entries in the order of their names. -/
def byName (entries : List (String × String)) : List (String × String) :=
  entries.mergeSort fun first second => first.1 ≤ second.1

theorem by_name_sorted (entries : List (String × String)) (distinct : (entries.map Prod.fst).Nodup) :
    ((byName entries).map Prod.fst).Pairwise (· < ·) := by
  have perm : (byName entries).Perm entries := List.mergeSort_perm entries _
  have sorted : ((byName entries).map Prod.fst).Pairwise (· ≤ ·) := by
    rw [List.pairwise_map]
    refine (List.pairwise_mergeSort ?_ ?_ entries).imp (fun ordered => of_decide_eq_true ordered)
    · intro first second third before after
      simp only [decide_eq_true_eq] at before after ⊢
      exact before.trans after
    · intro first second
      simpa using le_total first.1 second.1
  have different := ((perm.map Prod.fst).nodup_iff).mpr distinct
  exact (List.Pairwise.and sorted different).imp fun ⟨notAfter, notSame⟩ =>
    lt_of_le_of_ne notAfter notSame

/-- Where no name appears twice, the stack shows every dependency once, in the order of names. -/
theorem stack_lines_by_name (dependencies : Option (List (String × String)))
    (distinct : ((dependencies.getD []).map Prod.fst).Nodup) :
    stackLines dependencies = (byName (dependencies.getD [])).map stackEntry := by
  have perm : (byName (dependencies.getD [])).Perm (dependencies.getD []) :=
    List.mergeSort_perm _ _
  have names : SortedSet.ofList (OrderedMap.keys (dependencies.getD [])) =
      (byName (dependencies.getD [])).map Prod.fst := by
    -- Both are in strict order, so they are the same when they have the same members.
    refine List.Pairwise.eq_of_mem_iff (SortedSet.of_list_sorted _) (by_name_sorted _ distinct) ?_
    intro name
    rw [SortedSet.mem_of_list]
    exact ((perm.map Prod.fst).mem_iff).symm
  simp only [stackLines, names, List.map_map]
  refine List.map_congr_left ?_
  intro entry member
  have found := OrderedMap.find_of_mem _ entry.1 entry.2 distinct (perm.mem_iff.mp member)
  simp [found, stackEntry]

end Stack

end ReadmePress
