import ReadmePress.Facts.Listing
import ReadmePress.Proofs.Scan
import ReadmePress.Proofs.Text.Splitting

/-!
Cutting the paths of a listing to a depth. Cutting to one depth and then to another is cutting to
the lesser of them. Of paths that come with every path above them no more than the deeper ones are
lost, so long as none of the kept ones has a backslash in it, which is taken for a slash. The lines
of what is kept at one depth then appear in their order among the lines of what is kept at a
greater one.
-/

namespace ReadmePress

open ReadmePress.Text

/-- How many components a path has. -/
def pathDepth (path : String) : Nat := (pathNames path).length

/-- The path of the first components of a path. -/
def pathStart (path : String) (count : Nat) : String := relativePath ((pathNames path).take count)

theorem slash_not_in_names (path : String) : ∀ name ∈ pathNames path, '/' ∉ name.toList := by
  intro name member
  obtain ⟨field, isField, rfl⟩ := List.mem_map.mp member
  rw [String.toList_ofList]
  exact separator_not_mem '/' path.toList field isField

theorem path_start_whole (path : String) (count : Nat) (bound : pathDepth path ≤ count) :
    pathStart path count = path := by
  rw [pathStart, List.take_of_length_le bound, relative_path_names]

theorem path_start_names (path : String) (count : Nat) (positive : 0 < count)
    (named : "" ∉ pathNames path) :
    pathNames (pathStart path count) = (pathNames path).take count := by
  apply path_names_relative
  · have someName := path_names_ne_nil path
    simp [List.take_eq_nil_iff, someName, positive.ne']
  · intro name member
    have isName := List.mem_of_mem_take member
    refine ⟨?_, slash_not_in_names path name isName⟩
    rintro rfl
    exact named isName

theorem path_start_depth (path : String) (count : Nat) (positive : 0 < count)
    (named : "" ∉ pathNames path) : pathDepth (pathStart path count) ≤ count := by
  rw [pathDepth, path_start_names path count positive named]
  exact List.length_take_le count _

namespace Listing

/-- A backslash cuts a component as a slash does. -/
theorem split_unified (text : List Char) :
    split '/' (unifySlashes text) =
      (split '/' text).flatMap fun field => split '/' (unifySlashes field) := by
  induction text with
  | nil => rfl
  | cons character rest induction =>
      have unified : unifySlashes (character :: rest) =
          (if character = '\\' then '/' else character) :: unifySlashes rest := rfl
      rw [unified]
      by_cases isSlash : character = '/'
      · subst character
        have first : split '/' (unifySlashes []) = [[]] := rfl
        simp [split, induction, first]
      · cases fields : split '/' rest with
        | nil => exact absurd fields (split_ne_nil '/' rest)
        | cons field more =>
            have whole : split '/' (character :: rest) = (character :: field) :: more := by
              simp [split, isSlash, fields]
            have start : unifySlashes (character :: field) =
                (if character = '\\' then '/' else character) :: unifySlashes field := rfl
            rw [fields, List.flatMap_cons] at induction
            rw [whole, List.flatMap_cons, start]
            by_cases isBackslash : character = '\\'
            · simp [split, isBackslash, induction]
            · simp only [split, isBackslash, isSlash, if_false, induction]
              cases inner : split '/' (unifySlashes field) with
              | nil => exact absurd inner (split_ne_nil '/' _)
              | cons first others => rfl

theorem unify_plain (text : List Char) (plain : '\\' ∉ text) : unifySlashes text = text := by
  have kept : ∀ character ∈ text, (if character = '\\' then '/' else character) = character := by
    intro character member
    rw [if_neg]
    rintro rfl
    exact plain member
  rw [unifySlashes, List.map_congr_left kept, List.map_id']

theorem backslash_not_in_unified (text : List Char) : '\\' ∉ unifySlashes text := by
  intro member
  obtain ⟨character, -, same⟩ := List.mem_map.mp member
  split at same
  · exact absurd same (by decide)
  next different => exact different same

/-- No backslash is left in a path that was cut. -/
theorem truncated_path_plain (depth : Int) (text : List Char) :
    '\\' ∉ truncatePath depth text := by
  intro isIn
  rw [truncatePath, join_eq_intercalate] at isIn
  rcases mem_of_intercalate _ _ _ isIn with isSlash | ⟨field, isField, isIn⟩
  · exact absurd isSlash (by decide)
  · have taken : field ∈ split '/' (unifySlashes text) := by
      rw [takeDepth] at isField
      split at isField <;> exact List.mem_of_mem_take isField
    rw [split_eq_split_on] at taken
    exact backslash_not_in_unified text ((field_occurs '/' _ field taken).subset isIn)

theorem split_plain_field (text field : List Char) (member : field ∈ split '/' text)
    (plain : '\\' ∉ field) : split '/' (unifySlashes field) = [field] := by
  rw [split_eq_split_on] at member
  rw [unify_plain field plain, split_eq_split_on]
  exact List.splitOn_eq_singleton (separator_not_mem '/' text field member)

theorem truncated_path_eq (depth : Int) (text : List Char) (least : 0 ≤ depth) :
    truncatePath depth text =
      ['/'].intercalate ((split '/' (unifySlashes text)).take depth.toNat) := by
  rw [truncatePath, takeDepth, if_neg (by omega), join_eq_intercalate]

/-- Where no backslash stands in the first components, a path is cut after them. -/
theorem truncated_chars (depth : Int) (text : List Char) (positive : 0 < depth)
    (plain : ∀ field ∈ (split '/' text).take depth.toNat, '\\' ∉ field) :
    truncatePath depth text = ['/'].intercalate ((split '/' text).take depth.toNat) := by
  have kept : ((split '/' text).take depth.toNat).flatMap
      (fun field => split '/' (unifySlashes field)) = (split '/' text).take depth.toNat := by
    have single : ∀ field ∈ (split '/' text).take depth.toNat,
        split '/' (unifySlashes field) = [field] := fun field member =>
      split_plain_field text field (List.mem_of_mem_take member) (plain field member)
    rw [List.flatMap_congr single]
    exact List.flatMap_singleton' _
  have cut : ((split '/' text).flatMap fun field => split '/' (unifySlashes field)).take
      depth.toNat = (split '/' text).take depth.toNat := by
    conv_lhs => rw [← List.take_append_drop depth.toNat (split '/' text)]
    rw [List.flatMap_append, kept]
    by_cases deep : depth.toNat ≤ (split '/' text).length
    · rw [List.take_append_of_le_length (by simp [deep]), List.take_take, Nat.min_self]
    · rw [List.drop_eq_nil_of_le (by omega)]
      simp
  rw [truncated_path_eq depth text positive.le, split_unified, cut]

theorem truncated_eq (depth : Int) (path : String) (positive : 0 < depth)
    (plain : '\\' ∉ (pathStart path depth.toNat).toList) :
    String.ofList (truncatePath depth path.toList) = pathStart path depth.toNat := by
  have fields : (pathStart path depth.toNat).toList =
      ['/'].intercalate ((split '/' path.toList).take depth.toNat) := by
    have slash : "/".toList = ['/'] := rfl
    rw [pathStart, relativePath, String.toList_intercalate, slash, pathNames, ← List.map_take,
      List.map_map, split_eq_split_on]
    simp [Function.comp_def]
  apply String.toList_inj.mp
  rw [String.toList_ofList, fields]
  apply truncated_chars depth path.toList positive
  intro field member isIn
  rw [fields] at plain
  exact plain ((infix_of_intercalate ['/'] field _ member).subset isIn)

theorem truncated_path_nil (depth : Int) (least : 0 ≤ depth) : truncatePath depth [] = [] := by
  have nothing : split '/' (unifySlashes []) = [[]] := rfl
  rw [truncated_path_eq depth [] least, nothing]
  cases depth.toNat <;> simp

/-- The components of a path that is cut to something are the first ones of the path. -/
theorem truncated_path_fields (depth : Int) (text : List Char) (positive : 0 < depth) :
    split '/' (truncatePath depth text) = (split '/' (unifySlashes text)).take depth.toNat := by
  rw [truncated_path_eq depth text (by omega), split_eq_split_on]
  apply List.splitOn_intercalate
  · intro field isField
    have isComponent := List.mem_of_mem_take isField
    rw [split_eq_split_on] at isComponent
    exact separator_not_mem '/' _ field isComponent
  · have someField := split_ne_nil '/' (unifySlashes text)
    have someDepth : depth.toNat ≠ 0 := by omega
    simp [List.take_eq_nil_iff, someField, someDepth]

/-- A path that is cut twice is cut to the lesser depth. -/
theorem truncated_path_again (depth next : Int) (text : List Char) (least : 0 ≤ depth)
    (nextLeast : 0 ≤ next) :
    truncatePath next (truncatePath depth text) = truncatePath (min depth next) text := by
  -- Nothing is left at depth zero, but a path has at least one component, if an empty one.
  rcases least.eq_or_lt with rfl | positive
  · have nothing : truncatePath 0 text = [] := by
      rw [truncated_path_eq 0 text le_rfl]
      rfl
    rw [min_eq_left nextLeast, nothing, truncated_path_nil next nextLeast]
  · have lesser : min next.toNat depth.toNat = (min depth next).toNat := by omega
    rw [truncated_path_eq next _ nextLeast, unify_plain _ (truncated_path_plain depth text),
      truncated_path_fields depth text positive, List.take_take, lesser,
      ← truncated_path_eq (min depth next) text (le_min least nextLeast)]

theorem mem_truncate (paths : List String) (depth : Int) (text : String) :
    text ∈ truncate paths depth ↔
      text ≠ "" ∧ ∃ path ∈ paths, String.ofList (truncatePath depth path.toList) = text := by
  simp only [truncate, SortedSet.mem_of_list, List.mem_filter, List.mem_map, bne_iff_ne]
  exact and_comm

theorem truncate_sorted (paths : List String) (depth : Int) :
    (truncate paths depth).Pairwise (· < ·) :=
  SortedSet.of_list_sorted _

/-- No path that was cut to a depth has a backslash in it. -/
theorem truncated_plain (paths : List String) (depth : Int) :
    ∀ text ∈ truncate paths depth, '\\' ∉ text.toList := by
  intro text member
  obtain ⟨-, path, -, rfl⟩ := (mem_truncate paths depth text).mp member
  rw [String.toList_ofList]
  exact truncated_path_plain depth path.toList

/-- Which paths there are decides what is kept, not their order or how often they come. -/
theorem truncate_same_members (paths other : List String) (depth : Int)
    (same : ∀ path, path ∈ other ↔ path ∈ paths) :
    truncate other depth = truncate paths depth := by
  apply List.Pairwise.eq_of_mem_iff (truncate_sorted other depth) (truncate_sorted paths depth)
  intro text
  simp only [mem_truncate, same]

theorem truncate_again (paths : List String) (depth next : Int) (least : 0 ≤ depth)
    (nextLeast : 0 ≤ next) :
    truncate (truncate paths depth) next = truncate paths (min depth next) := by
  have cutAgain (path : String) :
      String.ofList (truncatePath next (String.ofList (truncatePath depth path.toList)).toList) =
        String.ofList (truncatePath (min depth next) path.toList) := by
    rw [String.toList_ofList, truncated_path_again depth next _ least nextLeast]
  apply List.Pairwise.eq_of_mem_iff (truncate_sorted _ next) (truncate_sorted paths _)
  intro text
  rw [mem_truncate, mem_truncate]
  refine and_congr_right fun someText => ?_
  constructor
  · rintro ⟨kept, member, rfl⟩
    obtain ⟨-, path, isPath, rfl⟩ := (mem_truncate paths depth kept).mp member
    exact ⟨path, isPath, (cutAgain path).symm⟩
  · rintro ⟨path, isPath, rfl⟩
    refine ⟨_, (mem_truncate paths depth _).mpr ⟨?_, path, isPath, rfl⟩, cutAgain path⟩
    -- What is cut to nothing at the first depth is cut to nothing at the lesser one.
    intro nothing
    rw [← cutAgain, nothing, String.toList_empty, truncated_path_nil next nextLeast] at someText
    exact someText rfl

/-- What is kept is the first components of each path, if that is anything. -/
theorem mem_truncate_iff (paths : List String) (depth : Int) (least : 0 ≤ depth) (text : String) :
    text ∈ truncate paths depth ↔
      text ≠ "" ∧ ∃ path ∈ paths, text.toList =
        ['/'].intercalate (((unifySlashes path.toList).splitOn '/').take depth.toNat) := by
  rw [mem_truncate]
  refine and_congr_right fun _ => exists_congr fun path => and_congr_right fun _ => ?_
  rw [← String.toList_inj, String.toList_ofList, truncated_path_eq depth _ least,
    split_eq_split_on, eq_comm]

/-- Cutting to one depth and then to another is cutting to the lesser of them, so cutting to one
depth again changes nothing. The first components of the paths come in order and each once,
whatever the order of the paths and however often they come. -/
theorem truncations_compose (paths : List String) (depth next : Int) (least : 0 ≤ depth)
    (nextLeast : 0 ≤ next) :
    truncate (truncate paths depth) next = truncate paths (min depth next) ∧
      truncate (truncate paths depth) depth = truncate paths depth ∧
      (∀ text, text ∈ truncate paths depth ↔
        text ≠ "" ∧ ∃ path ∈ paths, text.toList =
          ['/'].intercalate (((unifySlashes path.toList).splitOn '/').take depth.toNat)) ∧
      (truncate paths depth).Pairwise (· < ·) ∧
      ∀ other, (∀ path, path ∈ other ↔ path ∈ paths) →
        truncate other depth = truncate paths depth := by
  refine ⟨truncate_again paths depth next least nextLeast, ?_, mem_truncate_iff paths depth least,
    truncate_sorted paths depth, fun other => truncate_same_members paths other depth⟩
  rw [truncate_again paths depth depth least least, min_self]

/-- Paths with backslashes, empty components and a part of one of them. -/
def untidyPaths : List String := ["\\a", "//b", "c\\\\d/", "c"]

theorem untidy_paths_truncated :
    (0 : Int) ≤ 2 ∧ (0 : Int) ≤ 1 ∧ truncate untidyPaths 2 = ["/", "/a", "c", "c/"] ∧
      truncate (truncate untidyPaths 2) 1 = truncate untidyPaths (min 2 1) ∧
      truncate (untidyPaths.reverse ++ untidyPaths) 2 = truncate untidyPaths 2 := by
  obtain ⟨composed, -, -, -, unordered⟩ :=
    truncations_compose untidyPaths 2 1 (by decide) (by decide)
  refine ⟨by decide, by decide, by decide +kernel, composed, unordered _ ?_⟩
  intro path
  rw [List.mem_append, List.mem_reverse, or_self]

/-- Paths without empty components, with every path above them. -/
structure IsClosed (paths : List String) : Prop where
  named : ∀ path ∈ paths, "" ∉ pathNames path
  above : ∀ path ∈ paths, ∀ count, 0 < count → pathStart path count ∈ paths

section Closed

variable (paths : List String) (closed : IsClosed paths)

include closed

/-- Of closed paths those that are not too deep are kept, if no backslash stands in them. -/
theorem mem_truncate_closed (depth : Int) (positive : 0 < depth)
    (plain : ∀ path ∈ paths, pathDepth path ≤ depth.toNat → '\\' ∉ path.toList)
    (text : String) :
    text ∈ truncate paths depth ↔ text ∈ paths ∧ pathDepth text ≤ depth.toNat := by
  have positiveCount : 0 < depth.toNat := by omega
  have cut : ∀ path ∈ paths,
      String.ofList (truncatePath depth path.toList) = pathStart path depth.toNat := by
    intro path member
    apply truncated_eq depth path positive
    exact plain _ (closed.above path member _ positiveCount)
      (path_start_depth path _ positiveCount (closed.named path member))
  rw [mem_truncate]
  constructor
  · rintro ⟨-, path, member, rfl⟩
    rw [cut path member]
    exact ⟨closed.above path member _ positiveCount,
      path_start_depth path _ positiveCount (closed.named path member)⟩
  · rintro ⟨member, bound⟩
    refine ⟨?_, text, member, ?_⟩
    · rintro rfl
      exact closed.named "" member (by decide)
    · rw [cut text member, path_start_whole text _ bound]

/-- Closed paths in order are cut to those of them that are not too deep, exactly when no
backslash stands in these. -/
theorem truncate_eq_filter_iff (sorted : paths.Pairwise (· < ·)) (depth : Int)
    (positive : 0 < depth) :
    truncate paths depth = (paths.filter fun path => pathDepth path ≤ depth.toNat) ↔
      ∀ path ∈ paths, pathDepth path ≤ depth.toNat → '\\' ∉ path.toList := by
  constructor
  · intro same path member bound
    apply truncated_plain paths depth path
    rw [same]
    exact List.mem_filter.mpr ⟨member, decide_eq_true bound⟩
  · intro plain
    apply List.Pairwise.eq_of_mem_iff (truncate_sorted paths depth) (sorted.filter _)
    intro text
    rw [mem_truncate_closed paths closed depth positive plain, List.mem_filter, decide_eq_true_eq]

/-- What is kept at one depth is kept at a greater one, in the same order. -/
theorem truncate_deeper (plain : ∀ path ∈ paths, '\\' ∉ path.toList) (shallow deep : Int)
    (positive : 0 < shallow) (deeper : shallow ≤ deep) :
    (truncate paths shallow).Sublist (truncate paths deep) := by
  have kept (depth : Int) (positive : 0 < depth) (text : String) :=
    mem_truncate_closed paths closed depth positive (fun path member _ => plain path member) text
  have filtered : truncate paths shallow =
      (truncate paths deep).filter fun path => pathDepth path ≤ shallow.toNat := by
    apply List.Pairwise.eq_of_mem_iff (truncate_sorted paths shallow)
      ((truncate_sorted paths deep).filter _)
    intro text
    rw [kept shallow positive, List.mem_filter, kept deep (by omega), decide_eq_true_eq]
    constructor
    · rintro ⟨member, bound⟩
      exact ⟨⟨member, by omega⟩, bound⟩
    · rintro ⟨⟨member, -⟩, bound⟩
      exact ⟨member, bound⟩
  rw [filtered]
  exact List.filter_sublist

/-- At every depth something of closed paths is kept. -/
theorem truncate_some (plain : ∀ path ∈ paths, '\\' ∉ path.toList) (depth : Int)
    (positive : 0 < depth) (nothing : truncate paths depth = []) : paths = [] := by
  apply List.eq_nil_iff_forall_not_mem.mpr
  intro path member
  have kept := (mem_truncate_closed paths closed depth positive
    (fun path member _ => plain path member) (pathStart path 1)).mpr
    ⟨closed.above path member 1 Nat.one_pos,
      (path_start_depth path 1 Nat.one_pos (closed.named path member)).trans (by omega)⟩
  rw [nothing] at kept
  exact List.not_mem_nil kept

end Closed

end Listing

end ReadmePress
