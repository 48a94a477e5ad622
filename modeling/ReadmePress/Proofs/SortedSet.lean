import Mathlib.Data.List.Sort
import Mathlib.Data.String.Basic
import ReadmePress.SortedSet

/-!
A sorted set has the members that were inserted, in strictly increasing order.
-/

namespace ReadmePress.SortedSet

theorem mem_insert (text other : String) (texts : List String) :
    other ∈ insert text texts ↔ other = text ∨ other ∈ texts := by
  induction texts with
  | nil => simp [insert]
  | cons least rest induction =>
      simp only [insert]
      split
      next => simp
      next =>
        split
        next same => simp [same]
        next =>
          simp only [List.mem_cons, induction]
          exact or_left_comm

theorem insert_sorted (text : String) (texts : List String)
    (sorted : texts.Pairwise (· < ·)) : (insert text texts).Pairwise (· < ·) := by
  induction texts with
  | nil => simp [insert]
  | cons least rest induction =>
      obtain ⟨below, restSorted⟩ := List.pairwise_cons.mp sorted
      simp only [insert]
      split
      next before =>
        refine List.pairwise_cons.mpr ⟨?_, sorted⟩
        intro other member
        rcases List.mem_cons.mp member with rfl | isLater
        · exact before
        · exact lt_trans before (below other isLater)
      next notBefore =>
        split
        next => exact sorted
        next different =>
          have after : least < text := lt_of_le_of_ne (not_lt.mp notBefore) (Ne.symm different)
          refine List.pairwise_cons.mpr ⟨?_, induction restSorted⟩
          intro other member
          rcases (mem_insert text other rest).mp member with rfl | isLater
          · exact after
          · exact below other isLater

theorem mem_of_list (text : String) (texts : List String) :
    text ∈ ofList texts ↔ text ∈ texts := by
  induction texts with
  | nil => simp [ofList]
  | cons first rest induction =>
      have step := mem_insert first text (ofList rest)
      rw [induction] at step
      rw [List.mem_cons]
      exact step

theorem of_list_sorted (texts : List String) : (ofList texts).Pairwise (· < ·) := by
  induction texts with
  | nil => exact .nil
  | cons first rest induction => exact insert_sorted first (ofList rest) induction

end ReadmePress.SortedSet
