import ReadmePress.Proofs.FileSystem.Resolution
import ReadmePress.Proofs.FileSystem.WellFormed

/-!
Names followed through links one inside the other. A walk puts the names of a link's target
before the names that are still due; here the target is followed to its end first, and the names
after the link go on from there. Both lead to the same place through the same links.
-/

namespace ReadmePress

open ReadmePress.Text

/-- An entry of a well-formed tree has a component for a name. -/
theorem Node.component_of_entry (files : Node) (wellFormed : files.WellFormed)
    (here : Location) (name : String) (entry : Entry)
    (found : files.entryAt? (here ++ [name]) = some entry) : IsComponent name := by
  have isDirectory := files.directory_above here name entry found
  obtain ⟨entries, above⟩ := (files.entry_at_eq_directory_iff here).mp isDirectory
  obtain ⟨child, present, -⟩ := Option.map_eq_some_iff.mp found
  rw [files.node_at_child here name entries above] at present
  have member := OrderedMap.mem_of_find entries name child present
  exact (wellFormed here entries above).2 name (List.mem_map.mpr ⟨_, member, rfl⟩)

namespace Workspace

/-- A name that an entry can be asked for by. -/
structure IsEntryName (name : String) : Prop where
  notEmpty : name ≠ ""
  notDot : name ≠ "."
  notDots : name ≠ ".."
  short : name.utf8ByteSize ≤ nameLimit

/-- The place that the target of a link is followed from. -/
def linkStart (target : String) (here : Location) : Location :=
  if target.toList.head? = some '/' then [] else here

/-- The names in the target of a link as they are written. -/
def writtenNames (target : String) : List String := (split '/' target.toList).map String.ofList

/-- The names that move, without empty ones and dots. -/
def movingNames (names : List String) : List String :=
  names.filter fun name => name != "" && name != "."

/-- Names lead from one place to another, through links with these targets in their order. -/
inductive Follows (files : Node) : Location → List String → List String → Location → Prop
  | done (here : Location) : Follows files here [] [] here
  | skip {here place : Location} {name : String} {rest targets : List String}
      (means : name = "" ∨ name = ".") (onward : Follows files here rest targets place) :
      Follows files here (name :: rest) targets place
  | up {here place : Location} {rest targets : List String}
      (isDirectory : files.entryAt? here = some .directory)
      (onward : Follows files here.dropLast rest targets place) :
      Follows files here (".." :: rest) targets place
  | entry {here place : Location} {name : String} {rest targets : List String} {entry : Entry}
      (isName : IsEntryName name) (found : files.entryAt? (here ++ [name]) = some entry)
      (notLink : ∀ target, entry ≠ .link target)
      (onward : Follows files (here ++ [name]) rest targets place) :
      Follows files here (name :: rest) targets place
  | link {here middle place : Location} {name target : String}
      {rest inner others : List String} (isName : IsEntryName name)
      (found : files.entryAt? (here ++ [name]) = some (.link target))
      (inside : Follows files (linkStart target here) (writtenNames target) inner middle)
      (onward : Follows files middle rest others place) :
      Follows files here (name :: rest) (target :: inner ++ others) place

namespace Follows

variable {files : Node}

/-- Names lead to one place only, and through one list of links. -/
theorem unique {here place other : Location} {names targets otherTargets : List String}
    (follows : Follows files here names targets place)
    (same : Follows files here names otherTargets other) :
    otherTargets = targets ∧ other = place := by
  induction follows generalizing otherTargets other with
  | done here =>
      cases same
      exact ⟨rfl, rfl⟩
  | skip means _ induction =>
      cases same with
      | skip _ onward => exact induction onward
      | up _ _ => simp at means
      | entry isName _ _ _ => simp [isName.notEmpty, isName.notDot] at means
      | link isName _ _ _ => simp [isName.notEmpty, isName.notDot] at means
  | up isDirectory _ induction =>
      cases same with
      | skip means _ => simp at means
      | up _ onward => exact induction onward
      | entry isName _ _ _ => exact absurd rfl isName.notDots
      | link isName _ _ _ => exact absurd rfl isName.notDots
  | entry isName found notLink _ induction =>
      cases same with
      | skip means _ => simp [isName.notEmpty, isName.notDot] at means
      | up _ _ => exact absurd rfl isName.notDots
      | entry _ _ _ onward => exact induction onward
      | link _ isLink _ _ =>
          cases found.symm.trans isLink
          exact absurd rfl (notLink _)
  | link isName found _ _ inside onward =>
      cases same with
      | skip means _ => simp [isName.notEmpty, isName.notDot] at means
      | up _ _ => exact absurd rfl isName.notDots
      | entry _ other notLink _ =>
          cases found.symm.trans other
          exact absurd rfl (notLink _)
      | link _ isLink otherInside otherOnward =>
          cases found.symm.trans isLink
          obtain ⟨rfl, rfl⟩ := inside otherInside
          obtain ⟨rfl, rfl⟩ := onward otherOnward
          exact ⟨rfl, rfl⟩

theorem append {here middle place : Location} {front back first second : List String}
    (leads : Follows files here front first middle)
    (onward : Follows files middle back second place) :
    Follows files here (front ++ back) (first ++ second) place := by
  induction leads with
  | done => exact onward
  | skip means _ induction => exact .skip means (induction onward)
  | up isDirectory _ induction => exact .up isDirectory (induction onward)
  | entry isName found notLink _ induction =>
      exact .entry isName found notLink (induction onward)
  | link isName found inside _ _ induction =>
      simpa only [List.cons_append, List.append_assoc] using
        Follows.link isName found inside (induction onward)

/-- Where names lead, those in front lead part of the way. -/
theorem split {here place : Location} {front back targets : List String}
    (follows : Follows files here (front ++ back) targets place) :
    ∃ middle first second, targets = first ++ second ∧
      Follows files here front first middle ∧ Follows files middle back second place := by
  induction front generalizing here targets with
  | nil => exact ⟨here, [], targets, rfl, .done here, follows⟩
  | cons name front induction =>
      rw [List.cons_append] at follows
      cases follows with
      | skip means onward =>
          obtain ⟨middle, first, second, rfl, leads, last⟩ := induction onward
          exact ⟨middle, first, second, rfl, .skip means leads, last⟩
      | up isDirectory onward =>
          obtain ⟨middle, first, second, rfl, leads, last⟩ := induction onward
          exact ⟨middle, first, second, rfl, .up isDirectory leads, last⟩
      | entry isName found notLink onward =>
          obtain ⟨middle, first, second, rfl, leads, last⟩ := induction onward
          exact ⟨middle, first, second, rfl, .entry isName found notLink leads, last⟩
      | link isName found inside onward =>
          obtain ⟨middle, first, second, rfl, leads, last⟩ := induction onward
          exact ⟨middle, _, second, by simp, .link isName found inside leads, last⟩

/-- Only the names that move matter. -/
theorem iff_moving {here place : Location} {names targets : List String} :
    Follows files here (movingNames names) targets place ↔
      Follows files here names targets place := by
  induction names generalizing here targets with
  | nil => exact Iff.rfl
  | cons name rest induction =>
      by_cases means : name = "" ∨ name = "."
      · have dropped : movingNames (name :: rest) = movingNames rest := by
          rcases means with rfl | rfl <;> rfl
        rw [dropped, induction]
        constructor
        · exact .skip means
        · intro follows
          cases follows with
          | skip _ onward => exact onward
          | up _ _ => simp at means
          | entry isName _ _ _ => simp [isName.notEmpty, isName.notDot] at means
          | link isName _ _ _ => simp [isName.notEmpty, isName.notDot] at means
      · have kept : movingNames (name :: rest) = name :: movingNames rest := by
          rw [not_or] at means
          rw [movingNames, List.filter_cons_of_pos (by simp [means]), ← movingNames]
        rw [kept]
        constructor <;> intro follows
        · cases follows with
          | skip isSkipped _ => exact absurd isSkipped means
          | up isDirectory onward => exact .up isDirectory (induction.mp onward)
          | entry isName found notLink onward =>
              exact .entry isName found notLink (induction.mp onward)
          | link isName found inside onward =>
              exact .link isName found inside (induction.mp onward)
        · cases follows with
          | skip isSkipped _ => exact absurd isSkipped means
          | up isDirectory onward => exact .up isDirectory (induction.mpr onward)
          | entry isName found notLink onward =>
              exact .entry isName found notLink (induction.mpr onward)
          | link isName found inside onward =>
              exact .link isName found inside (induction.mpr onward)

end Follows

theorem moving_target_names (target : String) :
    movingNames (targetNames target) = movingNames (writtenNames target) := by
  have withoutEmpty : movingNames ((writtenNames target).filter (· != "")) =
      movingNames (writtenNames target) := by
    rw [movingNames, List.filter_filter]
    exact List.filter_congr fun name _ => by cases name != "" <;> simp
  have unfolded : targetNames target =
      if target.toList.getLast? = some '/' then (writtenNames target).filter (· != "") ++ ["."]
      else (writtenNames target).filter (· != "") := rfl
  rw [unfolded]
  split_ifs
  · rw [movingNames, List.filter_append, ← movingNames, withoutEmpty]
    simp
  · exact withoutEmpty

section Walked

variable (files : Node)

/-- A name that stops a stretch leads to nothing that is there. -/
theorem halted_hop_leads_nowhere (here : Location) (name : String) (rest : List String)
    (place : Location) :
    hop files true here name rest ≠ .halted (.arrived (.existing place)) := by
  intro hops
  unfold hop at hops
  split_ifs at hops
  · simp at hops
  · cases found : files.entryAt? (here ++ [name]) with
    | none =>
        simp only [found, hopOnto, Hop.halted.injEq] at hops
        split_ifs at hops
        cases hops
    | some entry => cases entry <;> simp [found, hopOnto] at hops
  · simp at hops

variable (wellFormed : files.WellFormed)

include wellFormed

/-- A hop onward is a step that following takes too. -/
theorem follows_of_hop (here : Location) (name : String) (rest : List String) (next : Location)
    (hops : hop files true here name rest = .onward next) (names targets : List String)
    (place : Location) (onward : Follows files next names targets place) :
    Follows files here (name :: names) targets place := by
  unfold hop at hops
  split_ifs at hops with isDirectory isDot isDots tooLong
  · obtain rfl : here = next := by simpa using hops
    exact .skip (Or.inr isDot) onward
  · obtain rfl : here.dropLast = next := by simpa using hops
    rw [isDots]
    exact .up isDirectory onward
  · cases found : files.entryAt? (here ++ [name]) with
    | none => simp [found, hopOnto] at hops
    | some entry =>
        have component := files.component_of_entry wellFormed here name entry found
        have isName : IsEntryName name := ⟨component.1, isDot, isDots, Nat.le_of_not_lt tooLong⟩
        have notLink : ∀ target, entry ≠ .link target := by
          rintro target rfl
          simp [found, hopOnto] at hops
        obtain rfl : here ++ [name] = next := by
          cases entry with
          | file content => simpa [found, hopOnto] using hops
          | directory => simpa [found, hopOnto] using hops
          | link target => exact absurd rfl (notLink target)
        exact .entry isName found notLink onward

theorem link_of_hop (here : Location) (name : String) (rest : List String)
    (directory : Location) (target : String) (left : List String)
    (hops : hop files true here name rest = .halted (.linked directory target left)) :
    directory = here ∧ left = rest ∧ IsEntryName name ∧
      files.entryAt? (here ++ [name]) = some (.link target) := by
  unfold hop at hops
  split_ifs at hops with isDirectory isDot isDots tooLong
  · simp at hops
  · cases found : files.entryAt? (here ++ [name]) with
    | none =>
        simp only [found, hopOnto, Hop.halted.injEq] at hops
        split_ifs at hops
    | some entry =>
        have component := files.component_of_entry wellFormed here name entry found
        have isName : IsEntryName name := ⟨component.1, isDot, isDots, Nat.le_of_not_lt tooLong⟩
        cases entry with
        | file content => simp [found, hopOnto] at hops
        | directory => simp [found, hopOnto] at hops
        | link known =>
            simp only [found, hopOnto, Bool.true_or, if_true, Hop.halted.injEq] at hops
            obtain ⟨rfl, rfl, rfl⟩ := Stretch.linked.inj hops
            exact ⟨rfl, rfl, isName, rfl⟩
  · simp at hops

theorem follows_of_stretch (here : Location) (names : List String) (place : Location)
    (reached : stretch files true here names = .arrived (.existing place)) :
    Follows files here names [] place := by
  induction names generalizing here with
  | nil =>
      obtain rfl : here = place := by simpa [stretch_at_end] using reached
      exact .done here
  | cons name rest induction =>
      rw [stretch_step] at reached
      cases hops : hop files true here name rest with
      | onward next =>
          rw [hops] at reached
          exact follows_of_hop files wellFormed here name rest next hops rest [] place
            (induction next reached)
      | halted result =>
          rw [hops] at reached
          obtain rfl : result = _ := reached
          exact absurd hops (halted_hop_leads_nowhere files here name rest place)

/-- A stretch that stops at a link has followed the names in front of it. -/
theorem link_of_stretch (here : Location) (names : List String) (directory : Location)
    (target : String) (rest : List String)
    (linked : stretch files true here names = .linked directory target rest) :
    ∃ front name, names = front ++ name :: rest ∧ Follows files here front [] directory ∧
      IsEntryName name ∧ files.entryAt? (directory ++ [name]) = some (.link target) := by
  induction names generalizing here with
  | nil => simp [stretch_at_end] at linked
  | cons name more induction =>
      rw [stretch_step] at linked
      cases hops : hop files true here name more with
      | onward next =>
          rw [hops] at linked
          obtain ⟨front, last, rfl, leads, isLink⟩ := induction next linked
          exact ⟨name :: front, last, rfl,
            follows_of_hop files wellFormed here name _ next hops front [] directory leads, isLink⟩
      | halted result =>
          rw [hops] at linked
          obtain rfl : result = _ := linked
          obtain ⟨rfl, rfl, isLink⟩ := link_of_hop files wellFormed _ _ _ _ _ _ hops
          exact ⟨[], name, rfl, .done _, isLink⟩

end Walked

/-- The targets of the links that a walk follows. -/
def targetsMet (files : Node) : (links : Nat) → Location → List String → List String
  | links, here, names =>
      match stretch files true here names with
      | .linked directory target rest =>
          match links with
          | 0 => []
          | left + 1 =>
              target :: targetsMet files left (linkStart target directory)
                (targetNames target ++ rest)
      | _ => []

/-- A walk leads where its names lead when each link is followed to its end first. -/
theorem follows_of_walk (files : Node) (wellFormed : files.WellFormed) (links : Nat)
    (here : Location) (names : List String) (place : Location)
    (arrived : walk files true links here names = .ok (.existing place)) :
    Follows files here names (targetsMet files links here names) place ∧
      (targetsMet files links here names).length ≤ links := by
  fun_induction targetsMet files links here names with
  | case1 here names directory target rest linked =>
      rw [walk, linked] at arrived
      simp at arrived
  | case2 here names directory target rest linked left induction =>
      rw [walk, linked] at arrived
      obtain ⟨follows, few⟩ := induction arrived
      obtain ⟨middle, inner, others, split, inside, onward⟩ := follows.split
      obtain ⟨front, name, rfl, leads, isName, found⟩ :=
        link_of_stretch files wellFormed here names directory target rest linked
      have written : Follows files (linkStart target directory) (writtenNames target) inner
          middle := by
        rw [← Follows.iff_moving, ← moving_target_names, Follows.iff_moving]
        exact inside
      refine ⟨?_, by simpa using few⟩
      rw [split]
      exact leads.append (.link isName found written onward)
  | case3 links here names notLinked =>
      rw [walk] at arrived
      cases reached : stretch files true here names with
      | linked directory target rest => exact absurd reached (notLinked directory target rest)
      | refused refusal =>
          rw [reached] at arrived
          simp at arrived
      | arrived arrival =>
          rw [reached] at arrived
          obtain rfl : arrival = .existing place := by simpa using arrived
          exact ⟨follows_of_stretch files wellFormed here names place reached, Nat.zero_le _⟩

/-- A link that names meet is met just so with one more name after them. -/
theorem stretch_linked_before (files : Node) (here : Location) (names : List String)
    (last : String) (directory : Location) (target : String) (rest : List String)
    (linked : stretch files true here names = .linked directory target rest) :
    stretch files true here (names ++ [last]) = .linked directory target (rest ++ [last]) := by
  induction names generalizing here with
  | nil => simp [stretch_at_end] at linked
  | cons name more induction =>
      rw [stretch_step] at linked
      rw [List.cons_append, stretch_step]
      unfold hop at linked ⊢
      split_ifs at linked ⊢ with isDirectory isDot isDots tooLong
      · exact induction here linked
      · exact induction here.dropLast linked
      · cases found : files.entryAt? (here ++ [name]) with
        | none =>
            simp only [found, hopOnto] at linked
            split_ifs at linked
        | some entry =>
            simp only [found] at linked
            cases entry with
            | file content => exact induction _ linked
            | directory => exact induction _ linked
            | link known =>
                simp only [hopOnto, Bool.true_or, if_true] at linked ⊢
                obtain ⟨rfl, rfl, rfl⟩ := Stretch.linked.inj linked
                rfl

/-- With one more name no link is met that was not, before those that follow. -/
theorem targets_met_before (files : Node) (links : Nat) (here : Location) (names : List String)
    (last : String) :
    targetsMet files links here names <+: targetsMet files links here (names ++ [last]) := by
  fun_induction targetsMet files links here names with
  | case1 here names directory target rest linked => exact List.nil_prefix
  | case2 here names directory target rest linked left induction =>
      have long := stretch_linked_before files here names last directory target rest linked
      rw [targetsMet.eq_def files (left + 1) here (names ++ [last])]
      simpa [long, List.append_assoc] using induction
  | case3 links here names notLinked => exact List.nil_prefix

end Workspace

end ReadmePress
