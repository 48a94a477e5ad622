import ReadmePress.Proofs.FileSystem.Resolution

/-!
Why a path leads nowhere: nothing is there, or a name on the way or the path itself is too long.
Only what is too long is more than an absence.
-/

namespace ReadmePress

open ReadmePress.Text

namespace Workspace

section Walking

variable (files : Node) (followLast : Bool)

theorem hop_onto_refusal (here : Location) (name : String) (rest : List String)
    (found : Option Entry) (refusal : Refusal)
    (halted : hopOnto followLast here name rest found = .halted (.refused refusal)) :
    refusal = .notFound := by
  cases found with
  | none =>
      cases rest with
      | nil => simp [hopOnto] at halted
      | cons next more => simpa [hopOnto, eq_comm] using halted
  | some entry =>
      cases entry with
      | file content => simp [hopOnto] at halted
      | directory => simp [hopOnto] at halted
      | link target =>
          simp only [hopOnto, Hop.halted.injEq] at halted
          split_ifs at halted

theorem hop_refusal (here : Location) (name : String) (rest : List String) (refusal : Refusal)
    (halted : hop files followLast here name rest = .halted (.refused refusal)) :
    refusal.meansAbsent = true ∨ refusal = .nameTooLong ∧ nameLimit < name.utf8ByteSize := by
  unfold hop at halted
  split_ifs at halted with isDirectory isDot isDots tooLong
  · obtain rfl : Refusal.nameTooLong = refusal := by simpa using halted
    exact Or.inr ⟨rfl, tooLong⟩
  · rw [hop_onto_refusal _ _ _ _ _ _ halted]
    exact Or.inl rfl
  · obtain rfl : Refusal.notDirectory = refusal := by simpa using halted
    exact Or.inl rfl

theorem hop_linked (here : Location) (name : String) (rest : List String) (directory : Location)
    (target : String) (left : List String)
    (halted : hop files followLast here name rest = .halted (.linked directory target left)) :
    left = rest ∧ files.entryAt? (here ++ [name]) = some (.link target) := by
  unfold hop at halted
  split_ifs at halted with isDirectory isDot isDots tooLong
  · simp at halted
  · cases found : files.entryAt? (here ++ [name]) with
    | none =>
        rw [found] at halted
        simp only [hopOnto, Hop.halted.injEq] at halted
        split_ifs at halted
    | some entry =>
        rw [found] at halted
        cases entry with
        | file content => simp [hopOnto] at halted
        | directory => simp [hopOnto] at halted
        | link known =>
            simp only [hopOnto, Hop.halted.injEq] at halted
            split_ifs at halted
            obtain ⟨-, rfl, rfl⟩ := Stretch.linked.inj halted
            exact ⟨rfl, rfl⟩
  · simp at halted

theorem stretch_refusal (here : Location) (names : List String) (refusal : Refusal)
    (refused : stretch files followLast here names = .refused refusal) :
    refusal.meansAbsent = true ∨
      refusal = .nameTooLong ∧ ∃ name ∈ names, nameLimit < name.utf8ByteSize := by
  induction names generalizing here with
  | nil => cases refused
  | cons name rest induction =>
      rw [stretch_step] at refused
      split at refused
      next place onward =>
        rcases induction place refused with absent | ⟨isLong, long, member, beyond⟩
        · exact Or.inl absent
        · exact Or.inr ⟨isLong, long, List.mem_cons_of_mem _ member, beyond⟩
      next result halted =>
        subst refused
        rcases hop_refusal files followLast here name rest refusal halted with
          absent | ⟨isLong, beyond⟩
        · exact Or.inl absent
        · exact Or.inr ⟨isLong, name, List.mem_cons_self, beyond⟩

/-- A walk stops only at links that exist, and with names that were still due. -/
theorem stretch_linked (here : Location) (names : List String) (directory : Location)
    (target : String) (left : List String)
    (linked : stretch files followLast here names = .linked directory target left) :
    (∀ name ∈ left, name ∈ names) ∧
      ∃ location, files.entryAt? location = some (.link target) := by
  induction names generalizing here with
  | nil => cases linked
  | cons name rest induction =>
      rw [stretch_step] at linked
      split at linked
      next place onward =>
        exact (induction place linked).imp_left fun members long member =>
          List.mem_cons_of_mem _ (members long member)
      next result halted =>
        subst linked
        obtain ⟨rfl, isLink⟩ := hop_linked files followLast here name rest _ _ _ halted
        exact ⟨fun long member => List.mem_cons_of_mem _ member, _, isLink⟩

/-- A name that is met on the way along names: one of them, or one in the target of a link. -/
def IsOnWay (names : List String) (name : String) : Prop :=
  name ∈ names ∨ ∃ location target, files.entryAt? location = some (.link target) ∧
    name ∈ targetNames target

theorem walk_refusal (links : Nat) (here : Location) (names : List String) (refusal : Refusal)
    (refused : walk files followLast links here names = .error refusal) :
    refusal.meansAbsent = true ∨
      refusal = .nameTooLong ∧
        ∃ name, IsOnWay files names name ∧ nameLimit < name.utf8ByteSize := by
  fun_induction walk files followLast links here names with
  | case1 links here names arrival reached => cases refused
  | case2 links here names known stopped =>
      obtain rfl := Except.error.inj refused
      rcases stretch_refusal files followLast here names known stopped with
        absent | ⟨isLong, name, member, beyond⟩
      · exact Or.inl absent
      · exact Or.inr ⟨isLong, name, Or.inl member, beyond⟩
  | case3 here names directory target rest linked =>
      obtain rfl := Except.error.inj refused
      exact Or.inl rfl
  | case4 here names directory target rest linked left induction =>
      obtain ⟨due, location, isLink⟩ := stretch_linked files followLast here names _ _ _ linked
      rcases induction refused with absent | ⟨isLong, name, member | inTarget, beyond⟩
      · exact Or.inl absent
      · refine Or.inr ⟨isLong, name, ?_, beyond⟩
        rcases List.mem_append.mp member with inTarget | isDue
        · exact Or.inr ⟨location, target, isLink, inTarget⟩
        · exact Or.inl (due name isDue)
      · exact Or.inr ⟨isLong, name, Or.inr inTarget, beyond⟩

end Walking

/-- A path holds a null character, leads to nothing, or is too long or has a name on its way that
is. -/
theorem look_up_refusal (workspace : Workspace) (followLast : Bool) (path : Path)
    (fault : FileFault) (refused : workspace.lookUp followLast path = .error fault) :
    fault = .embeddedNull ∨
      ∃ refusal, fault = .refused refusal path.text ∧
        (refusal.meansAbsent = true ∨ refusal = .nameTooLong ∧
          (pathLimit ≤ path.text.utf8ByteSize ∨
            ∃ name, IsOnWay workspace.files path.components name ∧
              nameLimit < name.utf8ByteSize)) := by
  unfold lookUp arrive at refused
  cases checked : checkedText path with
  | error known =>
      obtain rfl : known = fault := by simpa [checked, bind, Except.bind] using refused
      unfold checkedText at checked
      simp only at checked
      split_ifs at checked with null tooLong
      · exact Or.inl (Except.error.inj checked).symm
      · exact Or.inr ⟨.nameTooLong, (Except.error.inj checked).symm, Or.inr ⟨rfl, Or.inl tooLong⟩⟩
  | ok text =>
      obtain ⟨isText, -⟩ := (checked_text_iff _ _).mp checked
      subst isText
      simp only [checked, bind, Except.bind] at refused
      right
      cases walked : walk workspace.files followLast linkLimit
          (if path.isAbsolute then [] else workspace.workingDirectory) path.components with
      | error refusal =>
          simp only [walked] at refused
          refine ⟨refusal, (Except.error.inj refused).symm, ?_⟩
          rcases walk_refusal _ _ _ _ _ _ walked with absent | ⟨isLong, long⟩
          · exact Or.inl absent
          · exact Or.inr ⟨isLong, Or.inr long⟩
      | ok arrival =>
          refine ⟨.notFound, ?_, Or.inl rfl⟩
          simp only [walked] at refused
          split at refused
          next => exact (Except.error.inj refused).symm
          next =>
            split at refused
            next => cases refused
            next => exact (Except.error.inj refused).symm

end Workspace

end ReadmePress
