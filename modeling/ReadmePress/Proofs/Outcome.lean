import ReadmePress.Log.Record

/-!
Outcomes of computations: which of them succeed when a fault is restated, and what has succeeded
on the way when a computation of several steps does.
-/

namespace ReadmePress

theorem map_error_ok_iff {Fault OtherFault Value : Type} (restate : Fault → OtherFault)
    (outcome : Except Fault Value) (value : Value) :
    outcome.mapError restate = .ok value ↔ outcome = .ok value := by
  cases outcome with
  | error fault => exact ⟨nofun, nofun⟩
  | ok found =>
      constructor
      · intro same
        exact congrArg Except.ok (Except.ok.inj same)
      · intro same
        exact congrArg Except.ok (Except.ok.inj same)

theorem map_error_error {Fault OtherFault Value : Type} (restate : Fault → OtherFault)
    (outcome : Except Fault Value) (fault : OtherFault)
    (failed : outcome.mapError restate = .error fault) :
    ∃ cause, outcome = .error cause ∧ fault = restate cause := by
  cases outcome with
  | error cause => exact ⟨cause, rfl, (Except.error.inj failed).symm⟩
  | ok value => exact absurd failed nofun

theorem bind_succeeds {Fault Value Other : Type} (first : Except Fault Value)
    (next : Value → Except Fault Other) (other : Other) (succeeds : first >>= next = .ok other) :
    ∃ value, first = .ok value ∧ next value = .ok other := by
  cases first with
  | error fault => exact absurd succeeds nofun
  | ok value => exact ⟨value, rfl, succeeds⟩

theorem map_succeeds {Fault Value Other : Type} (change : Value → Other)
    (outcome : Except Fault Value) (other : Other) (succeeds : outcome.map change = .ok other) :
    ∃ value, outcome = .ok value ∧ change value = other := by
  cases outcome with
  | error fault => exact absurd succeeds nofun
  | ok value => exact ⟨value, rfl, Except.ok.inj succeeds⟩

theorem to_option_some_iff {Fault Value : Type} (outcome : Except Fault Value) (value : Value) :
    outcome.toOption = some value ↔ outcome = .ok value := by
  cases outcome with
  | error fault => exact ⟨nofun, nofun⟩
  | ok found =>
      constructor
      · intro same
        exact congrArg Except.ok (Option.some.inj same)
      · intro same
        exact congrArg some (Except.ok.inj same)

namespace Traced

variable {Fault Value Other : Type}

theorem bind_ok (first : Traced Fault Value) (next : Value → Traced Fault Other) (other : Other)
    (succeeds : (first >>= next).outcome = .ok other) :
    ∃ value, first.outcome = .ok value ∧ (next value).outcome = .ok other := by
  have step : (first >>= next) = Traced.bind first next := rfl
  cases outcome : first.outcome with
  | error fault => simp [step, Traced.bind, outcome] at succeeds
  | ok value => exact ⟨value, rfl, by simpa [step, Traced.bind, outcome] using succeeds⟩

/-- A computation of two steps fails in the first one or, where that succeeds, in the second. -/
theorem bind_error (first : Traced Fault Value) (next : Value → Traced Fault Other)
    (fault : Fault) (failed : (first >>= next).outcome = .error fault) :
    first.outcome = .error fault ∨
      ∃ value, first.outcome = .ok value ∧ (next value).outcome = .error fault := by
  have step : (first >>= next) = Traced.bind first next := rfl
  cases outcome : first.outcome with
  | error cause => exact Or.inl (by simpa [step, Traced.bind, outcome] using failed)
  | ok value => exact Or.inr ⟨value, rfl, by simpa [step, Traced.bind, outcome] using failed⟩

theorem bind_outcome (first : Traced Fault Value) (next : Value → Traced Fault Other)
    (value : Value) (succeeds : first.outcome = .ok value) :
    (first >>= next).outcome = (next value).outcome := by
  have step : (first >>= next) = Traced.bind first next := rfl
  rw [step, Traced.bind, succeeds]

/-- Computations that go on alike from what the first one gives are the same. -/
theorem bind_congr (first : Traced Fault Value) (next other : Value → Traced Fault Other)
    (same : ∀ value, first.outcome = .ok value → next value = other value) :
    first >>= next = first >>= other := by
  change Traced.bind first next = Traced.bind first other
  unfold Traced.bind
  cases outcome : first.outcome with
  | error fault => rfl
  | ok value => simp only [same value outcome]

/-- Two computations leave the same records and fail alike, or succeed with related values. -/
def Agree (related : Value → Other → Prop) (first : Traced Fault Value)
    (second : Traced Fault Other) : Prop :=
  first.records = second.records ∧
    match first.outcome, second.outcome with
    | .ok value, .ok other => related value other
    | .error fault, .error cause => fault = cause
    | _, _ => False

theorem agree_pure (related : Value → Other → Prop) (value : Value) (other : Other)
    (isRelated : related value other) :
    Agree related (Traced.pure value : Traced Fault Value) (Traced.pure other) :=
  ⟨rfl, isRelated⟩

theorem agree_refl (first : Traced Fault Value) : Agree Eq first first := by
  refine ⟨rfl, ?_⟩
  cases first.outcome <;> rfl

theorem eq_of_agree (first second : Traced Fault Value) (agree : Agree Eq first second) :
    first = second := by
  obtain ⟨outcome, records⟩ := first
  obtain ⟨otherOutcome, otherRecords⟩ := second
  obtain ⟨rfl, same⟩ := agree
  cases outcome <;> cases otherOutcome <;> simp_all

/-- Computations that go on alike from related values agree. -/
theorem agree_bind {Further Last : Type} (related : Value → Other → Prop)
    (further : Further → Last → Prop) (first : Traced Fault Value) (second : Traced Fault Other)
    (next : Value → Traced Fault Further) (after : Other → Traced Fault Last)
    (agree : Agree related first second)
    (onward : ∀ value other, related value other → Agree further (next value) (after other)) :
    Agree further (first >>= next) (second >>= after) := by
  change Agree further (Traced.bind first next) (Traced.bind second after)
  obtain ⟨outcome, records⟩ := first
  obtain ⟨otherOutcome, otherRecords⟩ := second
  obtain ⟨rfl, same⟩ := agree
  cases outcome with
  | error fault =>
      cases otherOutcome with
      | error cause => exact ⟨rfl, same⟩
      | ok other => exact absurd same id
  | ok value =>
      cases otherOutcome with
      | error cause => exact absurd same id
      | ok other =>
          obtain ⟨sameRecords, sameOutcome⟩ := onward value other same
          exact ⟨congrArg (records ++ ·) sameRecords, sameOutcome⟩

/-- A first step that both share can be left out of a comparison. -/
theorem agree_after {Further Last : Type} (further : Further → Last → Prop)
    (first : Traced Fault Value) (next : Value → Traced Fault Further)
    (after : Value → Traced Fault Last)
    (onward : ∀ value, first.outcome = .ok value → Agree further (next value) (after value)) :
    Agree further (first >>= next) (first >>= after) := by
  have itself : Agree (fun value other => value = other ∧ first.outcome = .ok value)
      first first := by
    refine ⟨rfl, ?_⟩
    cases first.outcome with
    | error fault => rfl
    | ok value => exact ⟨rfl, rfl⟩
  apply agree_bind _ further first first next after itself
  rintro value other ⟨rfl, given⟩
  exact onward value given

theorem each_congr (run other : Value → Traced Fault Other) (values : List Value)
    (same : ∀ value ∈ values, run value = other value) :
    Traced.each run values = Traced.each other values := by
  induction values with
  | nil => rfl
  | cons value rest induction =>
      have here := same value List.mem_cons_self
      have later := induction fun value member => same value (List.mem_cons_of_mem _ member)
      unfold Traced.each
      rw [here, later]

end Traced

end ReadmePress
