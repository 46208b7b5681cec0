/-
Work that may stop.

Work done in several steps succeeds when each of its steps does, and it stops with the fault
of the first step that fails.
-/

import Mathlib.Data.List.Forall2

namespace ContractSurvey

variable {First Second Stop Value Found : Type}

theorem mapError_eq_ok_iff (change : First → Second) (work : Except First Value)
    (value : Value) : work.mapError change = .ok value ↔ work = .ok value := by
  cases work with
  | ok held =>
      change Except.ok held = .ok value ↔ _
      rw [Except.ok.injEq, Except.ok.injEq]
  | error fault =>
      constructor <;> intro impossible <;> cases impossible

theorem exists_of_mapError_eq_error {change : First → Second} {work : Except First Value}
    {fault : Second} (failed : work.mapError change = .error fault) :
    ∃ cause, fault = change cause := by
  cases work with
  | ok held => cases failed
  | error cause => exact ⟨cause, (Except.error.inj failed).symm⟩

theorem exists_of_bind_eq_ok {work : Except Stop Value} {next : Value → Except Stop Found}
    {found : Found} (given : work.bind next = .ok found) :
    ∃ value, work = .ok value ∧ next value = .ok found := by
  cases work with
  | ok value => exact ⟨value, rfl, given⟩
  | error cause => cases given

theorem cases_of_bind_eq_error {work : Except Stop Value} {next : Value → Except Stop Found}
    {stop : Stop} (failed : (work >>= next) = .error stop) :
    work = .error stop ∨ ∃ value, work = .ok value ∧ next value = .error stop := by
  cases work with
  | ok value => exact Or.inr ⟨value, rfl, failed⟩
  | error cause => exact Or.inl (congrArg Except.error (Except.error.inj failed))

/-- A list is worked off when each of its items is. -/
theorem mapM_eq_ok_iff (work : First → Except Stop Value) (items : List First)
    (values : List Value) :
    items.mapM work = .ok values ↔
      List.Forall₂ (fun item value => work item = .ok value) items values := by
  induction items generalizing values with
  | nil =>
      rw [List.mapM_nil, List.forall₂_nil_left_iff]
      change Except.ok [] = .ok values ↔ _
      rw [Except.ok.injEq, eq_comm]
  | cons item rest ih =>
      rw [List.mapM_cons, List.forall₂_cons_left_iff]
      constructor
      · intro given
        cases first : work item with
        | error stop =>
            rw [first] at given
            cases given
        | ok value =>
            cases later : rest.mapM work with
            | error stop =>
                rw [first, later] at given
                cases given
            | ok others =>
                rw [first, later] at given
                cases given
                exact ⟨value, others, rfl, (ih others).mp later, rfl⟩
      · rintro ⟨value, others, first, later, rfl⟩
        rw [first, (ih others).mpr later]
        rfl

theorem exists_of_mapM_eq_error {work : First → Except Stop Value} {items : List First}
    {stop : Stop} (failed : items.mapM work = .error stop) :
    ∃ item ∈ items, work item = .error stop := by
  induction items with
  | nil => cases failed
  | cons item rest ih =>
      rw [List.mapM_cons] at failed
      rcases cases_of_bind_eq_error failed with first | ⟨value, _, onward⟩
      · exact ⟨item, List.mem_cons_self .., first⟩
      · rcases cases_of_bind_eq_error onward with later | ⟨others, _, impossible⟩
        · obtain ⟨found, member, same⟩ := ih later
          exact ⟨found, List.mem_cons_of_mem item member, same⟩
        · cases impossible

end ContractSurvey
