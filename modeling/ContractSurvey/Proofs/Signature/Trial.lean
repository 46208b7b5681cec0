/-
Searches lookup by lookup.

A search asks its lookups in their order.  An answer that tells something and a fatal fault end
it, and no lookup behind is asked; any other answer and any other fault let it go on.  A lookup
may answer differently each time it is asked.
-/

import Mathlib.Data.List.Forall2
import ContractSurvey.Signature.Resolver
import ContractSurvey.Proofs.Dialogue.Path

namespace ContractSurvey
namespace Signature

open Dialogue

/-- A lookup that was asked: what it asked itself, and how it ended. -/
structure Trial where
  exchanges : List (Query × Reply)
  ended : Except Fault Value

/-- Ends of a lookup that end the search: an answer that is present and no echo of the
selector, or a fatal fault. -/
inductive Settles (selector : Text) : Except Fault Value → Prop
  | told {answer : Value} (present : answer.isPresent = true)
      (other : answer ≠ .text selector) : Settles selector (.ok answer)
  | broken {fault : Fault} (fatal : fault.isFatal = true) : Settles selector (.error fault)

theorem settles_ok_iff (selector : Text) (answer : Value) :
    Settles selector (.ok answer) ↔ isHit selector answer = true := by
  have echo : isHit selector answer = true ↔
      answer.isPresent = true ∧ answer ≠ .text selector := by
    cases answer <;> simp [isHit]
  rw [echo]
  constructor
  · rintro ⟨present, other⟩
    exact ⟨present, other⟩
  · rintro ⟨present, other⟩
    exact .told present other

theorem settles_error_iff (selector : Text) (fault : Fault) :
    Settles selector (.error fault) ↔ fault.isFatal = true := by
  constructor
  · rintro ⟨⟩
    assumption
  · exact .broken

/-- Lookups are asked for a selector, the first of a list up to the one that settles it, or all
of them, which finds nothing. -/
structure Searched (lookups : List Lookup) (selector : Text) (trials : List Trial)
    (outcome : Except Fault Value) : Prop where
  asked : List.Forall₂ (fun lookup trial => Path (lookup selector).run trial.exchanges
    trial.ended) (lookups.take trials.length) trials
  decided : (trials.length = lookups.length ∧ outcome = .ok .null ∧
      ∀ trial ∈ trials, ¬Settles selector trial.ended) ∨
    ∃ front last, trials = front ++ [last] ∧ (∀ trial ∈ front, ¬Settles selector trial.ended) ∧
      Settles selector last.ended ∧ outcome = last.ended

section Searched

variable {lookup : Lookup} {lookups : List Lookup} {selector : Text} {trial : Trial}
  {trials : List Trial} {outcome : Except Fault Value}

theorem searched_nil (selector : Text) : Searched [] selector [] (.ok .null) :=
  ⟨.nil, .inl ⟨rfl, rfl, by simp⟩⟩

theorem searched_of_settles (path : Path (lookup selector).run trial.exchanges trial.ended)
    (settles : Settles selector trial.ended) :
    Searched (lookup :: lookups) selector [trial] trial.ended :=
  ⟨.cons path .nil, .inr ⟨[], trial, rfl, by simp, settles, rfl⟩⟩

theorem Searched.cons (searched : Searched lookups selector trials outcome)
    (path : Path (lookup selector).run trial.exchanges trial.ended)
    (passes : ¬Settles selector trial.ended) :
    Searched (lookup :: lookups) selector (trial :: trials) outcome := by
  refine ⟨.cons path searched.asked, ?_⟩
  rcases searched.decided with ⟨all, nothing, passed⟩ | ⟨front, last, rfl, passed, settled⟩
  · exact .inl ⟨congrArg (· + 1) all, nothing, List.forall_mem_cons.mpr ⟨passes, passed⟩⟩
  · exact .inr ⟨trial :: front, last, rfl, List.forall_mem_cons.mpr ⟨passes, passed⟩, settled⟩

/-- Only a fatal fault breaks a search off. -/
theorem Searched.isFatal {fault : Fault}
    (searched : Searched lookups selector trials (.error fault)) : fault.isFatal = true := by
  rcases searched.decided with ⟨_, impossible, _⟩ | ⟨_, last, _, _, settles, same⟩
  · cases impossible
  · rw [← same] at settles
    exact (settles_error_iff ..).mp settles

/-- A search asks its first lookup, and the others only when that one lets it go on. -/
theorem path_search_cons_iff (lookup : Lookup) (rest : List Lookup) (selector : Text)
    (exchanges : List (Query × Reply)) (outcome : Except Fault Value) :
    Path (search selector (lookup :: rest)).run exchanges outcome ↔
      ∃ front behind ended, exchanges = front ++ behind ∧ Path (lookup selector).run front ended ∧
        (Settles selector ended ∧ behind = [] ∧ outcome = ended ∨
          ¬Settles selector ended ∧ Path (search selector rest).run behind outcome) := by
  refine (path_andThen_iff ..).trans ?_
  refine exists_congr fun front => exists_congr fun behind => exists_congr fun ended =>
    and_congr_right fun _ => and_congr_right fun _ => ?_
  cases ended with
  | ok answer =>
      rw [settles_ok_iff]
      by_cases hit : isHit selector answer = true
      · simp [hit, path_done_iff]
      · simp [hit]
  | error fault =>
      rw [settles_error_iff]
      by_cases fatal : fault.isFatal = true
      · simp [fatal, path_done_iff]
      · simp [fatal]

/-- Every search is made of trials of its lookups. -/
theorem exists_trials {exchanges : List (Query × Reply)}
    (path : Path (search selector lookups).run exchanges outcome) :
    ∃ trials, exchanges = trials.flatMap Trial.exchanges ∧
      Searched lookups selector trials outcome := by
  induction lookups generalizing exchanges with
  | nil =>
      obtain ⟨rfl, rfl⟩ := (path_done_iff ..).mp path
      exact ⟨[], rfl, searched_nil selector⟩
  | cons lookup rest ih =>
      obtain ⟨front, behind, ended, rfl, asked, onward⟩ := (path_search_cons_iff ..).mp path
      rcases onward with ⟨settles, rfl, rfl⟩ | ⟨passes, later⟩
      · exact ⟨[⟨front, outcome⟩], by simp, searched_of_settles asked settles⟩
      · obtain ⟨trials, same, searched⟩ := ih later
        exact ⟨⟨front, ended⟩ :: trials, by rw [same]; rfl, searched.cons asked passes⟩

end Searched

end Signature
end ContractSurvey
