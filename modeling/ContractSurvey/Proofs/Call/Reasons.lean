/-
The reasons of failed calls.

A call fails exactly when there is a fault in the reply to it: the one that was raised, or the one
of a reply that is no byte string and cannot become one.  Whatever the fault is, its text is made
into a reason that is fit to be shown, in a run of any number of calls side by side.
-/

import ContractSurvey.Proofs.Call.Parallel
import ContractSurvey.Proofs.RevertReason.Form

namespace ContractSurvey
namespace Call

open Dialogue RevertReason

/-- The outcome of a call that has failed carries a reason for what is wrong with its reply. -/
structure Outcome.IsExplained (reply : Reply) (outcome : Outcome) : Prop where
  failed : outcome.succeeded = false ↔ ∃ fault, FailsWith reply fault
  reasoned : ∀ fault, FailsWith reply fault →
    ∃ reason, outcome.revertReason = some reason ∧ IsWellFormed (some fault.detail) reason

theorem failsWith_or_converts (reply : Reply) :
    (∃ fault, FailsWith reply fault) ∨
      ∃ value content, reply = .ok value ∧ value.toBytes = .ok content := by
  cases reply with
  | error fault => exact Or.inl ⟨fault, .raised fault⟩
  | ok value =>
      cases converted : value.toBytes with
      | error cause => exact Or.inl ⟨.misuse cause, .unconverted converted⟩
      | ok content => exact Or.inr ⟨value, content, rfl, converted⟩

theorem FailsWith.not_converts {reply : Reply} {fault : Fault} (failed : FailsWith reply fault) :
    ¬∃ value content, reply = .ok value ∧ value.toBytes = .ok content := by
  rintro ⟨value, content, same, converts⟩
  cases failed with
  | raised => cases same
  | unconverted refused =>
      cases same
      rw [refused] at converts
      cases converts

theorem Request.outcome_isExplained (request : Request) (reply : Reply) :
    (request.outcome reply).IsExplained reply := by
  have tells := request.outcome_tells reply
  constructor
  · rw [← Bool.not_eq_true, tells.succeeded]
    constructor
    · exact (failsWith_or_converts reply).resolve_right
    · rintro ⟨fault, failed⟩
      exact failed.not_converts
  · intro fault failed
    exact ⟨_, (tells.ofFault fault failed).2, normalized_isWellFormed _⟩

private theorem outcomes_areExplained {requests : List Request} {replies : List Reply}
    (placed : replies.length = requests.length) :
    List.Forall₂ Outcome.IsExplained replies (List.zipWith Request.outcome requests replies) := by
  induction requests generalizing replies with
  | nil =>
      rw [List.length_eq_zero_iff.mp placed]
      exact .nil
  | cons request rest ih =>
      cases replies with
      | nil => cases placed
      | cons reply later =>
          exact .cons (request.outcome_isExplained reply) (ih (Nat.succ.inj placed))

/-- The reason for any failure text, and for none, is fit to be shown.  So each call of a run has
a reply of its own, and its outcome says that it failed exactly when there is a fault in this
reply, and then carries such a reason for the text of the fault. -/
theorem reasons_areWellFormed :
    (∀ source, IsWellFormed source (normalized source)) ∧
    ∀ {limit : Int} {schedule : Pool.Schedule} {sender : Option Text} {requests : List Request}
      {exchanges : List (Chain.Query × Reply)} {outcomes : List Outcome},
      Path (parallel limit schedule sender requests) exchanges outcomes →
      ∃ replies : List Reply, replies.length = requests.length ∧
        exchanges.Perm ((requests.map (Request.query sender)).zip replies) ∧
        List.Forall₂ Outcome.IsExplained replies outcomes := by
  refine ⟨normalized_isWellFormed, ?_⟩
  intro limit schedule sender requests exchanges outcomes path
  obtain ⟨replies, placed, order, made⟩ := exists_replies path
  rw [made]
  exact ⟨replies, placed, order, outcomes_areExplained placed⟩

/-- Of the four mixed calls two fail, one with a fatal fault and one for its reply. -/
theorem reasons_areWellFormed_mixedCalls :
    let outcomes := (parallel 2 [1, 0, 1] none mixedCalls).answeredBy mixedReplies
    (∃ replies : List Reply, replies.length = mixedCalls.length ∧
      List.Forall₂ Outcome.IsExplained replies outcomes) ∧
    outcomes.map Outcome.revertReason =
      [none, some "paused by owner".toList, none,
        some "string argument without an encoding".toList] := by
  intro outcomes
  have path := path_answeredBy mixedReplies (parallel 2 [1, 0, 1] none mixedCalls)
  obtain ⟨replies, placed, _, explained⟩ := reasons_areWellFormed.2 path
  exact ⟨⟨replies, placed, explained⟩, by decide +kernel⟩

end Call
end ContractSurvey
