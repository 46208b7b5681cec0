/-
What comes of the calls of a survey.

Both ways of making calls give one outcome for each call, in the order of the calls and
under the selectors of their data.  An outcome that failed has no data but a reason, and
one that succeeded has no reason.  Ordinary faults become outcomes and stop nothing.
-/

import ContractSurvey.Proofs.Analysis.Stage
import ContractSurvey.Proofs.Call.Batch

namespace ContractSurvey

open Dialogue

namespace Call

/-! ### Outcomes -/

/-- An outcome that has a reason exactly when the call failed, and then no data. -/
structure Outcome.IsConsistent (outcome : Outcome) : Prop where
  ofSuccess : outcome.succeeded = true → outcome.revertReason = none
  ofFailure : outcome.succeeded = false →
    outcome.returnData = "0x".toList ∧ ∃ reason, outcome.revertReason = some reason

/-- An outcome of a call. -/
def Request.IsAnsweredBy (request : Request) (outcome : Outcome) : Prop :=
  outcome.selector = request.selector ∧ outcome.IsConsistent

theorem Request.success_isAnsweredBy (request : Request) (returned : List UInt8) :
    request.IsAnsweredBy (request.success returned) :=
  ⟨rfl, fun _ => rfl, fun failed => by cases failed⟩

theorem Request.failure_isAnsweredBy (request : Request) (reason : Text) :
    request.IsAnsweredBy (request.failure reason) :=
  ⟨rfl, (fun succeeded => by cases succeeded), fun _ => ⟨rfl, reason, rfl⟩⟩

theorem Request.outcome_isAnsweredBy (request : Request) (reply : Reply) :
    request.IsAnsweredBy (request.outcome reply) := by
  cases reply with
  | error fault =>
      rw [outcome_error]
      exact request.failure_isAnsweredBy _
  | ok value =>
      cases converted : value.toBytes with
      | ok content =>
          rw [outcome_of_bytes request converted]
          exact request.success_isAnsweredBy content
      | error misuse =>
          rw [outcome_of_misuse request converted]
          exact request.failure_isAnsweredBy _

theorem map_selector_of_answered {requests : List Request} {outcomes : List Outcome}
    (answered : List.Forall₂ Request.IsAnsweredBy requests outcomes) :
    outcomes.map (·.selector) = requests.map (·.selector) := by
  induction answered with
  | nil => rfl
  | cons first _ ih => rw [List.map_cons, List.map_cons, first.1, ih]

theorem isConsistent_of_answered {requests : List Request} {outcomes : List Outcome}
    (answered : List.Forall₂ Request.IsAnsweredBy requests outcomes) :
    ∀ outcome ∈ outcomes, outcome.IsConsistent := by
  induction answered with
  | nil => exact List.forall_mem_nil _
  | cons first _ ih => exact List.forall_mem_cons.mpr ⟨first.2, ih⟩

/-! ### Calls side by side -/

theorem parallel_answered {limit : Int} {schedule : Pool.Schedule} {sender : Option Text}
    {requests : List Request} {exchanges : List (Chain.Query × Reply)}
    {outcomes : List Outcome}
    (path : Path (parallel limit schedule sender requests) exchanges outcomes) :
    List.Forall₂ Request.IsAnsweredBy requests outcomes := by
  obtain ⟨replies, placed, order, rfl⟩ := exists_replies path
  clear path order
  induction requests generalizing replies with
  | nil => exact .nil
  | cons request rest ih =>
      cases replies with
      | nil => cases placed
      | cons reply later =>
          exact .cons (request.outcome_isAnsweredBy reply) (ih later (Nat.succ.inj placed))

/-! ### Calls in one round trip -/

namespace Batch

theorem outcomes_answered (reason : Text) (requests : List Request)
    (results : List Result) :
    List.Forall₂ Request.IsAnsweredBy requests
      (outcomes (some reason) requests results) := by
  induction requests generalizing results with
  | nil => exact .nil
  | cons request rest ih =>
      cases results with
      | nil => exact .cons (request.failure_isAnsweredBy reason) (ih [])
      | cons result later =>
          refine .cons ?_ (ih later)
          split
          · exact ⟨rfl, fun _ => rfl, fun failed => by cases failed⟩
          · exact request.failure_isAnsweredBy reason

theorem outcomesThrough_answered {aggregator : Text} {requests : List Request}
    {exchanges : List (Chain.Query × Reply)} {answers : List Outcome}
    (path : Path (outcomesThrough aggregator requests).run exchanges (.ok answers)) :
    List.Forall₂ Request.IsAnsweredBy requests answers := by
  obtain ⟨ended, _, same⟩ := (path_outcomesThrough_iff ..).mp path
  obtain ⟨reason, results, rfl, _⟩ := outcomesAfter_eq_ok same.symm
  exact outcomes_answered reason requests results

private theorem spelledOut_ordinary {request : Request} {fault : Fault}
    (refused : spelledOut request = .error fault) : fault.isFatal = false := by
  unfold spelledOut at refused
  rcases cases_of_bind_eq_error refused with target | ⟨target, _, onward⟩
  · obtain ⟨refusal, rfl⟩ := exists_of_mapError_eq_error target
    rfl
  · rcases cases_of_bind_eq_error onward with data | ⟨data, _, impossible⟩
    · obtain ⟨refusal, rfl⟩ := exists_of_mapError_eq_error data
      rfl
    · cases impossible

private theorem spelledOutAll_ordinary {requests : List Request} {fault : Fault}
    (refused : spelledOutAll requests = .error fault) : fault.isFatal = false := by
  induction requests with
  | nil => cases refused
  | cons request rest ih =>
      rcases cases_of_bind_eq_error refused with first | ⟨first, _, onward⟩
      · exact spelledOut_ordinary first
      · rcases cases_of_bind_eq_error onward with others | ⟨others, _, impossible⟩
        · exact ih others
        · cases impossible

private theorem encode_ordinary {requests : List Request} {fault : Fault}
    (refused : encode requests = .error fault) : fault.isFatal = false := by
  rcases cases_of_bind_eq_error refused with calls | ⟨calls, _, impossible⟩
  · exact spelledOutAll_ordinary calls
  · cases impossible

private theorem resultsIn_ordinary {reply : Value} {fault : Fault}
    (refused : resultsIn reply = .error fault) : fault.isFatal = false := by
  unfold resultsIn at refused
  split at refused
  · cases refused
  · split at refused
    · rename_i data present
      unfold decode at refused
      cases read : (Abi.readResults data).mapError Fault.encoding with
      | ok results =>
          rw [read] at refused
          cases refused
      | error cause =>
          rw [read] at refused
          cases refused
          obtain ⟨reason, rfl⟩ := exists_of_mapError_eq_error read
          rfl
    · cases refused
      rfl

theorem invoke_ordinary {aggregator : Text} {requests : List Request}
    {exchanges : List (Chain.Query × Reply)} {fault : Fault}
    (ordinary : ∀ exchange ∈ exchanges, exchange.2.IsOrdinary)
    (path : Path (invoke aggregator requests).run exchanges (.error fault)) :
    fault.isFatal = false := by
  unfold invoke at path
  split at path
  · obtain ⟨_, impossible⟩ := (path_done_iff ..).mp path
    cases impossible
  · rcases (path_bind_iff ..).mp path with
      ⟨stop, same, encoded⟩ | ⟨data, front, behind, rfl, _, onward⟩
    · cases same
      obtain ⟨_, refused⟩ := (Attempt.path_ofExcept_iff ..).mp encoded
      exact encode_ordinary refused.symm
    · have calm := (List.forall_mem_append.mp ordinary).2
      rcases (path_bind_iff ..).mp onward with
        ⟨stop, same, asked⟩ | ⟨reply, before, last, rfl, _, read⟩
      · cases same
        rw [(Attempt.path_question_iff ..).mp asked] at calm
        exact calm _ (List.mem_cons_self ..) fault rfl
      · obtain ⟨_, refused⟩ := (Attempt.path_ofExcept_iff ..).mp read
        exact resultsIn_ordinary refused.symm

theorem yields_outcomesThrough (aggregator : Text) (requests : List Request) :
    Yields (fun _ reply => reply.IsOrdinary) (outcomesThrough aggregator requests)
      fun _ => True := by
  intro exchanges outcome ordinary path
  obtain ⟨ended, invoked, rfl⟩ := (path_outcomesThrough_iff ..).mp path
  cases ended with
  | ok results => exact ⟨_, rfl, trivial⟩
  | error fault =>
      have calm : fault.isFatal = false := invoke_ordinary ordinary invoked
      exact ⟨_, if_neg (Bool.eq_false_iff.mp calm), trivial⟩

end Batch
end Call

/-! ### Both ways -/

namespace Analysis

/-- There are no calls to make, an aggregator makes them, or each is made by itself. -/
theorem path_invoke_cases {plan : Plan} {report : Report} {calls : List Call.Request}
    {exchanges : List (Query × Reply)} {outcome : Except Interruption (List Call.Outcome)}
    (path : Path (invoke plan report calls).run exchanges outcome) :
    (calls = [] ∧ exchanges = [] ∧ outcome = .ok []) ∨
    (plan.usesBatch = true ∧ ∃ inner ended, exchanges = inner.map (Prod.map Query.chain id) ∧
      Path (Call.Batch.outcomesThrough plan.aggregator calls).run inner ended ∧
      outcome = ended.mapError fun fault => ⟨fault, report⟩) ∨
    (plan.usesBatch = false ∧ ∃ inner outcomes, exchanges = inner.map (Prod.map Query.chain id) ∧
      Path (Call.parallel plan.callLimit plan.schedule plan.sender calls) inner outcomes ∧
      outcome = .ok outcomes) := by
  unfold invoke at path
  split at path
  · rename_i none
    obtain ⟨rfl, rfl⟩ := (path_done_iff ..).mp path
    exact Or.inl ⟨List.isEmpty_iff.mp none, rfl, rfl⟩
  · split at path
    · rename_i batched
      exact Or.inr (Or.inl ⟨batched, (Stage.path_ofChain_iff ..).mp path⟩)
    · rename_i alone
      obtain ⟨inner, ended, rfl, asked, rfl⟩ := (Stage.path_ofChain_iff ..).mp path
      obtain ⟨outcomes, made, rfl⟩ := (path_andThen_done_iff ..).mp asked
      exact Or.inr (Or.inr ⟨Bool.eq_false_iff.mpr alone, inner, outcomes, rfl, made, rfl⟩)

theorem invoke_answered {plan : Plan} {report : Report} {calls : List Call.Request}
    {exchanges : List (Query × Reply)} {outcomes : List Call.Outcome}
    (path : Path (invoke plan report calls).run exchanges (.ok outcomes)) :
    List.Forall₂ Call.Request.IsAnsweredBy calls outcomes := by
  rcases path_invoke_cases path with
    ⟨rfl, _, same⟩ | ⟨_, inner, ended, _, asked, same⟩ | ⟨_, inner, answers, _, made, same⟩
  · cases same
    exact .nil
  · rw [(mapError_eq_ok_iff ..).mp same.symm] at asked
    exact Call.Batch.outcomesThrough_answered asked
  · cases same
    exact Call.parallel_answered made

/-- Making calls fails with no outside that reports ordinary faults only. -/
theorem yields_invoke (plan : Plan) (report : Report) (calls : List Call.Request) :
    Yields (fun query reply => (∃ asked, query = .chain asked) → reply.IsOrdinary)
      (invoke plan report calls) fun _ => True := by
  intro exchanges outcome ordinary path
  rcases path_invoke_cases path with
    ⟨_, _, rfl⟩ | ⟨_, inner, ended, rfl, asked, rfl⟩ | ⟨_, inner, answers, _, _, rfl⟩
  · exact ⟨_, rfl, trivial⟩
  · have calm : ∀ exchange ∈ inner, exchange.2.IsOrdinary := by
      intro exchange member
      exact ordinary _ (List.mem_map.mpr ⟨exchange, member, rfl⟩) ⟨_, rfl⟩
    obtain ⟨answers, rfl, _⟩ :=
      Call.Batch.yields_outcomesThrough plan.aggregator calls inner ended calm asked
    exact ⟨answers, rfl, trivial⟩
  · exact ⟨answers, rfl, trivial⟩

end Analysis
end ContractSurvey
