/-
Requests that leave for a chain.

A question whose parts are accepted is answered by means of one request, the one that was
prepared for it, and a question with a part that is refused is answered without any.
-/

import ContractSurvey.Chain.Client
import ContractSurvey.Proofs.Address.Canonical
import ContractSurvey.Proofs.Dialogue.Path

namespace ContractSurvey
namespace Chain
namespace Client

open Dialogue

/-! ### Requests that are made -/

theorem perform_of_refused (fault : Fault) :
    (perform (.error fault)).run = .done (.error fault) :=
  rfl

theorem perform_of_prepared (request : Request) :
    (perform (.ok request)).run = .ask request fun reply => .done (reply.bind bytes) := by
  refine congrArg (Dialogue.ask request) (funext fun reply => ?_)
  cases reply <;> rfl

theorem answer_of_refused {query : Query} {fault : Fault}
    (refused : ofQuery query = .error fault) : answer query = .done (.error fault) := by
  unfold answer
  rw [refused, perform_of_refused]
  rfl

theorem answer_of_prepared {query : Query} {request : Request}
    (prepared : ofQuery query = .ok request) :
    answer query = .ask request fun reply =>
      .done ((reply.bind bytes).map Value.bytes) := by
  unfold answer
  rw [prepared, perform_of_prepared]
  rfl

def requestsFor (query : Query) : List Request :=
  (ofQuery query).toOption.toList

theorem asked_of_answer {query : Query} {exchanges : List (Request × Reply)} {reply : Reply}
    (path : Path (answer query) exchanges reply) :
    exchanges.map Prod.fst = requestsFor query := by
  unfold requestsFor
  cases prepared : ofQuery query with
  | error fault =>
      rw [answer_of_refused prepared] at path
      obtain ⟨rfl, _⟩ := (path_done_iff ..).mp path
      rfl
  | ok request =>
      rw [answer_of_prepared prepared] at path
      obtain ⟨given, rest, rfl, onward⟩ := (path_ask_iff ..).mp path
      obtain ⟨rfl, _⟩ := (path_done_iff ..).mp onward
      rfl

/-! ### Calls -/

/-- The account that makes a call, in its one form. -/
def callerOf (sender : Option Text) : Except Fault (Option Text) :=
  caller ((sender.map Value.text).getD .null)

section Call

variable {target data : Text} {bytes : List UInt8}

theorem account_of_spells (twenty : bytes.length = Address.byteCount)
    (spells : Hex.Spells (Hex.dropMarker target) bytes) :
    account (.text target) = .ok (Address.checksummed (Hex.ofBytes bytes)) := by
  change (Address.ofText target).mapError Fault.address = _
  rw [Address.ofText_of_spells twenty spells]
  rfl

theorem ofQuery_call (twenty : bytes.length = Address.byteCount)
    (spells : Hex.Spells (Hex.dropMarker target) bytes) {sent : Text}
    (given : callData (.text data) = .ok sent) (sender : Option Text) :
    ofQuery (.call target data sender) = (callerOf sender).map
      (.call (Address.checksummed (Hex.ofBytes bytes)) sent) := by
  change (do
    let target ← account (.text target)
    let data ← callData (.text data)
    let sender ← callerOf sender
    return Request.call target data sender) = _
  rw [account_of_spells twenty spells, given]
  cases callerOf sender <;> rfl

end Call

end Client
end Chain
end ContractSurvey
