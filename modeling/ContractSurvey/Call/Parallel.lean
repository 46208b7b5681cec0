/-
Calls side by side.

Every call is a dialogue of one question, and the dialogues run in a pool.  A call
that fails, in whatever way, becomes an outcome that says so and disturbs no other
call; here a fatal fault is no exception.  Most faults become an outcome where the
call is made.  A fatal fault, and a value that is no byte string, leave the call, and
become an outcome only when all calls have ended.
-/

import ContractSurvey.Call.Basic
import ContractSurvey.Pool

namespace ContractSurvey
namespace Call

/-- What a call makes of its reply: an outcome, or a fault that it does not catch. -/
def Request.attempt (request : Request) : Reply → Except Fault Outcome
  | .ok value => (Fault.ofMisuse value.toBytes).map request.success
  | .error fault =>
      if fault.isFatal then .error fault else .ok (request.failure (reasonOf fault))

/-- The outcome of a call that has ended. -/
def Request.settled (request : Request) : Except Fault Outcome → Outcome
  | .ok outcome => outcome
  | .error fault => request.failure (reasonOf fault)

def Request.outcome (request : Request) (reply : Reply) : Outcome :=
  request.settled (request.attempt reply)

def single (sender : Option Text) (request : Request) :
    Dialogue Chain.Query (Except Fault Outcome) :=
  .ask (.call request.target request.data sender) fun reply =>
    .done (request.attempt reply)

/-- Makes calls side by side, at most a limited number at a time, and gives their
outcomes in the order of the calls. -/
def parallel (limit : Int) (schedule : Pool.Schedule) (sender : Option Text)
    (requests : List Request) : Dialogue Chain.Query (List Outcome) :=
  (Pool.gather limit schedule (requests.map (single sender))).andThen fun ended =>
    .done (List.zipWith Request.settled requests ended)

end Call
end ContractSurvey
