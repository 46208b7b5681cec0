/-
Calls in one round trip.

An aggregator contract makes a list of calls and gives the result of each.  The calls
are written as contract data, a single call carries them, and the results are read
from what it returns.  A call that fails does not stop the others, but its reason is
not passed on.
-/

import ContractSurvey.Abi.Writing
import ContractSurvey.Call.Basic

namespace ContractSurvey
namespace Call
namespace Batch

/-- What the aggregator says about one call. -/
structure Result where
  succeeded : Bool
  returnData : Text := "0x".toList
  deriving DecidableEq

/-- The function of the aggregator that makes a list of calls. -/
def aggregateSignature : Text :=
  "tryAggregate(bool,(address,bytes)[])".toList

/-- The selector of that function: the first four bytes of the digest of its
signature. -/
def aggregateSelector : Text :=
  Hex.marked ((Keccak.digest aggregateSignature.utf8).take 4)

def addressBytes (address : Text) : List UInt8 :=
  match Hex.read (Hex.dropMarker address) with
  | .ok bytes => bytes
  | .error _ => []

/-- The target and the data of a call as bytes. -/
def spelledOut (request : Request) : Except Fault (List UInt8 × List UInt8) := do
  let target ← (Address.ofText request.target).mapError Fault.address
  let data ← (Bytecode.ofText request.data).mapError Fault.bytecode
  return (addressBytes target, data)

/-- The targets and data of calls as bytes, the first that has none deciding. -/
def spelledOutAll : List Request → Except Fault (List (List UInt8 × List UInt8))
  | [] => .ok []
  | request :: rest => do
      let first ← spelledOut request
      let others ← spelledOutAll rest
      return first :: others

/-- The data of the call that carries a list of calls, none of which has to
succeed. -/
def encode (requests : List Request) : Except Fault Text := do
  let calls ← spelledOutAll requests
  return aggregateSelector ++ Hex.ofBytes (Abi.writeCalls false calls)

def resultOf (read : Bool × List UInt8) : Result :=
  { succeeded := read.1, returnData := Hex.marked read.2 }

def decode (data : List UInt8) : Except Fault (List Result) :=
  ((Abi.readResults data).mapError Fault.encoding).map (List.map resultOf)

/-- The results in a reply of the aggregator: none when it returned nothing. -/
def resultsIn (reply : Value) : Except Fault (List Result) :=
  if !reply.isPresent then .ok []
  else
    match reply with
    | .bytes data => decode data
    | other => .error (.misuse (.notEncoded other.kind))

/-- Makes a list of calls through an aggregator.  Without calls nothing is asked. -/
def invoke (aggregator : Text) (requests : List Request) :
    Attempt Chain.Query (List Result) :=
  if requests.isEmpty then return []
  else do
    let data ← Attempt.ofExcept (encode requests)
    let reply ← Attempt.question (.call aggregator data none)
    Attempt.ofExcept (resultsIn reply)

/-- The outcomes of calls by their results, place by place.  A call without a result,
or with a failed one, fails for a given reason. -/
def outcomes (reason : Option Text) : List Request → List Result → List Outcome
  | [], _ => []
  | request :: rest, [] =>
      { selector := request.selector, succeeded := false, revertReason := reason } ::
        outcomes reason rest []
  | request :: rest, result :: later =>
      (if result.succeeded then
        { selector := request.selector, succeeded := true, returnData := result.returnData }
      else { selector := request.selector, succeeded := false, revertReason := reason }) ::
        outcomes reason rest later

/-- Makes a list of calls through an aggregator and gives the outcome of each.  A fault
that is not fatal becomes the reason of all of them. -/
def outcomesThrough (aggregator : Text) (requests : List Request) :
    Attempt Chain.Query (List Outcome) :=
  ExceptT.mk ((invoke aggregator requests).run.andThen fun outcome =>
    match outcome with
    | .ok results =>
        .done (.ok (outcomes (some RevertReason.notice) requests results))
    | .error fault =>
        if fault.isFatal then .done (.error fault)
        else .done (.ok (outcomes (some (reasonOf fault)) requests [])))

end Batch
end Call
end ContractSurvey
