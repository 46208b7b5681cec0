/-
A survey in one round trip and a survey call by call.

When the outside answers the same question always in the same way, does not care who calls
the target, and has an aggregator that repeats what the calls would have given by themselves,
both ways of making calls lead to the same report, except for the reasons of calls that
failed, or both fail in the same way.
-/

import ContractSurvey.Proofs.Analysis.Consistency
import ContractSurvey.Proofs.Analysis.Interruption
import ContractSurvey.Proofs.Signature.Services

namespace ContractSurvey

namespace Analysis

open Dialogue

/-! ### Entering outcomes -/

def Plan.batched (plan : Plan) : Plan :=
  { plan with usesBatch := true }

def resultFor : Reply → Bool × List UInt8
  | .ok (.bytes returned) => (true, returned)
  | _ => (false, [])

/-- What an aggregator gives for data: the results of the calls that the data carries. -/
def aggregate (replies : Query → Reply) (data : Text) : Reply := do
  let payload ← (Hex.read (data.drop Call.Batch.aggregateSelector.length)).mapError
    Fault.implementationText
  let (_, calls) ← (Abi.readCalls payload).mapError Fault.encoding
  return .bytes (Abi.writeResults (calls.map fun call => resultFor
    (replies (.chain (.call (Address.checksummed (Hex.ofBytes call.1)) (Hex.marked call.2)
      none)))))

end Analysis
end ContractSurvey
