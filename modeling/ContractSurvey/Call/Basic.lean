/-
Calls and their outcomes.

A call goes to a target with its data, and its outcome is known by the selector at
the front of the data.  A call that succeeds has return data, a call that fails has a
reason.
-/

import ContractSurvey.Chain.Query
import ContractSurvey.RevertReason
import ContractSurvey.Text.Small

namespace ContractSurvey
namespace Call

structure Request where
  target : Text
  data : Text
  deriving DecidableEq

structure Outcome where
  selector : Text
  succeeded : Bool
  returnData : Text := "0x".toList
  revertReason : Option Text := none
  deriving DecidableEq

def selectorLength : Nat := 10

/-- The selector at the front of call data, in small letters. -/
def Request.selector (request : Request) : Text :=
  Text.small (request.data.take selectorLength)

def reasonOf (fault : Fault) : Text :=
  RevertReason.normalized (some fault.detail)

def Request.success (request : Request) (returned : List UInt8) : Outcome :=
  { selector := request.selector
    succeeded := true
    returnData := Hex.marked returned }

def Request.failure (request : Request) (reason : Text) : Outcome :=
  { selector := request.selector
    succeeded := false
    revertReason := some reason }

end Call
end ContractSurvey
