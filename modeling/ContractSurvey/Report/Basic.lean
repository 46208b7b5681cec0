/-
Reports.

A report collects what a survey found out about one contract: the code that was
looked at, the functions it seems to have, and what came of calling those that can be
called.  Everything about functions is kept under their selectors.
-/

import ContractSurvey.Call.Basic
import ContractSurvey.Proxy
import ContractSurvey.Signature.Info

namespace ContractSurvey

/-- What a survey found out about a contract. -/
structure Report where
  address : Text
  targetAddress : Text
  isContract : Bool := true
  bytecodeSize : Int := 0
  selectorCount : Int := 0
  proxy : Option Proxy.Resolution := none
  signatures : Register Signature.Info := []
  outcomes : Register Call.Outcome := []
  decoded : Register Text := []
  deriving DecidableEq

namespace Report

structure Function where
  selector : Text
  signature : Option (List Nat)
  functionName : Option (List Nat)
  isCallable : Bool
  response : Option Text
  decoded : Option Text
  revert : Option Text
  deriving DecidableEq

/-- Tells whether the contract was found to be a proxy. -/
def isProxy (report : Report) : Bool :=
  match report.proxy with
  | some resolution => resolution.isProxy
  | none => false

/-- What a report says about the function of a selector.  A function that is not
listed counts as callable and unnamed. -/
def function (report : Report) (selector : Text) : Function :=
  let info := (report.signatures.get? selector).getD { selector := selector }
  let outcome := report.outcomes.get? selector
  { selector := selector
    signature := info.signature
    functionName := info.functionName
    isCallable := info.isCallable
    response := outcome.bind fun outcome =>
      if outcome.succeeded then some outcome.returnData else none
    decoded := report.decoded.get? selector
    revert := outcome.bind fun outcome =>
      if outcome.succeeded then none else outcome.revertReason }

/-- The listed functions whose information has a property, in order. -/
def functionsWhere (report : Report) (holds : Signature.Info → Bool) : List Function :=
  (report.signatures.filter fun (_, info) => holds info).map fun (selector, _) =>
    report.function selector

/-- The functions that can be called without arguments. -/
def callable (report : Report) : List Function :=
  report.functionsWhere (·.isCallable)

/-- The functions that want arguments. -/
def nonCallable (report : Report) : List Function :=
  report.functionsWhere fun info => !info.isCallable

end Report
end ContractSurvey
