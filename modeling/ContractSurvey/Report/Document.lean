/-
Reports as JSON documents.

The document has the fields of a report in order, and behind them whether the contract
is a proxy and what the report says about each function, callable ones first.
-/

import ContractSurvey.Json.Printer
import ContractSurvey.Report.Basic

namespace ContractSurvey
namespace Report

def object (fields : List (String × Value)) : Value :=
  .object (fields.map fun (name, value) => (name.toList, value))

/-- A text that may be absent. -/
def optionalText (text : Option Text) : Value :=
  (text.map Value.text).getD .null

/-- A text by its code points that may be absent. -/
def optionalPoints (points : Option (List Nat)) : Value :=
  (points.map Value.ofCodes).getD .null

def registerObject {Entry : Type} (write : Entry → Value) (register : Register Entry) :
    Value :=
  .object (register.map fun (key, entry) => (key, write entry))

def resolutionValue (resolution : Proxy.Resolution) : Value :=
  object [("proxy_address", .text resolution.proxyAddress),
    ("is_proxy", .bool resolution.isProxy),
    ("implementation_address", .text resolution.implementationAddress),
    ("implementation_bytecode", .text resolution.implementationBytecode),
    ("via_beacon", .bool resolution.viaBeacon)]

/-- The information about a signature as an object. -/
def infoValue (info : Signature.Info) : Value :=
  object [("selector", .text info.selector),
    ("signature", optionalPoints info.signature),
    ("function_name", optionalPoints info.functionName),
    ("is_callable", .bool info.isCallable)]

def outcomeValue (outcome : Call.Outcome) : Value :=
  object [("selector", .text outcome.selector),
    ("success", .bool outcome.succeeded),
    ("return_data", .text outcome.returnData),
    ("revert_reason", optionalText outcome.revertReason)]

/-- What a report says about a function as an object. -/
def functionValue (function : Function) : Value :=
  object [("selector", .text function.selector),
    ("signature", optionalPoints function.signature),
    ("function_name", optionalPoints function.functionName),
    ("is_callable", .bool function.isCallable),
    ("response", optionalText function.response),
    ("decoded", optionalText function.decoded),
    ("revert", optionalText function.revert)]

def listedFunctions (report : Report) : List Function :=
  report.callable ++ report.nonCallable

def value (report : Report) : Value :=
  object [("address", .text report.address),
    ("target_address", .text report.targetAddress),
    ("is_contract", .bool report.isContract),
    ("bytecode_size", .int report.bytecodeSize),
    ("selector_count", .int report.selectorCount),
    ("proxy", (report.proxy.map resolutionValue).getD .null),
    ("signatures", registerObject infoValue report.signatures),
    ("outcomes", registerObject outcomeValue report.outcomes),
    ("decoded", registerObject Value.text report.decoded),
    ("is_proxy", .bool report.isProxy),
    ("functions", .list (report.listedFunctions.map functionValue))]

def document (report : Report) : Text :=
  Json.document report.value

end Report
end ContractSurvey
