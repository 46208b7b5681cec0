/-
The gateway.

A program without a network of its own asks through a gateway: it writes a question on
a line and reads the reply from the next line.  A question to a chain is a call of the
procedure that answers it, a question to a signature service is a request for a page.
A reply that cannot be read counts as a server that cannot be reached.
-/

import ContractSurvey.Chain.Client
import ContractSurvey.Json.Printer
import ContractSurvey.Network
import ContractSurvey.Signature.Service

namespace ContractSurvey
namespace Gateway

/-- An object with named fields. -/
private def fields (entries : List (String × Value)) : Value :=
  .object (entries.map fun (name, value) => (name.toList, value))

/-- The state of a chain that questions are about. -/
def latest : Value := .text "latest".toList

/-- The position of a slot as a chain wants it. -/
def positionText : Value → Text
  | .int number => Address.numberForm number
  | other => other.shown

/-- The account that makes a call as a field, unless there is none. -/
def senderField : Option Text → List (String × Value)
  | none => []
  | some sender => [("from", .text sender)]

/-- A call as the chain wants it. -/
def callParameters (target : Text) (data : Value) (sender : Option Text) : List Value :=
  [fields ([("to", .text target), ("data", data)] ++ senderField sender), latest]

def procedure : Chain.Request → String × List Value
  | .code address => ("eth_getCode", [.text address, latest])
  | .storage address position =>
      ("eth_getStorageAt", [.text address, .text (positionText position), latest])
  | .call target data sender => ("eth_call", callParameters target (.text data) sender)
  | .codedCall target data sender => ("eth_call", callParameters target (.codes data) sender)

def chainQuestion (timeout : Int) (network : Network) (request : Chain.Request) : Value :=
  let (method, parameters) := procedure request
  fields [("url", .text network.serverUrl), ("timeout", .int timeout),
    ("method", .text method.toList), ("params", .list parameters)]

def chainReply (network : Network) (written : Text) : Reply :=
  let unreachable : Reply := .error (.unreachable network.serverUrl)
  match Json.read? written with
  | some (.object entries) =>
      match Register.get? entries "error".toList, Register.get? entries "result".toList with
      | some error, _ =>
          if writable : Value.areWritable [error] = true then
            .error (.reported {
              details := [error]
              note := none
              isFatal := false
              writable := writable })
          else unreachable
      | none, some (.text digits) =>
          match Hex.read (Hex.dropMarker digits) with
          | .ok bytes => .ok (.bytes bytes)
          | .error _ => unreachable
      | none, _ => unreachable
  | _ => unreachable

def pageQuestion (timeout : Int) (service : Signature.Service) (selector : Text) : Value :=
  fields [("url", .text service.url), ("timeout", .int timeout),
    ("params", .object ((service.parameters selector).map fun (name, value) =>
      (name, .text value)))]

def pageReply (service : Signature.Service) (written : Text) : Reply :=
  match Json.read? written with
  | some (.object entries) =>
      match Register.get? entries "status".toList, Register.get? entries "body".toList with
      | some (.int status), some (.text body) =>
          Signature.Page.reply { status := status, body := Text.utf8 body }
      | _, _ => .error (.unreachable service.url)
  | _ => .error (.unreachable service.url)

end Gateway
end ContractSurvey
