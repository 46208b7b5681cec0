/-
Signature services.

Two public services map selectors to text signatures.  A lookup asks one of them and
finds the first signature in its reply; the selector itself is the answer when
nothing is found, when the service fails, or when its reply has another shape.  What
is found is handed on unchecked, whatever its kind.
-/

import ContractSurvey.Dialogue
import ContractSurvey.Json.Encoded

namespace ContractSurvey
namespace Signature

inductive Service
  | openChain
  | fourByte
  deriving DecidableEq

/-- A question about a selector: to a service, or to one of a list of sources that the
caller brings along. -/
inductive Query
  | page (service : Service) (selector : Text)
  | source (index : Nat) (selector : Text)
  deriving DecidableEq

namespace Service

def url : Service → Text
  | .openChain => "https://api.4byte.sourcify.dev/signature-database/v1/lookup".toList
  | .fourByte => "https://www.4byte.directory/api/v1/signatures/".toList

def parameters (selector : Text) : Service → List (Text × Text)
  | .openChain => [("function".toList, selector), ("filter".toList, "true".toList)]
  | .fourByte => [("hex_signature".toList, selector)]

end Service

structure Page where
  status : Int
  body : List UInt8
  deriving DecidableEq

/-- Tells whether a status reports an error. -/
def Page.isError (page : Page) : Bool :=
  400 ≤ page.status && page.status < 600

/-- The reply a page is: its body, unless its status reports an error. -/
def Page.reply (page : Page) : Reply :=
  if page.isError then .error (.status page.status) else .ok (.bytes page.body)

def field? (name : Text) (value : Value) : Option Value :=
  if value.isObject then some ((value.member? name).getD .null) else none

def firstItem? : Value → Option Value
  | .list (first :: _) => some first
  | .text (first :: _) => some (.text [first])
  | .codes (first :: _) => some (.ofCodes [first])
  | _ => none

/-- What the first match of a list of matches has under a name.  No match at all is
told apart from matches of another shape, but neither gives a result. -/
def firstMatch? (name : Text) (found : Value) : Option Value := do
  if !found.isPresent then failure
  let first ← firstItem? found
  first.member? name

/-- The signature in the reply of the first service: under the result, the function
and the selector. -/
def readOpenChain? (selector : Text) (reply : Value) : Option Value := do
  let result ← field? "result".toList reply
  let result := if result.isPresent then result else .object []
  if !result.isObject then failure
  let functions := (result.member? "function".toList).getD (.object [])
  let found ← field? selector functions
  firstMatch? "name".toList found

def readFourByte? (reply : Value) : Option Value := do
  let found ← field? "results".toList reply
  firstMatch? "text_signature".toList found

def Service.read? (selector : Text) (reply : Value) : Service → Option Value
  | .openChain => readOpenChain? selector reply
  | .fourByte => readFourByte? reply

def Service.readBody? (service : Service) (selector : Text) : Value → Option Value
  | .bytes body => (Json.readBytes? body).bind fun reply => service.read? selector reply
  | _ => none

/-- Looks a selector up. -/
abbrev Lookup := Text → Attempt Query Value

def Service.lookup (service : Service) : Lookup := fun selector => do
  let body ← Attempt.questionOr .null (.page service selector)
  return (service.readBody? selector body).getD (.text selector)

/-- Asks one of the caller's sources for a selector. -/
def sourceLookup (index : Nat) : Lookup := fun selector =>
  Attempt.question (.source index selector)

/-- The lookups of a survey whose caller brings none along. -/
def defaultLookups : List Lookup :=
  [Service.openChain.lookup, Service.fourByte.lookup]

end Signature
end ContractSurvey
