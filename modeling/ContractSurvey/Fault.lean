/-
Faults.

Whatever stops a piece of work is a fault: a failure that the outside reports, or
a value that this library refuses.  A fault has a message.  It also has a detail
text, which prefers what a service says about itself.  A fatal fault is passed on by
everything that tolerates faults, the calls of a pool excepted.
-/

import ContractSurvey.Abi.Reading
import ContractSurvey.Address
import ContractSurvey.Register

namespace ContractSurvey

/-- A failure that the outside reports: details in order, and a note if there is
one.  The details can be written, so that the failure has a message. -/
structure ServiceFailure where
  details : List Value
  note : Option Value
  isFatal : Bool
  writable : Value.areWritable details = true := by rfl

namespace ServiceFailure

/-- Details in round brackets, with a comma behind a single one. -/
def bracketed (details : List Value) : Text :=
  let inner := Text.joined ", ".toList (details.map Value.quoted)
  '(' :: inner ++ (if details.length = 1 then [','] else []) ++ [')']

/-- The message of a failure: nothing, its one detail, or all details. -/
def message (failure : ServiceFailure) : Text :=
  match failure.details with
  | [] => []
  | [detail] => detail.shown
  | details => bracketed details

/-- What one detail says by itself: a text, or the message field of an object. -/
def saying? : Value → Option Text
  | .text content => some content
  | .codes points => some (Text.ofCodes points)
  | value =>
      match value.member? "message".toList with
      | some (.text content) => some content
      | some (.codes points) => some (Text.ofCodes points)
      | _ => none

/-- The detail text of a failure: a note that is a text and not empty, the first
detail that says something, or the message. -/
def detail (failure : ServiceFailure) : Text :=
  match failure.note with
  | some (.text (first :: rest)) => first :: rest
  | some (.codes (first :: rest)) => Text.ofCodes (first :: rest)
  | _ => (failure.details.findSome? saying?).getD failure.message

end ServiceFailure

/-- The causes for which work stops. -/
inductive Fault
  | reported (failure : ServiceFailure)
  /-- No connection to a network can be made. -/
  | unreachable (url : Text)
  /-- A page was answered with an error status. -/
  | status (code : Int)
  | bytecode (refusal : Bytecode.Refusal)
  /-- A value that should name the contract to survey is no address. -/
  | notAnAddress (value : Value)
  /-- A value that should name an account is no address. -/
  | address (refusal : Address.Refusal)
  /-- A text should be a numeral and is none. -/
  | numeral (text : Value)
  /-- Encoded data cannot be read. -/
  | encoding (fault : Abi.Fault)
  /-- A value is of the wrong kind. -/
  | misuse (cause : Value.Misuse)
  | implementationText (position : Nat)

namespace Fault

/-- How much of a malformed numeral a message quotes. -/
def longestQuotation : Nat := 200

def message : Fault → Text
  | .reported failure => failure.message
  | .unreachable url => "cannot reach ".toList ++ url
  | .status code => "error status ".toList ++ Numeral.ofInt code
  | .bytecode refusal => refusal.message
  | .notAnAddress value => "Invalid EVM address: ".toList ++ value.quoted
  | .address refusal => refusal.message
  | .numeral text =>
      "invalid literal for int() with base 16: ".toList ++
        text.quoted.take longestQuotation
  | .encoding fault => fault.message
  | .misuse cause => cause.message
  | .implementationText position => Bytecode.unreadable position

def detail : Fault → Text
  | .reported failure => failure.detail
  | other => other.message

/-- Tells whether a fault is passed on by everything that tolerates faults. -/
def isFatal : Fault → Bool
  | .reported failure => failure.isFatal
  | _ => false

/-- Tells whether a fault says that an input of the survey is malformed. -/
def isInput : Fault → Bool
  | .bytecode _ => true
  | .notAnAddress _ => true
  | _ => false

end Fault

/-- What the outside gives for a question: a value, or a fault. -/
abbrev Reply := Except Fault Value

namespace Reply

def orElse (missing : Value) : Reply → Except Fault Value
  | .ok value => .ok value
  | .error fault => if fault.isFatal then .error fault else .ok missing

end Reply

def Fault.ofMisuse {Result : Type} (attempt : Except Value.Misuse Result) :
    Except Fault Result :=
  attempt.mapError Fault.misuse

end ContractSurvey
