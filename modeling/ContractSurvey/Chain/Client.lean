/-
The client of a chain.

Everything a caller hands over is checked and brought into its one form before a
request is made, so a request that leaves holds only checksummed addresses, a
numbered slot and marked data.  What comes back is turned into bytes.
-/

import ContractSurvey.Chain.Query

namespace ContractSurvey
namespace Chain

/-- A request as it leaves for the chain.  A slot that was not given as a text is
passed on as it is. -/
inductive Request
  | code (address : Text)
  | storage (address : Text) (position : Value)
  | call (target data : Text) (sender : Option Text)
  /-- A call whose data are a text by its code points, not all of which are
  characters. -/
  | codedCall (target : Text) (data : List Nat) (sender : Option Text)

namespace Client

/-- The checksummed address of a value. -/
def account (value : Value) : Except Fault Text :=
  (Address.ofValue value).mapError Fault.address

/-- The position of a slot: a text is a numeral of base sixteen. -/
def position : Value → Except Fault Value
  | .text text =>
      match Numeral.read .sixteen text with
      | some number => .ok (.int number)
      | none => .error (.numeral (.text text))
  | .codes points => .error (.numeral (.codes points))
  | value => .ok value

/-- Call data behind a marker.  A text that has the marker already stays as it
is. -/
def callData : Value → Except Fault Text
  | .bytes content => .ok (Hex.marked content)
  | .text text =>
      .ok (if Text.beginsWith "0x".toList text then text else "0x".toList ++ text)
  | other => .error (.misuse (.noMember other.kind "startswith".toList))

/-- Call data by their code points, behind a marker as well. -/
def codedData (points : List Nat) : List Nat :=
  let marker := Text.codes "0x".toList
  if marker.isPrefixOf points then points else marker ++ points

/-- The account that makes a call, unless none is given. -/
def caller (value : Value) : Except Fault (Option Text) :=
  if value.isPresent then (account value).map some else .ok none

def code (address : Value) : Except Fault Request := do
  let address ← account address
  return .code address

def storage (address slot : Value) : Except Fault Request := do
  let place ← position slot
  let address ← account address
  return .storage address place

def call (target data sender : Value) : Except Fault Request := do
  let target ← account target
  match data with
  | .codes points =>
      let sender ← caller sender
      return .codedCall target (codedData points) sender
  | data =>
      let data ← callData data
      let sender ← caller sender
      return .call target data sender

/-- The request for a question of a survey. -/
def ofQuery : Query → Except Fault Request
  | .code address => code (.text address)
  | .storage address slot => storage (.text address) (.text slot)
  | .call target data sender =>
      call (.text target) (.text data) ((sender.map Value.text).getD .null)

def bytes (reply : Value) : Except Fault (List UInt8) :=
  Fault.ofMisuse reply.toBytes

/-- Makes a request that was prepared without a fault and gives the bytes of its
reply. -/
def perform (prepared : Except Fault Request) : Attempt Request (List UInt8) := do
  let request ← Attempt.ofExcept prepared
  let reply ← Attempt.question request
  Attempt.ofExcept (bytes reply)

def answer (query : Query) : Dialogue Request Reply :=
  (perform (ofQuery query)).run.andThen fun outcome => .done (outcome.map Value.bytes)

end Client
end Chain
end ContractSurvey
