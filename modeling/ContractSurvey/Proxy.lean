/-
Proxies.

A proxy keeps the address of its implementation in a fixed slot of its storage, or the
address of a beacon in another, which names the implementation when it is called.  An
implementation counts only when code is found at it; a slot that leads to an account
without code is passed over, and so is a question that fails.
-/

import ContractSurvey.Chain.Query

namespace ContractSurvey
namespace Proxy

def implementationSlot : Text :=
  "0x360894a13ba1a3210667c828492db98dca3e2076cc3735a920a3ca505d382bbc".toList

def beaconSlot : Text :=
  "0xa3f0ad74e5423aebfd80d3ef4346578335a9a72aeaee59ff6cb3582b35133d50".toList

/-- The selector of the function by which a beacon names the implementation. -/
def implementationSelector : Text :=
  "0x5c60da1b".toList

/-- What was found out about an account.  Without a proxy the implementation is the
zero address with empty code. -/
structure Resolution where
  proxyAddress : Text
  isProxy : Bool := false
  implementationAddress : Text := Address.zeroAddress
  implementationBytecode : Text := "0x".toList
  viaBeacon : Bool := false
  deriving DecidableEq

def addressIn (word : Value) : Except Fault (Option Text) :=
  Fault.ofMisuse (Address.ofWordValue word)

def slotAddress (address slot : Text) : Attempt Chain.Query (Option Text) := do
  let word ← Attempt.questionOr .null (.storage address slot)
  Attempt.ofExcept (addressIn word)

def beaconAddress (beacon : Text) : Attempt Chain.Query (Option Text) := do
  let word ← Attempt.questionOr .null (.call beacon implementationSelector none)
  Attempt.ofExcept (addressIn word)

/-- A candidate with its code, when it has any. -/
def withCode : Option Text → Attempt Chain.Query (Option (Text × Value))
  | none => return none
  | some candidate => do
      let code ← Attempt.questionOr (.bytes []) (.code candidate)
      return if code.isPresent then some (candidate, code) else none

/-- The resolution of an account whose implementation was found. -/
def found (address implementation : Text) (code : Value) (viaBeacon : Bool) :
    Except Fault Resolution := do
  let digits ← Fault.ofMisuse code.hexText
  return {
    proxyAddress := address
    isProxy := true
    implementationAddress := implementation
    implementationBytecode := "0x".toList ++ digits
    viaBeacon := viaBeacon }

/-- The implementation that the beacon of an account names, with its code. -/
def throughBeacon (address : Text) : Attempt Chain.Query (Option (Text × Value)) := do
  match ← slotAddress address beaconSlot with
  | none => return none
  | some beacon => withCode (← beaconAddress beacon)

/-- Finds the implementation behind an account: the implementation slot first, and the
beacon when that gives none. -/
def resolve (address : Text) : Attempt Chain.Query Resolution := do
  match ← withCode (← slotAddress address implementationSlot) with
  | some (implementation, code) =>
      Attempt.ofExcept (found address implementation code false)
  | none =>
      match ← throughBeacon address with
      | some (implementation, code) =>
          Attempt.ofExcept (found address implementation code true)
      | none => return { proxyAddress := address }

end Proxy
end ContractSurvey
