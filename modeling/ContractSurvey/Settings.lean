/-
Settings.

Settings come from named texts of the environment.  An absent or empty text leaves the
default in force, and so does a text that should be a numeral and is none.
-/

import ContractSurvey.Numeral
import ContractSurvey.Register

namespace ContractSurvey

abbrev Environment := Register Text

namespace Environment

def textOr (environment : Environment) (name default : Text) : Text :=
  match environment.get? name with
  | some (first :: rest) => first :: rest
  | _ => default

def numberOr (environment : Environment) (name : Text) (default : Int) : Int :=
  match environment.get? name with
  | some (first :: rest) => (Numeral.read .ten (first :: rest)).getD default
  | _ => default

end Environment

/-- What a survey goes by unless it is told otherwise. -/
structure Settings where
  sender : Text := "0xa180Fe01B906A1bE37BE6c534a3300785b20d947".toList
  chainTimeout : Int := 10
  lookupTimeout : Int := 10
  callLimit : Int := 8

namespace Settings

/-- The aggregator contract, which has the same address on every network. -/
def defaultAggregator : Text :=
  "0xcA11bde05977b3631167028862bE2a173976CA11".toList

def senderVariable : Text := "CALL_SENDER".toList

/-- The name of the text that sets how long a chain is waited for. -/
def chainTimeoutVariable : Text := "RPC_TIMEOUT".toList

/-- The name of the text that sets how long a signature service is waited for. -/
def lookupTimeoutVariable : Text := "LOOKUP_TIMEOUT".toList

/-- The name of the text that sets how many calls run side by side. -/
def callLimitVariable : Text := "MAX_CONCURRENT_CALLS".toList

def variableNames : List Text :=
  [senderVariable, chainTimeoutVariable, lookupTimeoutVariable, callLimitVariable]

def ofEnvironment (environment : Environment) : Settings :=
  let standard : Settings := {}
  { sender := environment.textOr senderVariable standard.sender
    chainTimeout := environment.numberOr chainTimeoutVariable standard.chainTimeout
    lookupTimeout := environment.numberOr lookupTimeoutVariable standard.lookupTimeout
    callLimit := environment.numberOr callLimitVariable standard.callLimit }

end Settings
end ContractSurvey
