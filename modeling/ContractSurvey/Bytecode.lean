/-
Bytecode.

The code of a contract is a byte string.  It may be handed over as bytes or as
hexadecimal text, with blank characters around it and with or without the marker.
Nothing else is bytecode.
-/

import ContractSurvey.Value.Basic

namespace ContractSurvey

/-- The code of a contract. -/
abbrev Bytecode := List UInt8

namespace Bytecode

/-- The reasons for which a value is no bytecode. -/
inductive Refusal
  /-- It is of a kind that cannot spell bytes. -/
  | unsupported (kind : Text)
  /-- It is a text with a character that does not fit at a position. -/
  | malformed (position : Nat)
  deriving DecidableEq

/-- The message for a text that spells no bytes. -/
def unreadable (position : Nat) : Text :=
  "non-hexadecimal number found in fromhex() arg at position ".toList ++
    Numeral.ofNat position

def Refusal.message : Refusal → Text
  | .unsupported kind => "Unsupported bytecode type: ".toList ++ kind
  | .malformed position => "Malformed bytecode hex: ".toList ++ unreadable position

def ofText (text : Text) : Except Refusal Bytecode :=
  match Hex.read (Hex.dropMarker (Text.stripped text)) with
  | .ok code => .ok code
  | .error position => .error (.malformed position)

def ofValue : Value → Except Refusal Bytecode
  | .bytes code => .ok code
  | .text text => ofText text
  | .codes points => ofText (Text.ofCodes points)
  | other => .error (.unsupported other.kind)

end Bytecode
end ContractSurvey
