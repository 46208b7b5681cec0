/-
Operation codes of the virtual machine.

A code has a mnemonic and a number of operand bytes that follow it.  Only the
thirty-two push codes have operands: the code 0x5F plus n is followed by n bytes.
Values without an assigned operation are named by their number.
-/

import ContractSurvey.Numeral

namespace ContractSurvey
namespace Opcode

/-- The code of the push with a four-byte operand. -/
def push4 : UInt8 := 0x63

def operandSize (code : Nat) : Nat :=
  if 0x60 ≤ code ∧ code ≤ 0x7F then code - 0x5F else 0

/-- The operations outside the numbered families. -/
def assigned : List (Nat × String) :=
  [(0x00, "STOP"), (0x01, "ADD"), (0x02, "MUL"), (0x03, "SUB"), (0x04, "DIV"),
    (0x05, "SDIV"), (0x06, "MOD"), (0x07, "SMOD"), (0x08, "ADDMOD"), (0x09, "MULMOD"),
    (0x0A, "EXP"), (0x0B, "SIGNEXTEND"),
    (0x10, "LT"), (0x11, "GT"), (0x12, "SLT"), (0x13, "SGT"), (0x14, "EQ"),
    (0x15, "ISZERO"), (0x16, "AND"), (0x17, "OR"), (0x18, "XOR"), (0x19, "NOT"),
    (0x1A, "BYTE"), (0x1B, "SHL"), (0x1C, "SHR"), (0x1D, "SAR"), (0x20, "KECCAK256"),
    (0x30, "ADDRESS"), (0x31, "BALANCE"), (0x32, "ORIGIN"), (0x33, "CALLER"),
    (0x34, "CALLVALUE"), (0x35, "CALLDATALOAD"), (0x36, "CALLDATASIZE"),
    (0x37, "CALLDATACOPY"), (0x38, "CODESIZE"), (0x39, "CODECOPY"), (0x3A, "GASPRICE"),
    (0x3B, "EXTCODESIZE"), (0x3C, "EXTCODECOPY"), (0x3D, "RETURNDATASIZE"),
    (0x3E, "RETURNDATACOPY"), (0x3F, "EXTCODEHASH"), (0x40, "BLOCKHASH"),
    (0x41, "COINBASE"), (0x42, "TIMESTAMP"), (0x43, "NUMBER"), (0x44, "PREVRANDAO"),
    (0x45, "GASLIMIT"), (0x46, "CHAINID"), (0x47, "SELFBALANCE"), (0x48, "BASEFEE"),
    (0x49, "BLOBHASH"), (0x4A, "BLOBBASEFEE"), (0x50, "POP"), (0x51, "MLOAD"),
    (0x52, "MSTORE"), (0x53, "MSTORE8"), (0x54, "SLOAD"), (0x55, "SSTORE"),
    (0x56, "JUMP"), (0x57, "JUMPI"), (0x58, "PC"), (0x59, "MSIZE"), (0x5A, "GAS"),
    (0x5B, "JUMPDEST"), (0x5C, "TLOAD"), (0x5D, "TSTORE"), (0x5E, "MCOPY"),
    (0x5F, "PUSH0"), (0xF0, "CREATE"), (0xF1, "CALL"), (0xF2, "CALLCODE"),
    (0xF3, "RETURN"), (0xF4, "DELEGATECALL"), (0xF5, "CREATE2"), (0xFA, "STATICCALL"),
    (0xFD, "REVERT"), (0xFE, "INVALID"), (0xFF, "SELFDESTRUCT")]

/-- The name of an assigned operation. -/
def name? (code : Nat) : Option Text :=
  if 0x60 ≤ code ∧ code ≤ 0x7F then
    some ("PUSH".toList ++ Numeral.ofNat (code - 0x5F))
  else if 0x80 ≤ code ∧ code ≤ 0x8F then
    some ("DUP".toList ++ Numeral.ofNat (code - 0x7F))
  else if 0x90 ≤ code ∧ code ≤ 0x9F then
    some ("SWAP".toList ++ Numeral.ofNat (code - 0x8F))
  else if 0xA0 ≤ code ∧ code ≤ 0xA4 then
    some ("LOG".toList ++ Numeral.ofNat (code - 0xA0))
  else (assigned.find? fun (value, _) => value == code).map fun (_, name) => name.toList

/-- The digits of a natural number in base sixteen, capital letters above nine. -/
def capitalDigits (value : Nat) : Text :=
  (Hex.ofNat value).map Text.capitalAscii

/-- The name of a value without an assigned operation: its digits in base sixteen
behind the marker, at least two characters wide with the sign counted in. -/
def numbered : Int → Text
  | .ofNat value =>
      let digits := capitalDigits value
      "0x".toList ++ (if digits.length < 2 then '0' :: digits else digits)
  | .negSucc less => "0x-".toList ++ capitalDigits (less + 1)

def mnemonic : Int → Text
  | .ofNat code => (name? code).getD (numbered code)
  | below => numbered below

/-- The number of operand bytes that follow a value. -/
def pushSize : Int → Nat
  | .ofNat code => operandSize code
  | .negSucc _ => 0

end Opcode
end ContractSurvey
