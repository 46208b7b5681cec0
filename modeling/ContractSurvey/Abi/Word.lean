/-
Words of the contract data encoding.

Encoded data is made of words of thirty-two bytes, a number standing in a word with
its highest byte first.
-/

namespace ContractSurvey
namespace Abi

/-- The number of bytes in a word. -/
def wordSize : Nat := 32

/-- The last bytes of a number, the given count of them, the highest first. -/
def bigEndian (count value : Nat) : List UInt8 :=
  match count with
  | 0 => []
  | more + 1 => bigEndian more (value / 256) ++ [UInt8.ofNat (value % 256)]

/-- The number that bytes spell, the highest first. -/
def numberOf (bytes : List UInt8) : Nat :=
  bytes.foldl (fun value byte => value * 256 + byte.toNat) 0

def word (value : Nat) : List UInt8 :=
  bigEndian wordSize value

def roundedUp (length : Nat) : Nat :=
  (length + (wordSize - 1)) / wordSize * wordSize

end Abi
end ContractSurvey
