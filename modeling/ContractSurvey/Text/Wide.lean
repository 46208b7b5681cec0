/-
Texts in wide units.

A text can be written in units of two or of four bytes, the most or the least
significant byte of a unit first.  In two bytes, a character beyond the first sixteen
bits is a surrogate pair.  Decoding refuses an incomplete unit, half of a pair left
alone, and a number beyond the last code point.
-/

import ContractSurvey.Text.CodePoint

namespace ContractSurvey
namespace Text

/-- The order of the bytes of a unit. -/
inductive ByteOrder
  /-- The most significant byte comes first. -/
  | bigFirst
  /-- The least significant byte comes first. -/
  | littleFirst
  deriving DecidableEq

def ByteOrder.number (order : ByteOrder) (bytes : List UInt8) : Nat :=
  let bigFirst := match order with
    | .bigFirst => bytes
    | .littleFirst => bytes.reverse
  bigFirst.foldl (fun number byte => number * 0x100 + byte.toNat) 0

/-- The units of two bytes that make up a byte string. -/
def pairUnits? (order : ByteOrder) : List UInt8 → Option (List Nat)
  | [] => some []
  | first :: second :: rest =>
      (pairUnits? order rest).map (order.number [first, second] :: ·)
  | _ => none

/-- The units of four bytes that make up a byte string. -/
def quadUnits? (order : ByteOrder) : List UInt8 → Option (List Nat)
  | [] => some []
  | first :: second :: third :: fourth :: rest =>
      (quadUnits? order rest).map (order.number [first, second, third, fourth] :: ·)
  | _ => none

/-- Units of two bytes with every surrogate pair replaced by what it denotes. -/
def joinedPairs : List Nat → List Nat
  | high :: low :: rest =>
      if isHighHalf high && isLowHalf low then pairCode high low :: joinedPairs rest
      else high :: joinedPairs (low :: rest)
  | units => units

/-- The text that a byte string in units of two bytes encodes. -/
def ofUtf16? (order : ByteOrder) (bytes : List UInt8) : Option Text :=
  (pairUnits? order bytes).bind fun units => ofCodes? (joinedPairs units)

/-- The text that a byte string in units of four bytes encodes. -/
def ofUtf32? (order : ByteOrder) (bytes : List UInt8) : Option Text :=
  (quadUnits? order bytes).bind ofCodes?

end Text
end ContractSurvey
