/-
Hexadecimal text.

Bytes are written as two lowercase digits each, often behind the marker 0x.
Reading takes pairs of adjacent digits in either letter case; runs of ASCII white
space may stand before, between and after pairs, but not inside one.  A reading
that fails names the position of the first character that does not fit, and a
character outside the ASCII range is looked for before everything else.
-/

import ContractSurvey.Text.Quoted

namespace ContractSurvey
namespace Hex

/-- The value of a hexadecimal digit of the ASCII range. -/
def digitValue? (character : Char) : Option Nat :=
  if '0' ≤ character ∧ character ≤ '9' then some (character.toNat - 48)
  else if 'a' ≤ character ∧ character ≤ 'f' then some (character.toNat - 87)
  else if 'A' ≤ character ∧ character ≤ 'F' then some (character.toNat - 55)
  else none

def isDigit (character : Char) : Bool :=
  (digitValue? character).isSome

/-- The white space that may stand between pairs. -/
def isGap (character : Char) : Bool :=
  character == ' ' || ('\t' ≤ character && character ≤ '\r')

/-- The two digits of a byte, the high one first. -/
def ofByte (byte : UInt8) : Text :=
  [Text.hexDigit (byte.toNat / 16), Text.hexDigit (byte.toNat % 16)]

/-- The digits of a byte string. -/
def ofBytes (bytes : List UInt8) : Text :=
  bytes.flatMap ofByte

/-- The digits of a byte string behind the marker. -/
def marked (bytes : List UInt8) : Text :=
  '0' :: 'x' :: ofBytes bytes

/-- The digits of a natural number without leading zeros. -/
def ofNat (value : Nat) : Text :=
  if value < 16 then [Text.hexDigit value]
  else ofNat (value / 16) ++ [Text.hexDigit (value % 16)]
termination_by value
decreasing_by omega

/-- Tells whether a text begins with the marker, its letter in either case. -/
def hasMarker : Text → Bool
  | '0' :: 'x' :: _ => true
  | '0' :: 'X' :: _ => true
  | _ => false

/-- A text without the marker it begins with, if it begins with one. -/
def dropMarker (text : Text) : Text :=
  if hasMarker text then text.drop 2 else text

def readPairs (position : Nat) : Text → Except Nat (List UInt8)
  | [] => .ok []
  | high :: rest =>
      if isGap high then readPairs (position + 1) rest
      else
        match digitValue? high, rest with
        | none, _ => .error position
        | some _, [] => .error (position + 1)
        | some highValue, low :: later =>
            match digitValue? low with
            | none => .error (position + 1)
            | some lowValue =>
                (readPairs (position + 2) later).map
                  (UInt8.ofNat (highValue * 16 + lowValue) :: ·)

/-- The bytes a text spells, or the position of the character that does not fit. -/
def read (text : Text) : Except Nat (List UInt8) :=
  match text.findIdx? (fun character => 0x80 ≤ character.toNat) with
  | some position => .error position
  | none => readPairs 0 text

end Hex
end ContractSurvey
