/-
Code points.

Every character is a code point, but the halves of surrogate pairs are code points
and no characters.  Two halves in order denote a character beyond the first sixteen
bits.  A list of code points is a text when none of them is a half left alone.
-/

import ContractSurvey.Text.Basic

namespace ContractSurvey
namespace Text

def isHighHalf (code : Nat) : Bool :=
  0xD800 ≤ code && code < 0xDC00

def isLowHalf (code : Nat) : Bool :=
  0xDC00 ≤ code && code < 0xE000

/-- The code point that two halves denote. -/
def pairCode (high low : Nat) : Nat :=
  0x10000 + (high - 0xD800) * 0x400 + (low - 0xDC00)

def character? (code : Nat) : Option Char :=
  if code.isValidChar then some (Char.ofNat code) else none

def ofCodes? : List Nat → Option Text
  | [] => some []
  | code :: rest =>
      match character? code with
      | some character => (ofCodes? rest).map (character :: ·)
      | none => none

def codes (text : Text) : List Nat :=
  text.map Char.toNat

/-- The character that stands for what is no character. -/
def replacement : Char := '\ufffd'

def ofCodes (codes : List Nat) : Text :=
  codes.map fun code => (character? code).getD replacement

end Text
end ContractSurvey
