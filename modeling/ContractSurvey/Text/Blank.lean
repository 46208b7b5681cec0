/-
The blank characters.

A character is blank when it has the white-space property or separates
information (U+001C to U+001F).  Zero-width characters are not blank.
-/

import ContractSurvey.Text.Basic

namespace ContractSurvey
namespace Text

/-- Tells whether a code point is a blank character. -/
def isBlankCode (code : Nat) : Bool :=
  (0x09 ≤ code && code ≤ 0x0D) || (0x1C ≤ code && code ≤ 0x20) ||
    code == 0x85 || code == 0xA0 || code == 0x1680 ||
    (0x2000 ≤ code && code ≤ 0x200A) || code == 0x2028 || code == 0x2029 ||
    code == 0x202F || code == 0x205F || code == 0x3000

def isBlank (character : Char) : Bool :=
  isBlankCode character.toNat

/-- Removes blank characters from both ends. -/
def stripped (text : Text) : Text :=
  trim isBlank text

end Text
end ContractSurvey
