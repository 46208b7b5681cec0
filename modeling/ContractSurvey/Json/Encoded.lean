/-
Reading JSON text from bytes.

A byte string does not say in which encoding its text is written.  A byte order mark
in front tells it.  Without a mark the zero bytes among the first four tell it, because
an array or an object begins with two characters of the ASCII range.  Byte strings in
which the zero bytes fit no encoding are refused.
-/

import ContractSurvey.Json.Reader
import ContractSurvey.Text.Utf8
import ContractSurvey.Text.Wide

namespace ContractSurvey
namespace Json

inductive Encoding
  | utf8
  | utf16 (order : Text.ByteOrder)
  | utf32 (order : Text.ByteOrder)
  deriving DecidableEq

/-- The text that a byte string in an encoding spells. -/
def Encoding.decode? : Encoding → List UInt8 → Option Text
  | .utf8 => Text.ofUtf8?
  | .utf16 order => Text.ofUtf16? order
  | .utf32 order => Text.ofUtf32? order

def marked? : List UInt8 → Option (Encoding × List UInt8)
  | 0xFF :: 0xFE :: 0x00 :: 0x00 :: rest => some (.utf32 .littleFirst, rest)
  | 0x00 :: 0x00 :: 0xFE :: 0xFF :: rest => some (.utf32 .bigFirst, rest)
  | 0xEF :: 0xBB :: 0xBF :: rest => some (.utf8, rest)
  | 0xFF :: 0xFE :: rest => some (.utf16 .littleFirst, rest)
  | 0xFE :: 0xFF :: rest => some (.utf16 .bigFirst, rest)
  | _ => none

/-- The encoding that the zero bytes among the first four tell. -/
def unmarked? (bytes : List UInt8) : Option Encoding :=
  match (bytes.take 4).map (· == 0) with
  | [true, false, true, false] => some (.utf16 .bigFirst)
  | [false, true, false, true] => some (.utf16 .littleFirst)
  | [true, true, true, false] => some (.utf32 .bigFirst)
  | [false, true, true, true] => some (.utf32 .littleFirst)
  | zeros => if zeros.contains true then none else some .utf8

/-- The encoding of a byte string, and its bytes without a mark. -/
def detect? (bytes : List UInt8) : Option (Encoding × List UInt8) :=
  marked? bytes <|> (unmarked? bytes).map fun encoding => (encoding, bytes)

/-- The value that a whole byte string is. -/
def readBytes? (bytes : List UInt8) : Option Value := do
  let (encoding, content) ← detect? bytes
  let text ← encoding.decode? content
  read? text

end Json
end ContractSurvey
