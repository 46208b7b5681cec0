/-
Values of the wrong kind.

A value that comes from outside may lack what the work on it needs.  Each way in
which a value fails to serve is a case here, with its message, together with the
conversion of a value to a byte string.
-/

import ContractSurvey.Value.Basic

namespace ContractSurvey
namespace Value

/-- The ways in which a value fails to serve. -/
inductive Misuse
  | noLength (kind : Text)
  | noMember (kind member : Text)
  /-- It cannot be searched for a part. -/
  | notSearchable (kind : Text)
  /-- It cannot be cut by positions. -/
  | notSliceable
  /-- It is not a byte string where a reader of encoded data needs one. -/
  | notEncoded (kind : Text)
  /-- It cannot become a byte string. -/
  | notConvertible (kind : Text)
  /-- It is a text, which is not a byte string by itself. -/
  | unencodedText
  /-- It asks for a negative number of bytes. -/
  | negativeCount
  /-- It asks for more bytes than can be counted. -/
  | uncountable
  /-- It asks for more bytes than a byte string may have. -/
  | oversized
  /-- It is no text where a text is kept. -/
  | notText
  | itemKind (kind : Text)
  | itemRange
  deriving DecidableEq

namespace Misuse

/-- A kind between single quotes. -/
private def named (kind : Text) : Text :=
  '\x27' :: kind ++ ['\x27']

def message : Misuse → Text
  | .noLength kind => "object of type ".toList ++ named kind ++ " has no len()".toList
  | .noMember kind member =>
      named kind ++ " object has no attribute ".toList ++ named member
  | .notSearchable kind =>
      "argument of type ".toList ++ named kind ++ " is not iterable".toList
  | .notSliceable => "unhashable type: ".toList ++ named "slice".toList
  | .notEncoded kind =>
      "The `data` value must be of bytes type. Got <class ".toList ++ named kind ++ ['>']
  | .notConvertible kind =>
      "cannot convert ".toList ++ named kind ++ " object to bytes".toList
  | .unencodedText => "string argument without an encoding".toList
  | .negativeCount => "negative count".toList
  | .uncountable =>
      "cannot fit ".toList ++ named "int".toList ++ " into an index-sized integer".toList
  | .oversized => "byte string is too large".toList
  | .notText => "not a text".toList
  | .itemKind kind =>
      named kind ++ " object cannot be interpreted as an integer".toList
  | .itemRange => "bytes must be in range(0, 256)".toList

end Misuse

def itemByte : Value → Except Misuse UInt8
  | .bool value => .ok (if value then 1 else 0)
  | .int (.ofNat value) =>
      if value < 256 then .ok (UInt8.ofNat value) else .error .itemRange
  | .int (.negSucc _) => .error .itemRange
  | other => .error (.itemKind other.kind)

def itemBytes : List Value → Except Misuse (List UInt8)
  | [] => .ok []
  | item :: rest =>
      match itemByte item with
      | .error misuse => .error misuse
      | .ok byte => (itemBytes rest).map (byte :: ·)

def countBound : Nat := Nat.pow 2 63

/-- What a byte string takes besides its bytes. -/
def overhead : Nat := 33

/-- The bound that the length of no byte string reaches. -/
def lengthBound : Nat := countBound - overhead

def zeroBytes (count : Int) : Except Misuse (List UInt8) :=
  if count < -countBound ∨ countBound ≤ count then .error .uncountable
  else if count < 0 then .error .negativeCount
  else if lengthBound ≤ count then .error .oversized
  else .ok (List.replicate count.toNat 0)

/-- A value as a byte string: bytes stand for themselves, a number asks for that
many zero bytes, and a list gives its items. -/
def toBytes : Value → Except Misuse (List UInt8)
  | .bytes content => .ok content
  | .bool value => .ok (if value then [0] else [])
  | .int value => zeroBytes value
  | .list items => itemBytes items
  | .object [] => .ok []
  | .object _ => .error (.itemKind "str".toList)
  | .codedObject _ => .error (.itemKind "str".toList)
  | .text _ => .error .unencodedText
  | .codes _ => .error .unencodedText
  | other => .error (.notConvertible other.kind)

/-- The number of characters, bytes, items or fields of a value. -/
def length : Value → Except Misuse Nat
  | .text content => .ok content.length
  | .codes content => .ok content.length
  | .bytes content => .ok content.length
  | .list items => .ok items.length
  | .object fields => .ok fields.length
  | .codedObject fields => .ok fields.length
  | other => .error (.noLength other.kind)

def hexText : Value → Except Misuse Text
  | .bytes content => .ok (Hex.ofBytes content)
  | .float value => .ok value.hexText
  | other => .error (.noMember other.kind "hex".toList)

end Value
end ContractSurvey
