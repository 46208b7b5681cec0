/-
Account addresses.

An address is written as the marker and forty hexadecimal digits whose letter case
carries a checksum: a letter is a capital exactly when the digest of the small
digits has a high nibble in its place.  Digits in any case are accepted and always
written in this one form.
-/

import ContractSurvey.Bytecode
import ContractSurvey.Keccak
import ContractSurvey.Text.Blank
import ContractSurvey.Value.Misuse

namespace ContractSurvey
namespace Address

def digitCount : Nat := 40

/-- The number of bytes of an address. -/
def byteCount : Nat := 20

def zeroAddress : Text :=
  "0x".toList ++ List.replicate digitCount '0'

/-- The two halves of every byte, the high one first. -/
def nibbles (bytes : List UInt8) : List Nat :=
  bytes.flatMap fun byte => [byte.toNat / 16, byte.toNat % 16]

/-- The halves that decide the letter case of small digits. -/
def caseMarks (digits : Text) : List Nat :=
  nibbles (Keccak.digest (digits.map fun digit => UInt8.ofNat digit.toNat))

/-- The checksummed form of forty small digits. -/
def checksummed (digits : Text) : Text :=
  '0' :: 'x' :: List.zipWith
    (fun digit mark => if 7 < mark then Text.capitalAscii digit else digit)
    digits (caseMarks digits)

/-- The small digits of a text that spells an address, with or without the
marker. -/
def digits? (text : Text) : Option Text :=
  let digits := Hex.dropMarker text
  if digits.length = digitCount ∧ digits.all Hex.isDigit then
    some (digits.map Text.smallAscii)
  else none

/-- The reasons for which a value is no address. -/
inductive Refusal
  | notHexadecimal (value : Value)
  | unknownFormat (value : Value) (form : Text)
  | absent
  /-- It is of a kind without a hexadecimal form. -/
  | unsupported (kind : Text)

def Refusal.message : Refusal → Text
  | .notHexadecimal value =>
      "when sending a str, it must be a hex string. Got: ".toList ++ value.quoted
  | .unknownFormat value form =>
      "Unknown format ".toList ++ value.quoted ++ ", attempted to normalize to ".toList ++
        Text.quoted form
  | .absent =>
      "Exactly one of the passed values can be specified. Instead, values were: ".toList ++
        "(None,), \x7b\x7d".toList
  | .unsupported kind =>
      "Unsupported type: '<class '".toList ++ kind ++
        "'>'. Must be one of: bool, str, bytes, bytearray or int.".toList

/-- The checksummed address of a hexadecimal form that a value was turned into: the
form has to be the marker and forty digits. -/
def ofForm (value : Value) (form : Text) : Except Refusal Text :=
  match form with
  | '0' :: 'x' :: digits =>
      if digits.length = digitCount ∧ digits.all Hex.isDigit then .ok (checksummed digits)
      else .error (.unknownFormat value form)
  | _ => .error (.unknownFormat value form)

def ofText (text : Text) : Except Refusal Text :=
  if (Hex.dropMarker text).all Hex.isDigit then
    ofForm (.text text) ("0x".toList ++ (Hex.dropMarker text).map Text.smallAscii)
  else .error (.notHexadecimal (.text text))

/-- The hexadecimal form of an integer, its sign in front of the marker. -/
def numberForm : Int → Text
  | .ofNat value => "0x".toList ++ Hex.ofNat value
  | .negSucc less => "-0x".toList ++ Hex.ofNat (less + 1)

def ofValue : Value → Except Refusal Text
  | .text text => ofText text
  | .codes points => .error (.notHexadecimal (.codes points))
  | .bytes bytes => ofForm (.bytes bytes) (Hex.marked bytes)
  | .bool value => ofForm (.bool value) (if value then "0x1".toList else "0x0".toList)
  | .int value => ofForm (.int value) (numberForm value)
  | .null => .error .absent
  | other => .error (.unsupported other.kind)

/-- The checksummed address of a text typed by a person: blank characters may stand
around it, and the letter case of its digits does not matter. -/
def validate? (text : Text) : Option Text :=
  (digits? (Text.stripped text)).map checksummed

/-- The checksummed address of a value typed by a person. -/
def validateValue? : Value → Option Text
  | .text text => validate? text
  | _ => none

/-- The address in the low bytes of a word, unless the word is too short or the
address is zero. -/
def ofWord? (word : List UInt8) : Option Text :=
  if word.length < byteCount then none
  else
    let low := word.drop (word.length - byteCount)
    if low.all (· == 0) then none else some (checksummed (Hex.ofBytes low))

/-- The address in the low bytes of a word that is spelled in hexadecimal. -/
def ofWordText? (text : Text) : Option Text :=
  match Hex.read (Hex.dropMarker text) with
  | .ok word => ofWord? word
  | .error _ => none

/-- The address in a word that is handed over as a value of any kind. -/
def ofWordValue : Value → Except Value.Misuse (Option Text)
  | .null => .ok none
  | .text text => .ok (ofWordText? text)
  | .codes points => .ok (ofWordText? (Text.ofCodes points))
  | .bytes word => .ok (ofWord? word)
  | .list items =>
      if items.length < byteCount then .ok none
      else if (items.drop (items.length - byteCount)).any Value.isPresent then
        .error (.noMember "list".toList "hex".toList)
      else .ok none
  | .object fields =>
      if fields.length < byteCount then .ok none else .error .notSliceable
  | .codedObject fields =>
      if fields.length < byteCount then .ok none else .error .notSliceable
  | other => .error (.noLength other.kind)

end Address
end ContractSurvey
