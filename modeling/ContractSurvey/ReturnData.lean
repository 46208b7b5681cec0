/-
Return data without a description.

The length of the hexadecimal form, marker included, chooses how return data is
read: nothing, one word, a pair of words, a short text, data behind a selector, or
data too long to guess.  A word is shown as an address when its magnitude is that of
one.  A reading that fails shows the fixed text of its rule.
-/

import ContractSurvey.Abi.Reading
import ContractSurvey.Address

namespace ContractSurvey

inductive ReturnData
  | absent
  | raw (content : List UInt8)
  | spelled (digits : Text)

namespace ReturnData

/-- What is shown for a call that gave nothing. -/
def reverted : Text := "execution reverted".toList

/-- What is shown for data that no rule reads. -/
def undecoded : Text := "could not decode the response".toList

inductive Rule
  | empty
  | word
  | pair
  | string
  | oversized
  | errorString
  deriving DecidableEq

def Rule.name : Rule → Text
  | .empty => "empty".toList
  | .word => "word".toList
  | .pair => "pair".toList
  | .string => "string".toList
  | .oversized => "oversized".toList
  | .errorString => "error-string".toList

def Rule.ofLength (length : Nat) : Rule :=
  if length ≤ 2 then .empty
  else if length = 66 then .word
  else if length = 130 then .pair
  else if length = 194 then .string
  else if 194 < length then .oversized
  else .errorString

/-- What a rule shows when its reading fails. -/
def Rule.fallback : Rule → Text
  | .oversized => undecoded
  | _ => reverted

def form : ReturnData → Text
  | .absent => "0x".toList
  | .raw content => Hex.marked content
  | .spelled digits => if Hex.hasMarker digits then digits else '0' :: 'x' :: digits

def rule (data : ReturnData) : Rule :=
  Rule.ofLength data.form.length

/-- The word that stands for a well-known placeholder address. -/
def placeholder : Nat := 0xDEAD

/-- Tells whether a number is taken for an address by its magnitude. -/
def resemblesAddress (value : Nat) : Bool :=
  let digits := (Numeral.ofNat value).length
  value == placeholder || (35 < digits && digits < 50)

/-- The address in the first word. -/
def readAddress? (content : List UInt8) : Option Text :=
  match Abi.readAddress content 0 with
  | .ok bytes => some (Address.checksummed (Hex.ofBytes bytes))
  | .error _ => none

/-- One word: an address or a number. -/
def readWord? (content : List UInt8) : Option Text :=
  match Abi.readNumber content 0 with
  | .error _ => readAddress? content
  | .ok value =>
      if resemblesAddress value then
        some ((readAddress? content).getD (Numeral.ofNat value))
      else some (Numeral.ofNat value)

/-- The first number of a pair. -/
def readFirst? (content : List UInt8) : Option Text :=
  match Abi.readPair content with
  | .ok (first, _) => some (Numeral.ofNat first)
  | .error _ => none

def readText? (content : List UInt8) : Option Text :=
  match Abi.readText content with
  | .ok text => some text
  | .error _ => none

def readErrorText? (content : List UInt8) : Option Text :=
  if content.length ≤ 4 then some reverted else readText? (content.drop 4)

/-- What a rule makes of the bytes, unless its reading fails. -/
def Rule.read? : Rule → List UInt8 → Option Text
  | .empty, _ => some reverted
  | .word, content => readWord? content
  | .pair, content => readFirst? content
  | .string, content => readText? content
  | .oversized, _ => some undecoded
  | .errorString, content => readErrorText? content

def decode (data : ReturnData) : Text :=
  match Hex.read (data.form.drop 2) with
  | .ok content => (data.rule.read? content).getD data.rule.fallback
  | .error _ => data.rule.fallback

end ReturnData
end ContractSurvey
