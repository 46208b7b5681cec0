/-
Quoted text.

A text or a byte string is shown between quotes so that it can be told apart
from its surroundings: the quote inside and the backslash are escaped, line
breaks and tabs have short escapes, and what cannot be shown as itself is
written by its code.  Single quotes are used unless the content holds a single
quote and no double quote.
-/

import ContractSurvey.Text.CodePoint
import ContractSurvey.Text.Printable

namespace ContractSurvey
namespace Text

/-- The lowercase hexadecimal digit of a value below sixteen. -/
def hexDigit (value : Nat) : Char :=
  if value < 10 then Char.ofNat (48 + value) else Char.ofNat (87 + value)

/-- The last digits of a number in base sixteen, the given count of them. -/
def hexDigits (count value : Nat) : Text :=
  match count with
  | 0 => []
  | more + 1 => hexDigits more (value / 16) ++ [hexDigit (value % 16)]

def quoteFor (content : Text) : Char :=
  if '\x27' ∈ content ∧ '\x22' ∉ content then '\x22' else '\x27'

/-- An escape that names a character by its code, in the shortest of the forms
with two, four and eight digits that holds it. -/
def codeEscape (code : Nat) : Text :=
  if code < 0x100 then '\x5c' :: 'x' :: hexDigits 2 code
  else if code < 0x10000 then '\x5c' :: 'u' :: hexDigits 4 code
  else '\x5c' :: 'U' :: hexDigits 8 code

def quotedCharacter (quote character : Char) : Text :=
  if character = quote ∨ character = '\x5c' then ['\x5c', character]
  else if character = '\n' then ['\x5c', 'n']
  else if character = '\r' then ['\x5c', 'r']
  else if character = '\t' then ['\x5c', 't']
  else if isPrintable character then [character]
  else codeEscape character.toNat

def quoted (content : Text) : Text :=
  let quote := quoteFor content
  quote :: content.flatMap (quotedCharacter quote) ++ [quote]

def quotedCode (quote : Char) (code : Nat) : Text :=
  match character? code with
  | some character => quotedCharacter quote character
  | none => codeEscape code

/-- Code points between quotes. -/
def quotedCodes (content : List Nat) : Text :=
  let quote := quoteFor (ofCodes content)
  quote :: content.flatMap (quotedCode quote) ++ [quote]

/-- A byte string between quotes, marked with the letter b.  Bytes outside the
printable ASCII range are written by their code. -/
def quotedBytes (content : List UInt8) : Text :=
  let shown := content.map fun byte => Char.ofNat byte.toNat
  let quote := quoteFor shown
  'b' :: quote :: shown.flatMap (fun character =>
    if character.toNat < 0x80 then quotedCharacter quote character
    else codeEscape character.toNat) ++ [quote]

end Text
end ContractSurvey
