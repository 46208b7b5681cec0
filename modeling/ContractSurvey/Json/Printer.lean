/-
Writing JSON text.

In a document, nested items stand on lines of their own, two spaces further in than
what holds them, and an empty array or object stays on its line.  A value can also be
written on a single line.  The text is ASCII: control characters and everything beyond
the ASCII range are written as escapes of sixteen-bit units.
-/

import ContractSurvey.Value.Basic

namespace ContractSurvey
namespace Json

def unitEscape (unit : Nat) : Text :=
  '\x5c' :: 'u' :: Text.hexDigits 4 unit

/-- One character inside a string. -/
def characterText (character : Char) : Text :=
  let code := character.toNat
  if character = '\x22' ∨ character = '\x5c' then ['\x5c', character]
  else if character = '\n' then ['\x5c', 'n']
  else if character = '\r' then ['\x5c', 'r']
  else if character = '\t' then ['\x5c', 't']
  else if character = '\x08' then ['\x5c', 'b']
  else if character = '\x0c' then ['\x5c', 'f']
  else if 0x20 ≤ code ∧ code < 0x7F then [character]
  else if code < 0x10000 then unitEscape code
  else
    unitEscape (0xD800 + (code - 0x10000) / 0x400) ++
      unitEscape (0xDC00 + (code - 0x10000) % 0x400)

/-- A string between double quotes. -/
def stringText (content : Text) : Text :=
  '\x22' :: content.flatMap characterText ++ ['\x22']

/-- One code point inside a string. -/
def codeText (code : Nat) : Text :=
  match Text.character? code with
  | some character => characterText character
  | none => unitEscape code

/-- A string of code points between double quotes. -/
def codesText (content : List Nat) : Text :=
  '\x22' :: content.flatMap codeText ++ ['\x22']

/-- A number that may be infinite or undefined. -/
def floatText (number : Binary64) : Text :=
  if number.isFinite then number.text
  else if number.fractionBits ≠ 0 then "NaN".toList
  else if number.isNegative then "-Infinity".toList
  else "Infinity".toList

/-- The space in front of a line at a depth. -/
def margin (depth : Nat) : Text :=
  List.replicate (2 * depth) ' '

/-- Parts between brackets, each on a line of its own. -/
def block (opening closing : Char) (depth : Nat) (parts : List Text) : Text :=
  if parts = [] then [opening, closing]
  else
    opening :: '\n' :: Text.joined ",\n".toList (parts.map (margin (depth + 1) ++ ·)) ++
      '\n' :: margin depth ++ [closing]

mutual

/-- A value whose first character stands at a depth.  A byte string, which the
grammar does not have, is written as its marked digits. -/
def indented (depth : Nat) : Value → Text
  | .null => "null".toList
  | .bool true => "true".toList
  | .bool false => "false".toList
  | .int value => Numeral.ofInt value
  | .float value => floatText value
  | .text content => stringText content
  | .bytes content => stringText (Hex.marked content)
  | .list items => block '[' ']' depth (indentedItems (depth + 1) items)
  | .object fields => block '\x7b' '\x7d' depth (indentedFields (depth + 1) fields)
  | .codes content => codesText content
  | .codedObject fields =>
      block '\x7b' '\x7d' depth (indentedCodedFields (depth + 1) fields)

def indentedItems (depth : Nat) : List Value → List Text
  | [] => []
  | item :: rest => indented depth item :: indentedItems depth rest

def indentedFields (depth : Nat) : List (Text × Value) → List Text
  | [] => []
  | (name, value) :: rest =>
      (stringText name ++ ": ".toList ++ indented depth value) :: indentedFields depth rest

def indentedCodedFields (depth : Nat) : List (List Nat × Value) → List Text
  | [] => []
  | (name, value) :: rest =>
      (codesText name ++ ": ".toList ++ indented depth value) ::
        indentedCodedFields depth rest

end

def document (value : Value) : Text :=
  indented 0 value

mutual

/-- A value on a single line, without spaces between its parts. -/
def line : Value → Text
  | .list items => '[' :: Text.joined [','] (lineItems items) ++ [']']
  | .object fields => '\x7b' :: Text.joined [','] (lineFields fields) ++ ['\x7d']
  | .codedObject fields =>
      '\x7b' :: Text.joined [','] (lineCodedFields fields) ++ ['\x7d']
  | other => indented 0 other

/-- The items of an array, each without spaces. -/
def lineItems : List Value → List Text
  | [] => []
  | item :: rest => line item :: lineItems rest

/-- The fields of an object, each without spaces. -/
def lineFields : List (Text × Value) → List Text
  | [] => []
  | (name, value) :: rest => (stringText name ++ ':' :: line value) :: lineFields rest

/-- The fields of an object with coded names, each without spaces. -/
def lineCodedFields : List (List Nat × Value) → List Text
  | [] => []
  | (name, value) :: rest => (codesText name ++ ':' :: line value) :: lineCodedFields rest

end

end Json
end ContractSurvey
