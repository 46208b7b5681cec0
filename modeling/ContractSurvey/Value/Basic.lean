/-
Untyped values.

What a chain, a signature service or a caller hands over may be of any kind, so
it is held as a value of a small closed family.  This module names the kinds,
says which values count as empty, and shows a value in quoted form.  A text with half
of a surrogate pair is no list of characters: it is held by its code points, apart
from the others, and equals no proper text.
-/

import ContractSurvey.Binary64
import ContractSurvey.Register

namespace ContractSurvey

/-- A value of any kind.  The fields of an object keep their order. -/
inductive Value
  | null
  | bool (value : Bool)
  | int (value : Int)
  | float (value : Binary64)
  | text (content : Text)
  | bytes (content : List UInt8)
  | list (items : List Value)
  | object (fields : List (Text × Value))
  /-- A text by its code points, not all of which are characters. -/
  | codes (points : List Nat)
  /-- An object by the code points of its names, not all of which are characters. -/
  | codedObject (fields : List (List Nat × Value))

namespace Value

/-- The text that code points spell, whether or not all of them are characters. -/
def ofCodes (points : List Nat) : Value :=
  match Text.ofCodes? points with
  | some content => .text content
  | none => .codes points

/-- The code points of a text. -/
def points? : Value → Option (List Nat)
  | .text content => some (Text.codes content)
  | .codes points => some points
  | _ => none

def namedFields? : List (List Nat × Value) → Option (List (Text × Value))
  | [] => some []
  | (points, value) :: rest =>
      match Text.ofCodes? points, namedFields? rest with
      | some name, some fields => some ((name, value) :: fields)
      | _, _ => none

/-- The object with fields under names that are given by their code points. -/
def ofFields (fields : List (List Nat × Value)) : Value :=
  match namedFields? fields with
  | some named => .object named
  | none => .codedObject fields

def isObject : Value → Bool
  | .object _ => true
  | .codedObject _ => true
  | _ => false

/-- What an object holds under a name. -/
def member? (name : Text) : Value → Option Value
  | .object fields => Register.get? fields name
  | .codedObject fields => Register.get? fields (Text.codes name)
  | _ => none

/-- The name of the kind of a value, as messages give it. -/
def kind : Value → Text
  | .null => "NoneType".toList
  | .bool _ => "bool".toList
  | .int _ => "int".toList
  | .float _ => "float".toList
  | .text _ => "str".toList
  | .bytes _ => "bytes".toList
  | .list _ => "list".toList
  | .object _ => "dict".toList
  | .codes _ => "str".toList
  | .codedObject _ => "dict".toList

/-- Tells whether a value counts as present: it is not null, false, a zero or
empty. -/
def isPresent : Value → Bool
  | .null => false
  | .bool value => value
  | .int value => value != 0
  | .float value => !value.isZero
  | .text content => !content.isEmpty
  | .bytes content => !content.isEmpty
  | .list items => !items.isEmpty
  | .object fields => !fields.isEmpty
  | .codes points => !points.isEmpty
  | .codedObject fields => !fields.isEmpty

mutual

def quoted : Value → Text
  | .null => "None".toList
  | .bool true => "True".toList
  | .bool false => "False".toList
  | .int value => Numeral.ofInt value
  | .float value => value.text
  | .text content => Text.quoted content
  | .bytes content => Text.quotedBytes content
  | .list items => '[' :: Text.joined ", ".toList (quotedItems items) ++ [']']
  | .object fields =>
      '\x7b' :: Text.joined ", ".toList (quotedFields fields) ++ ['\x7d']
  | .codes points => Text.quotedCodes points
  | .codedObject fields =>
      '\x7b' :: Text.joined ", ".toList (quotedCodedFields fields) ++ ['\x7d']

def quotedItems : List Value → List Text
  | [] => []
  | item :: rest => quoted item :: quotedItems rest

def quotedFields : List (Text × Value) → List Text
  | [] => []
  | (key, value) :: rest =>
      (Text.quoted key ++ ": ".toList ++ quoted value) :: quotedFields rest

/-- The quoted forms of fields whose names are given by their code points. -/
def quotedCodedFields : List (List Nat × Value) → List Text
  | [] => []
  | (key, value) :: rest =>
      (Text.quotedCodes key ++ ": ".toList ++ quoted value) :: quotedCodedFields rest

end

mutual

/-- Tells whether a value can be quoted, that is, whether its numbers can be written. -/
def isWritable : Value → Bool
  | .int value => Numeral.isWritable value
  | .list items => areWritable items
  | .object fields => areWritableFields fields
  | .codedObject fields => areWritableCodedFields fields
  | _ => true

def areWritable : List Value → Bool
  | [] => true
  | item :: rest => isWritable item && areWritable rest

def areWritableFields : List (Text × Value) → Bool
  | [] => true
  | (_, value) :: rest => isWritable value && areWritableFields rest

def areWritableCodedFields : List (List Nat × Value) → Bool
  | [] => true
  | (_, value) :: rest => isWritable value && areWritableCodedFields rest

end

/-- A value as it reads inside a sentence: a text stands for itself, with the
replacement character for half of a pair, and every other value is quoted. -/
def shown : Value → Text
  | .text content => content
  | .codes points => Text.ofCodes points
  | value => value.quoted

end Value
end ContractSurvey
