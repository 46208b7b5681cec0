/-
Texts as byte strings.

A text is encoded one character after another in one to four bytes.  Decoding
takes a sequence of bytes only when it is the encoding of the character it denotes,
so overlong sequences, halves of surrogate pairs and numbers beyond the last code
point are all refused.
-/

import ContractSurvey.Text.Basic

namespace ContractSurvey
namespace Text

def utf8 (text : Text) : List UInt8 :=
  text.flatMap String.utf8EncodeChar

/-- The number of bytes that a leading byte announces. -/
def sequenceLength (lead : UInt8) : Nat :=
  if lead < 0x80 then 1
  else if lead < 0xE0 then 2
  else if lead < 0xF0 then 3
  else 4

/-- The bits that a leading byte of a sequence contributes. -/
def leadBits (lead : UInt8) : Nat :=
  match sequenceLength lead with
  | 1 => lead.toNat
  | 2 => lead.toNat % 32
  | 3 => lead.toNat % 16
  | _ => lead.toNat % 8

/-- The code point that a sequence denotes: each later byte contributes six bits. -/
def sequenceCode (lead : UInt8) (later : List UInt8) : Nat :=
  later.foldl (fun code byte => code * 64 + byte.toNat % 64) (leadBits lead)

/-- The character at the front of a byte string whose first byte is given. -/
def leadingCharacter? (lead : UInt8) (rest : List UInt8) : Option Char :=
  let later := rest.take (sequenceLength lead - 1)
  let character := Char.ofNat (sequenceCode lead later)
  if String.utf8EncodeChar character = lead :: later then some character else none

/-- The text that a byte string encodes. -/
def ofUtf8? : List UInt8 → Option Text
  | [] => some []
  | lead :: rest =>
      match leadingCharacter? lead rest with
      | none => none
      | some character =>
          (ofUtf8? (rest.drop (sequenceLength lead - 1))).map (character :: ·)
termination_by bytes => bytes.length
decreasing_by simp only [List.length_drop, List.length_cons]; omega

end Text
end ContractSurvey
