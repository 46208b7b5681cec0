/-
Texts as lists of characters.

Lengths and cuts count characters, never bytes, so a text is the list of its
characters and the list operations are the text operations.  This module adds
what lists do not have: trimming by a class of characters, cutting at a mark,
joining with a mark, and the capital and small letters of the ASCII range.  Trimming
the end and joining serve lists of code points as well.
-/

namespace ContractSurvey

abbrev Text := List Char

namespace Text

/-- Removes the characters of a class from the end. -/
def trimEnd {Letter : Type} (drop : Letter → Bool) (text : List Letter) : List Letter :=
  (text.reverse.dropWhile drop).reverse

/-- Removes the characters of a class from both ends. -/
def trim (drop : Char → Bool) (text : Text) : Text :=
  trimEnd drop (text.dropWhile drop)

def beginsWith (start text : Text) : Bool :=
  start.isPrefixOf text

def finishesWith (ending text : Text) : Bool :=
  ending.isSuffixOf text

/-- The part before the first occurrence of a mark, and the part after it when
the mark occurs. -/
def cutAt (mark : Char) : Text → Text × Option Text
  | [] => ([], none)
  | first :: rest =>
      if first = mark then ([], some rest)
      else
        let (before, after) := cutAt mark rest
        (first :: before, after)

/-- Writes the parts one after another with a separator between neighbours. -/
def joined {Letter : Type} (separator : List Letter) : List (List Letter) → List Letter
  | [] => []
  | [part] => part
  | part :: next :: later => part ++ separator ++ joined separator (next :: later)

/-- The small letter of an ASCII capital; every other character stays. -/
def smallAscii (character : Char) : Char :=
  if 'A' ≤ character ∧ character ≤ 'Z' then Char.ofNat (character.toNat + 32)
  else character

/-- The capital of an ASCII small letter; every other character stays. -/
def capitalAscii (character : Char) : Char :=
  if 'a' ≤ character ∧ character ≤ 'z' then Char.ofNat (character.toNat - 32)
  else character

end Text

end ContractSurvey
