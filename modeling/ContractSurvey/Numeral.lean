/-
Numerals.

Numbers are written in base ten without leading zeros.  Reading accepts one sign,
digits of any script and single low lines between digits, with blank characters
around; base sixteen also accepts the letters a to f and a marker 0x, after which
one low line may stand.
-/

import ContractSurvey.Text.Blank
import ContractSurvey.Text.Digit
import ContractSurvey.Hex

namespace ContractSurvey
namespace Numeral

/-- The decimal numeral of a natural number. -/
def ofNat (value : Nat) : Text :=
  if value < 10 then [Text.hexDigit value]
  else ofNat (value / 10) ++ [Text.hexDigit (value % 10)]
termination_by value
decreasing_by omega

/-- The decimal numeral of an integer, with a minus sign below zero. -/
def ofInt : Int → Text
  | .ofNat value => ofNat value
  | .negSucc less => '-' :: ofNat (less + 1)

inductive Base
  | ten
  | sixteen
  deriving DecidableEq

/-- The number a base counts in. -/
def Base.size : Base → Nat
  | .ten => 10
  | .sixteen => 16

/-- The longest run of digits that is read or written in base ten. -/
def longestDecimal : Nat := 4300

/-- Tells whether a number can be written in base ten. -/
def isWritable (value : Int) : Bool :=
  value.natAbs < Nat.pow 10 longestDecimal

/-- The blank characters that may surround a numeral: the information separators
are not among them. -/
def isMargin (character : Char) : Bool :=
  Text.isBlank character && !(0x1C ≤ character.toNat && character.toNat ≤ 0x1F)

def digit? (base : Base) (character : Char) : Option Nat :=
  match Text.decimalValue? character with
  | some value => some value
  | none =>
      match base with
      | .ten => none
      | .sixteen => Hex.digitValue? character

/-- Reads digits with single low lines between them and returns their values in
order. -/
def digits? (base : Base) : Text → Option (List Nat)
  | [] => none
  | first :: rest =>
      match digit? base first, rest with
      | none, _ => none
      | some value, [] => some [value]
      | some value, '_' :: later => (digits? base later).map (value :: ·)
      | some value, next :: later => (digits? base (next :: later)).map (value :: ·)

/-- Removes the marker of base sixteen and one low line after it. -/
def unmarked (base : Base) (text : Text) : Text :=
  match base, text with
  | .sixteen, first :: second :: rest =>
      if Text.decimalValue? first = some 0 ∧ (second = 'x' ∨ second = 'X') then
        match rest with
        | '_' :: later => later
        | _ => rest
      else text
  | _, _ => text

/-- The natural number written in a base, its first digit the highest. -/
def valueOf (base : Base) (digits : List Nat) : Nat :=
  digits.foldl (fun value digit => value * base.size + digit) 0

def readUnsigned (base : Base) (text : Text) : Option Nat :=
  match digits? base (unmarked base text) with
  | none => none
  | some digits =>
      if base = .ten ∧ longestDecimal < digits.length then none
      else some (valueOf base digits)

/-- Reads a numeral with surrounding blank characters and an optional sign. -/
def read (base : Base) (text : Text) : Option Int :=
  match Text.trim isMargin text with
  | '+' :: rest => (readUnsigned base rest).map Int.ofNat
  | '-' :: rest => (readUnsigned base rest).map fun value => -Int.ofNat value
  | rest => (readUnsigned base rest).map Int.ofNat

end Numeral
end ContractSurvey
