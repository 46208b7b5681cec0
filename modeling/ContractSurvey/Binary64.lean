/-
Double-precision binary floating-point numbers.

A number is its 64-bit pattern, and reading and writing work on the pattern with
exact natural-number arithmetic.  Reading rounds to the nearest number, a tie
going to the even significand.  Writing gives the fewest significant digits that
read back, and of those the nearest to the number.
-/

import ContractSurvey.Numeral

namespace ContractSurvey

/-- A number by its bit pattern: sign, eleven exponent bits, fifty-two fraction
bits. -/
structure Binary64 where
  bits : UInt64
  deriving DecidableEq

namespace Binary64

def twoTo (exponent : Nat) : Nat :=
  Nat.pow 2 exponent

def tenTo (exponent : Nat) : Nat :=
  Nat.pow 10 exponent

def exponentBits (number : Binary64) : Nat :=
  number.bits.toNat / twoTo 52 % twoTo 11

def fractionBits (number : Binary64) : Nat :=
  number.bits.toNat % twoTo 52

/-- The sign bit. -/
def isNegative (number : Binary64) : Bool :=
  twoTo 63 ≤ number.bits.toNat

def isZero (number : Binary64) : Bool :=
  number.exponentBits == 0 && number.fractionBits == 0

/-- Tells whether a number is neither infinite nor undefined. -/
def isFinite (number : Binary64) : Bool :=
  number.exponentBits != twoTo 11 - 1

/-- The significand and the exponent of two of the magnitude. -/
def magnitude (number : Binary64) : Nat × Int :=
  if number.exponentBits = 0 then (number.fractionBits, -1074)
  else (twoTo 52 + number.fractionBits, (number.exponentBits : Int) - 1075)

/-- Puts a sign and the remaining bits together. -/
def assemble (negative : Bool) (rest : Nat) : Binary64 :=
  ⟨UInt64.ofNat (rest + if negative then twoTo 63 else 0)⟩

def infinity (negative : Bool) : Binary64 :=
  assemble negative (2047 * twoTo 52)

def undefined : Binary64 :=
  assemble false (2047 * twoTo 52 + twoTo 51)

/-- A ratio divided by a power of two, as numerator and denominator. -/
private def scaled (numerator denominator : Nat) (exponent : Int) : Nat × Nat :=
  if 0 ≤ exponent then (numerator, denominator * twoTo exponent.toNat)
  else (numerator * twoTo (-exponent).toNat, denominator)

/-- The quotient rounded to the nearest natural number, a tie going to the even
one. -/
def roundedQuotient (numerator denominator : Nat) : Nat :=
  let quotient := numerator / denominator
  let remainder := numerator % denominator
  if denominator < 2 * remainder ∨
      (denominator = 2 * remainder ∧ quotient % 2 = 1) then quotient + 1
  else quotient

/-- The number nearest to a positive ratio. -/
def ofRatio (negative : Bool) (numerator denominator : Nat) : Binary64 :=
  let guess : Int := (Nat.log2 numerator : Int) - Nat.log2 denominator - 52
  let whole := fun (exponent : Int) =>
    let (above, below) := scaled numerator denominator exponent
    above / below
  let fitted := if whole guess < twoTo 52 then guess - 1 else guess
  let exponent := max fitted (-1074)
  let (above, below) := scaled numerator denominator exponent
  let significand := roundedQuotient above below
  if significand < twoTo 52 then assemble negative significand
  else
    let (significand, exponent) :=
      if significand = twoTo 53 then (twoTo 52, exponent + 1)
      else (significand, exponent)
    if 971 < exponent then infinity negative
    else assemble negative ((exponent + 1075).toNat * twoTo 52 + (significand - twoTo 52))

/-- The number nearest to a decimal significand times a power of ten. -/
def ofDecimal (negative : Bool) (digits : Nat) (exponent : Int) : Binary64 :=
  if digits = 0 then assemble negative 0
  else
    let position : Int := (Numeral.ofNat digits).length + exponent
    if 310 < position then infinity negative
    else if position < -330 then assemble negative 0
    else if 0 ≤ exponent then ofRatio negative (digits * tenTo exponent.toNat) 1
    else ofRatio negative digits (tenTo (-exponent).toNat)

/-- The reals that round to a positive number, as a common denominator, the lower
end, the number itself and the upper end.  Ends belong to the interval exactly
when the significand is even. -/
private structure Neighbourhood where
  denominator : Nat
  lower : Nat
  value : Nat
  upper : Nat
  endsCount : Bool

private def neighbourhood (number : Binary64) : Neighbourhood :=
  let (significand, exponent) := number.magnitude
  let below := if number.fractionBits = 0 ∧ 1 < number.exponentBits then 1 else 2
  let factor := twoTo exponent.toNat
  { denominator := 4 * twoTo (-exponent).toNat
    lower := (4 * significand - below) * factor
    value := 4 * significand * factor
    upper := (4 * significand + 2) * factor
    endsCount := significand % 2 = 0 }

/-- The point of a decimal grid nearest to the value among those that read back,
for the grid of the multiples of a power of ten. -/
private def gridPoint? (near : Neighbourhood) (exponent : Int) : Option Nat :=
  let unit := near.denominator * tenTo exponent.toNat
  let scale := tenTo (-exponent).toNat
  let floor := near.value * scale / unit
  let inside := fun (point : Nat) =>
    let place := point * unit
    if near.endsCount then
      near.lower * scale ≤ place ∧ place ≤ near.upper * scale
    else near.lower * scale < place ∧ place < near.upper * scale
  let gapBelow := near.value * scale - floor * unit
  let gapAbove := (floor + 1) * unit - near.value * scale
  if 0 < floor ∧ inside floor ∧
      (¬ inside (floor + 1) ∨ gapBelow < gapAbove ∨
        (gapBelow = gapAbove ∧ floor % 2 = 0)) then some floor
  else if inside (floor + 1) then some (floor + 1)
  else none

/-- Removes the zeros at the end of a numeral and raises the exponent for each. -/
private def withoutZeros (count digits : Nat) (exponent : Int) : Nat × Int :=
  match count with
  | 0 => (digits, exponent)
  | more + 1 =>
      if digits % 10 = 0 then withoutZeros more (digits / 10) (exponent + 1)
      else (digits, exponent)

/-- The exponent of the power of ten just above a positive ratio. -/
private def decimalPosition (numerator denominator : Nat) : Int :=
  let length := fun (value : Nat) => ((Numeral.ofNat value).length : Int)
  if denominator ≤ numerator then length (numerator / denominator)
  else
    let lead := length (denominator / numerator)
    if denominator ≤ numerator * tenTo (lead - 1).toNat then 2 - lead else 1 - lead

/-- The shortest significand and exponent of ten that read back as a positive
number. -/
def shortest (number : Binary64) : Nat × Int :=
  let near := number.neighbourhood
  let position := decimalPosition near.value near.denominator
  let tried := (List.range 17).findSome? fun count =>
    let exponent := position - (count + 1 : Nat)
    (gridPoint? near exponent).map fun digits => withoutZeros 18 digits exponent
  tried.getD (near.value, 0)

/-- How many digits stand before the decimal point at most in positional form. -/
def widestPositional : Int := 16

/-- The text of a positive number: positional unless the point would lie more
than three zeros to the left of the digits or beyond the widest position. -/
def positiveText (number : Binary64) : Text :=
  let (digits, exponent) := number.shortest
  let shown := Numeral.ofNat digits
  let position := shown.length + exponent
  if -4 < position ∧ position ≤ widestPositional then
    if position ≤ 0 then
      "0.".toList ++ List.replicate (-position).toNat '0' ++ shown
    else if 0 ≤ exponent then
      shown ++ List.replicate exponent.toNat '0' ++ ".0".toList
    else shown.take position.toNat ++ '.' :: shown.drop position.toNat
  else
    let power := position - 1
    let size := Numeral.ofNat power.natAbs
    let padded := if size.length < 2 then '0' :: size else size
    let fraction := shown.drop 1
    shown.take 1 ++ (if fraction = [] then [] else '.' :: fraction) ++
      'e' :: (if power < 0 then '-' else '+') :: padded

def text (number : Binary64) : Text :=
  let sign := if number.isNegative then ['-'] else []
  if !number.isFinite then
    if number.fractionBits = 0 then sign ++ "inf".toList else "nan".toList
  else if number.isZero then sign ++ "0.0".toList
  else sign ++ number.positiveText

/-- The text of a number by its significand in base sixteen and its power of
two. -/
def hexText (number : Binary64) : Text :=
  let sign := if number.isNegative then ['-'] else []
  if !number.isFinite then number.text
  else if number.isZero then sign ++ "0x0.0p+0".toList
  else
    let (lead, power) : Char × Int :=
      if number.exponentBits = 0 then ('0', -1022)
      else ('1', (number.exponentBits : Int) - 1023)
    sign ++ "0x".toList ++ lead :: '.' :: Text.hexDigits 13 number.fractionBits ++
      'p' :: (if power < 0 then '-' else '+') :: Numeral.ofNat power.natAbs

end Binary64
end ContractSurvey
