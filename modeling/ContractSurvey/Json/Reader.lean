/-
Reading JSON text.

The grammar is that of the JSON standard with three additions: NaN, Infinity and
-Infinity are numbers.  A number with a fraction or an exponent is read to the
nearest double-precision number and every other one exactly, up to the longest
decimal numeral.  Of fields with one name the last counts.  An escaped half of a
surrogate pair may stand without its other half, so strings are read as code points.
-/

import ContractSurvey.Value.Basic

namespace ContractSurvey
namespace Json

/-- White space between tokens. -/
def isSpace (character : Char) : Bool :=
  character == ' ' || character == '\t' || character == '\n' || character == '\r'

def skipSpace (text : Text) : Text :=
  text.dropWhile isSpace

/-- Tells whether a character is a decimal digit of the ASCII range. -/
def isDigit (character : Char) : Bool :=
  '0' ≤ character && character ≤ '9'

/-- Takes a word off the front of a text. -/
def word? (expected text : Text) : Option Text :=
  if Text.beginsWith expected text then some (text.drop expected.length) else none

/-- The number that four hexadecimal digits at the front of a text spell. -/
def fourDigits? : Text → Option (Nat × Text)
  | first :: second :: third :: fourth :: rest => do
      let one ← Hex.digitValue? first
      let two ← Hex.digitValue? second
      let three ← Hex.digitValue? third
      let four ← Hex.digitValue? fourth
      pure (((one * 16 + two) * 16 + three) * 16 + four, rest)
  | _ => none

/-- The code point of a numeric escape whose digits stand at the front of a text,
together with the second half of a pair. -/
def numericEscape? (text : Text) : Option (Nat × Text) :=
  match fourDigits? text with
  | none => none
  | some (code, rest) =>
      if !Text.isHighHalf code then some (code, rest)
      else
        match rest with
        | '\x5c' :: 'u' :: later =>
            match fourDigits? later with
            | some (low, last) =>
                if Text.isLowHalf low then some (Text.pairCode code low, last)
                else some (code, rest)
            | none => some (code, rest)
        | _ => some (code, rest)

/-- The code point of an escape behind its backslash. -/
def escape? : Text → Option (Nat × Text)
  | '\x22' :: rest => some (0x22, rest)
  | '\x5c' :: rest => some (0x5C, rest)
  | '/' :: rest => some (0x2F, rest)
  | 'b' :: rest => some (0x08, rest)
  | 'f' :: rest => some (0x0C, rest)
  | 'n' :: rest => some (0x0A, rest)
  | 'r' :: rest => some (0x0D, rest)
  | 't' :: rest => some (0x09, rest)
  | 'u' :: rest => numericEscape? rest
  | _ => none

/-- The rest of a string behind its opening quote, with the code points read so far
in reverse order.  The bound is spent one by one and the text is shorter than it. -/
def stringFrom? (bound : Nat) (taken : List Nat) (text : Text) :
    Option (List Nat × Text) :=
  match bound, text with
  | 0, _ => none
  | _, [] => none
  | _, '\x22' :: rest => some (taken.reverse, rest)
  | more + 1, '\x5c' :: rest =>
      match escape? rest with
      | some (code, later) => stringFrom? more (code :: taken) later
      | none => none
  | more + 1, character :: rest =>
      if character.toNat < 0x20 then none
      else stringFrom? more (character.toNat :: taken) rest

/-- The code points of a string behind its opening quote. -/
def string? (text : Text) : Option (List Nat × Text) :=
  stringFrom? (text.length + 1) [] text

/-- The natural number that decimal digits spell. -/
def digitsValue (digits : Text) : Nat :=
  digits.foldl (fun value digit => value * 10 + (digit.toNat - 48)) 0

def spanDigits (text : Text) : Text × Text :=
  (text.takeWhile isDigit, text.dropWhile isDigit)

/-- The whole part of a number: a zero, or digits that begin with none. -/
def wholePart? (text : Text) : Option (Text × Text) :=
  match text with
  | '0' :: rest => some (['0'], rest)
  | first :: _ => if isDigit first then some (spanDigits text) else none
  | [] => none

/-- The digits of a fraction, if one follows. -/
def fraction? (text : Text) : Option (Text × Text) :=
  match text with
  | '.' :: rest =>
      let (digits, later) := spanDigits rest
      if digits = [] then none else some (digits, later)
  | _ => none

/-- The power of an exponent, if one follows. -/
def exponent? (text : Text) : Option (Int × Text) :=
  let signed := fun (negative : Bool) (rest : Text) =>
    let (digits, later) := spanDigits rest
    if digits = [] then none
    else
      let power : Int := digitsValue digits
      some (if negative then -power else power, later)
  match text with
  | first :: rest =>
      if first = 'e' ∨ first = 'E' then
        match rest with
        | '+' :: later => signed false later
        | '-' :: later => signed true later
        | _ => signed false rest
      else none
  | [] => none

def number? (negative : Bool) (text : Text) : Option (Value × Text) :=
  match wholePart? text with
  | none => none
  | some (whole, rest) =>
      let (fraction, afterFraction) := (fraction? rest).getD ([], rest)
      let (power, last) := (exponent? afterFraction).getD (0, afterFraction)
      let isWhole := fraction.isEmpty && (exponent? afterFraction).isNone
      if isWhole then
        if Numeral.longestDecimal < whole.length then none
        else
          let value : Int := digitsValue whole
          some (.int (if negative then -value else value), last)
      else
        let digits := digitsValue (whole ++ fraction)
        some (.float (Binary64.ofDecimal negative digits (power - fraction.length)), last)

/-- A word that is a value by itself. -/
def constant? (text : Text) : Option (Value × Text) :=
  let words : List (String × Value) :=
    [("null", .null), ("true", .bool true), ("false", .bool false),
      ("NaN", .float Binary64.undefined), ("Infinity", .float (Binary64.infinity false)),
      ("-Infinity", .float (Binary64.infinity true))]
  words.findSome? fun (spelling, value) =>
    (word? spelling.toList text).map fun rest => (value, rest)

mutual

/-- A value at the front of a text.  Each step into or along a value spends one of
the bound. -/
def value? (bound : Nat) (text : Text) : Option (Value × Text) :=
  match bound with
  | 0 => none
  | more + 1 =>
      match text with
      | '\x22' :: rest => (string? rest).map fun (content, later) => (.ofCodes content, later)
      | '[' :: rest =>
          match skipSpace rest with
          | ']' :: later => some (.list [], later)
          | first => (items? more first).map fun (items, later) => (.list items, later)
      | '\x7b' :: rest =>
          match skipSpace rest with
          | '\x7d' :: later => some (.object [], later)
          | first =>
              (fields? more first).map fun (fields, later) =>
                (.ofFields (Register.ofEntries fields), later)
      | _ =>
          match constant? text with
          | some found => some found
          | none =>
              match text with
              | '-' :: rest => number? true rest
              | _ => number? false text

/-- The items of an array up to its closing bracket. -/
def items? (bound : Nat) (text : Text) : Option (List Value × Text) :=
  match bound with
  | 0 => none
  | more + 1 =>
      match value? more text with
      | none => none
      | some (item, rest) =>
          match skipSpace rest with
          | ',' :: later =>
              (items? more (skipSpace later)).map fun (items, last) => (item :: items, last)
          | ']' :: later => some ([item], later)
          | _ => none

/-- The fields of an object up to its closing brace. -/
def fields? (bound : Nat) (text : Text) : Option (List (List Nat × Value) × Text) :=
  match bound with
  | 0 => none
  | more + 1 =>
      match text with
      | '\x22' :: opened =>
          match string? opened with
          | none => none
          | some (name, afterName) =>
              match skipSpace afterName with
              | ':' :: afterColon =>
                  match value? more (skipSpace afterColon) with
                  | none => none
                  | some (value, rest) =>
                      match skipSpace rest with
                      | ',' :: later =>
                          (fields? more (skipSpace later)).map fun (fields, last) =>
                            ((name, value) :: fields, last)
                      | '\x7d' :: later => some ([(name, value)], later)
                      | _ => none
              | _ => none
      | _ => none

end

def read? (text : Text) : Option Value :=
  match value? (2 * text.length + 2) (skipSpace text) with
  | some (value, rest) => if skipSpace rest = [] then some value else none
  | none => none

end Json
end ContractSurvey
