/-
Strict reading of contract data.

Every reading is made at a position of the whole data, whose other parts it does not
look at.  Distances are checked before anything they lead to is read: they must
lead behind the heads of what holds them and into the data.  Bytes that fill up a
word must be zero.
-/

import ContractSurvey.Abi.Word
import ContractSurvey.Text.Quoted
import ContractSurvey.Text.Utf8
import ContractSurvey.Numeral

namespace ContractSurvey
namespace Abi

/-- What holds a distance. -/
inductive Holder
  | tuple
  | array
  deriving DecidableEq

/-- The reasons for which data cannot be read. -/
inductive Fault
  | shortWord (got : Nat)
  /-- A byte string is cut short. -/
  | shortContent (wanted got : Nat)
  /-- A byte string is longer than anything that can be counted. -/
  | uncountable
  /-- Bytes that fill up a word are not zero. -/
  | filling (bytes : List UInt8)
  /-- A truth value is neither zero nor one. -/
  | flag (byte : UInt8)
  /-- A distance leads nowhere. -/
  | distance (holder : Holder) (location : Nat)
  | illFormedText
  deriving DecidableEq

/-- The name of what holds a distance. -/
def Holder.name : Holder → Text
  | .tuple => "tuple".toList
  | .array => "array".toList

/-- The message for a read of fewer bytes than were wanted. -/
private def cutShort (wanted got : Nat) : Text :=
  "Tried to read ".toList ++ Numeral.ofNat wanted ++ " bytes, only got ".toList ++
    Numeral.ofNat got ++ " bytes".toList

def Fault.message : Fault → Text
  | .shortWord got => cutShort wordSize got ++ ['.']
  | .shortContent wanted got => cutShort wanted got
  | .uncountable => "cannot fit 'int' into an index-sized integer".toList
  | .filling bytes => "Padding bytes were not empty: ".toList ++ Text.quotedBytes bytes
  | .flag byte =>
      "Boolean must be either 0x0 or 0x1.  Got: ".toList ++ Text.quotedBytes [byte]
  | .distance holder location =>
      "Invalid pointer in ".toList ++ holder.name ++ " at location ".toList ++
        Numeral.ofNat location ++ " in payload".toList
  | .illFormedText => "invalid text".toList

/-- The bound that no length of a byte string reaches. -/
def lengthBound : Nat := Nat.pow 2 63

def readWord (data : List UInt8) (position : Nat) : Except Fault (List UInt8) :=
  let taken := (data.drop position).take wordSize
  if taken.length < wordSize then .error (.shortWord taken.length) else .ok taken

def readNumber (data : List UInt8) (position : Nat) : Except Fault Nat :=
  (readWord data position).map numberOf

def checkFilling (bytes : List UInt8) : Except Fault Unit :=
  if bytes.all (· == 0) then .ok () else .error (.filling bytes)

/-- The truth value at a position: the last byte decides, then the others. -/
def readFlag (data : List UInt8) (position : Nat) : Except Fault Bool := do
  let taken ← readWord data position
  let last := taken.getLastD 0
  if 1 < last then throw (.flag last)
  checkFilling taken.dropLast
  return last == 1

def readAddress (data : List UInt8) (position : Nat) : Except Fault (List UInt8) := do
  let taken ← readWord data position
  checkFilling (taken.take 12)
  return taken.drop 12

/-- The byte string at a position. -/
def readContent (data : List UInt8) (position : Nat) : Except Fault (List UInt8) := do
  let length ← readNumber data position
  let whole := roundedUp length
  if lengthBound ≤ whole then throw .uncountable
  let taken := (data.drop (position + wordSize)).take whole
  if taken.length < whole then throw (.shortContent whole taken.length)
  checkFilling (taken.drop length)
  return taken.take length

/-- The place that the distance at a location leads to, measured from the frame that
begins with the given number of heads. -/
def readPlace (holder : Holder) (data : List UInt8) (frame heads location : Nat) :
    Except Fault Nat := do
  let distance ← readNumber data location
  let place := frame + distance
  if place < frame + wordSize * heads ∨ data.length ≤ place then
    throw (.distance holder location)
  return place

def readPlaces (data : List UInt8) (frame heads index : Nat) :
    Nat → Except Fault (List Nat)
  | 0 => .ok []
  | remaining + 1 => do
      let place ← readPlace .array data frame heads (frame + wordSize * index)
      let later ← readPlaces data frame heads (index + 1) remaining
      return place :: later

def readEach {Item : Type} (read : Nat → Except Fault Item) :
    List Nat → Except Fault (List Item)
  | [] => .ok []
  | place :: rest => do
      let item ← read place
      let others ← readEach read rest
      return item :: others

/-- The list of items of varying size at a position. -/
def readArray {Item : Type} (read : Nat → Except Fault Item) (data : List UInt8)
    (position : Nat) : Except Fault (List Item) := do
  let count ← readNumber data position
  let places ← readPlaces data (position + wordSize) count 0 count
  readEach read places

/-- The result at a position: a flag and a byte string. -/
def readResult (data : List UInt8) (position : Nat) :
    Except Fault (Bool × List UInt8) := do
  let flag ← readFlag data position
  let place ← readPlace .tuple data position 2 (position + wordSize)
  let content ← readContent data place
  return (flag, content)

def readResults (data : List UInt8) : Except Fault (List (Bool × List UInt8)) := do
  let place ← readPlace .tuple data 0 1 0
  readArray (readResult data) data place

/-- The call at a position: a target and a byte string. -/
def readCall (data : List UInt8) (position : Nat) :
    Except Fault (List UInt8 × List UInt8) := do
  let target ← readAddress data position
  let place ← readPlace .tuple data position 2 (position + wordSize)
  let content ← readContent data place
  return (target, content)

def readCalls (data : List UInt8) :
    Except Fault (Bool × List (List UInt8 × List UInt8)) := do
  let flag ← readFlag data 0
  let place ← readPlace .tuple data 0 2 wordSize
  let calls ← readArray (readCall data) data place
  return (flag, calls)

/-- Two numbers. -/
def readPair (data : List UInt8) : Except Fault (Nat × Nat) := do
  let first ← readNumber data 0
  let second ← readNumber data wordSize
  return (first, second)

def readText (data : List UInt8) : Except Fault Text := do
  let place ← readPlace .tuple data 0 1 0
  let content ← readContent data place
  match Text.ofUtf8? content with
  | some text => return text
  | none => throw .illFormedText

end Abi
end ContractSurvey
