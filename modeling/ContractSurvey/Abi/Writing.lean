/-
Writing contract data.

Values of fixed size stand in the head of what holds them.  A value of varying size
stands in the tail, and the head holds its distance from the first byte of the
head.  The tails follow one another in the order of their heads.
-/

import ContractSurvey.Abi.Word
import ContractSurvey.Text.Utf8

namespace ContractSurvey
namespace Abi

/-- A truth value as a word. -/
def writeFlag (value : Bool) : List UInt8 :=
  word (if value then 1 else 0)

/-- A byte string: its length, its bytes, and zeros up to a whole word. -/
def writeContent (content : List UInt8) : List UInt8 :=
  word content.length ++ content ++
    List.replicate (roundedUp content.length - content.length) 0

/-- The distances of items that follow one another from a distance on. -/
def writeOffsets (distance : Nat) : List (List UInt8) → List UInt8
  | [] => []
  | item :: rest => word distance ++ writeOffsets (distance + item.length) rest

/-- A list of items of varying size: their number, their distances from the first
distance, and the items. -/
def writeArray (items : List (List UInt8)) : List UInt8 :=
  word items.length ++ writeOffsets (wordSize * items.length) items ++ items.flatten

/-- The twenty bytes of an address as a word. -/
def writeAddress (address : List UInt8) : List UInt8 :=
  List.replicate (wordSize - address.length) 0 ++ address

/-- A target and the data for it. -/
def writeCall (call : List UInt8 × List UInt8) : List UInt8 :=
  writeAddress call.1 ++ word (2 * wordSize) ++ writeContent call.2

def writeCalls (flag : Bool) (calls : List (List UInt8 × List UInt8)) : List UInt8 :=
  writeFlag flag ++ word (2 * wordSize) ++ writeArray (calls.map writeCall)

/-- A flag and the data that came with it. -/
def writeResult (result : Bool × List UInt8) : List UInt8 :=
  writeFlag result.1 ++ word (2 * wordSize) ++ writeContent result.2

def writeResults (results : List (Bool × List UInt8)) : List UInt8 :=
  word wordSize ++ writeArray (results.map writeResult)

/-- Two numbers. -/
def writePair (first second : Nat) : List UInt8 :=
  word first ++ word second

def writeText (text : Text) : List UInt8 :=
  word wordSize ++ writeContent text.utf8

end Abi
end ContractSurvey
