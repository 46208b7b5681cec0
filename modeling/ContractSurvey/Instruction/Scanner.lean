/-
A scanner keeps the instructions of one bytecode.

The instructions are decoded when they are first asked for and kept from then on.
Decoding puts them one after another behind those that are kept.  An empty list of
kept instructions stands for a scanner that was not asked yet.
-/

import ContractSurvey.Instruction.Basic

namespace ContractSurvey

namespace Instruction

/-- The instruction that begins with an opcode, and the code that is left to decode:
nothing is left behind an instruction that is cut short. -/
def readFirst (offset : Nat) (opcode : UInt8) (rest : Bytecode) : Instruction × Bytecode :=
  let size := Opcode.operandSize opcode.toNat
  let operand := rest.take size
  if size = 0 then (⟨offset, opcode, none⟩, rest)
  else if operand.length < size then (⟨offset, opcode, none⟩, [])
  else (⟨offset, opcode, some operand⟩, rest.drop size)

theorem readFirst_length_le (offset : Nat) (opcode : UInt8) (rest : Bytecode) :
    (readFirst offset opcode rest).2.length ≤ rest.length := by
  unfold readFirst
  dsimp only
  split
  · exact Nat.le_refl _
  split
  · exact Nat.zero_le _
  · rw [List.length_drop]
    exact Nat.sub_le _ _

/-- Puts the instructions of code that begins at an offset behind those that are
kept. -/
def collect (kept : Array Instruction) (offset : Nat) : Bytecode → Array Instruction
  | [] => kept
  | opcode :: rest =>
      let read := readFirst offset opcode rest
      collect (kept.push read.1) (offset + read.1.encoded.length) read.2
termination_by code => code.length
decreasing_by
  simp only [List.length_cons]
  exact Nat.lt_succ_of_le (readFirst_length_le offset opcode rest)

end Instruction

/-- One bytecode with the instructions kept so far. -/
structure Scanner where
  code : Bytecode
  kept : Array Instruction

namespace Scanner

/-- A scanner that was not asked yet. -/
def ofCode (code : Bytecode) : Scanner :=
  { code := code, kept := #[] }

/-- A scanner of bytecode that is handed over as a value of any kind. -/
def ofValue (value : Value) : Except Bytecode.Refusal Scanner :=
  (Bytecode.ofValue value).map ofCode

/-- The instructions of the bytecode, and the scanner that keeps them. -/
def instructions (scanner : Scanner) : List Instruction × Scanner :=
  if scanner.kept.isEmpty then
    let filled := Instruction.collect scanner.kept 0 scanner.code
    (filled.toList, { scanner with kept := filled })
  else (scanner.kept.toList, scanner)

def selectors (scanner : Scanner) : List Text × Scanner :=
  let (instructions, later) := scanner.instructions
  (Instruction.selectors instructions, later)

inductive Question
  | instructions
  | selectors
  deriving DecidableEq

inductive Answer
  | instructions (listed : List Instruction)
  | selectors (listed : List Text)
  deriving DecidableEq

def answer (scanner : Scanner) : Question → Answer × Scanner
  | .instructions =>
      let (listed, later) := scanner.instructions
      (.instructions listed, later)
  | .selectors =>
      let (listed, later) := scanner.selectors
      (.selectors listed, later)

def answers (scanner : Scanner) : List Question → List Answer × Scanner
  | [] => ([], scanner)
  | question :: rest =>
      let (first, next) := scanner.answer question
      let (others, last) := next.answers rest
      (first :: others, last)

end Scanner
end ContractSurvey
