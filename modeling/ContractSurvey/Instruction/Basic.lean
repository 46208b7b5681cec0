/-
Instructions of a bytecode.

Code is read from its first byte on.  A code with operands takes the bytes behind
it and the reading goes on after them; where fewer bytes are left than it needs,
the instruction is kept without an operand and the reading ends.  Writing the
codes and operands of a list of instructions one after another gives code again.
-/

import ContractSurvey.Bytecode
import ContractSurvey.Opcode

namespace ContractSurvey

/-- An operation at an offset of the code, with the operand of a push that is
complete. -/
structure Instruction where
  offset : Nat
  opcode : UInt8
  operand : Option (List UInt8)
  deriving DecidableEq

namespace Instruction

def mnemonic (instruction : Instruction) : Text :=
  Opcode.mnemonic instruction.opcode.toNat

/-- The bytes an instruction was read from. -/
def encoded (instruction : Instruction) : Bytecode :=
  instruction.opcode :: instruction.operand.getD []

def assemble (instructions : List Instruction) : Bytecode :=
  instructions.flatMap encoded

def decodeFrom (offset : Nat) : Bytecode → List Instruction
  | [] => []
  | opcode :: rest =>
      let size := Opcode.operandSize opcode.toNat
      let operand := rest.take size
      if size = 0 then ⟨offset, opcode, none⟩ :: decodeFrom (offset + 1) rest
      else if operand.length < size then [⟨offset, opcode, none⟩]
      else ⟨offset, opcode, some operand⟩ ::
        decodeFrom (offset + 1 + size) (rest.drop size)
termination_by code => code.length
decreasing_by
  · simp only [List.length_cons]; omega
  · simp only [List.length_drop, List.length_cons]; omega

def decode (code : Bytecode) : List Instruction :=
  decodeFrom 0 code

/-- The selector that an instruction pushes, when it is a complete push of four
bytes. -/
def selector? (instruction : Instruction) : Option Text :=
  if instruction.opcode = Opcode.push4 then instruction.operand.map Hex.marked
  else none

def selectors (instructions : List Instruction) : List Text :=
  (instructions.filterMap selector?).eraseDups

end Instruction

/-- The candidate function selectors of a bytecode: every complete push of four
bytes counts, whether the code compares it with a call's selector or not. -/
def Bytecode.selectors (code : Bytecode) : List Text :=
  Instruction.selectors (Instruction.decode code)

end ContractSurvey
