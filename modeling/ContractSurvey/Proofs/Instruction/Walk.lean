/-
Reading code and writing it.

A walk goes through code from one offset to the next and lists what it meets.  The
instructions of a bytecode are the list of the walk from its first byte, and what they
write is the code itself, or the code up to a last push that is cut short.  In the other
direction, what a list of complete instructions writes is read as that list, whatever
stands behind it.

Where an instruction stands is not compared in that direction: a list of instructions may
carry any offsets.
-/

import ContractSurvey.Instruction.Basic

namespace ContractSurvey
namespace Instruction

/-- The number of operand bytes that the code of an instruction announces. -/
def size (instruction : Instruction) : Nat :=
  Opcode.operandSize instruction.opcode.toNat

def content (instruction : Instruction) : UInt8 × Option (List UInt8) :=
  (instruction.opcode, instruction.operand)

/-- An instruction with exactly the operand bytes that its code announces. -/
def IsComplete (instruction : Instruction) : Prop :=
  (instruction.size = 0 → instruction.operand = none) ∧
    (0 < instruction.size →
      ∃ bytes, instruction.operand = some bytes ∧ bytes.length = instruction.size)

/-- An instruction whose operand is what stands behind it in a bytecode. -/
def IsReadFrom (code : Bytecode) (instruction : Instruction) : Prop :=
  instruction.IsComplete ∧
    ∀ bytes, instruction.operand = some bytes →
      bytes = (code.drop (instruction.offset + 1)).take instruction.size

/-- A push without an operand, behind which fewer bytes are left than it announces. -/
def IsCutShortIn (code : Bytecode) (instruction : Instruction) : Prop :=
  0 < instruction.size ∧ instruction.operand = none ∧
    instruction.offset < code.length ∧
    code.length < instruction.offset + 1 + instruction.size

/-- What a listing of a bytecode has to satisfy. -/
structure IsListingOf (code : Bytecode) (listed : List Instruction) : Prop where
  startsAtZero : ∀ first, listed.head? = some first → first.offset = 0
  advances : ∀ index earlier later, listed[index]? = some earlier →
    listed[index + 1]? = some later → later.offset = earlier.offset + 1 + earlier.size
  opcodes : ∀ instruction ∈ listed, code[instruction.offset]? = some instruction.opcode
  operands : ∀ index instruction, listed[index]? = some instruction →
    index + 1 < listed.length → instruction.IsReadFrom code
  bytes : assemble listed = code ∨
    ∃ last, listed.getLast? = some last ∧ last.IsCutShortIn code ∧
      assemble listed = code.take (last.offset + 1)

/-! ### Walks through code -/

def operandAt (code : Bytecode) (offset size : Nat) : Option (List UInt8) :=
  if size = 0 then none else some ((code.drop (offset + 1)).take size)

/-- The instructions met on the way from an offset to the end of the code. -/
inductive Walk (code : Bytecode) : Nat → List Instruction → Prop
  | finished : Walk code code.length []
  | read {offset : Nat} {opcode : UInt8} {later : List Instruction}
      (here : code[offset]? = some opcode)
      (fits : offset + Opcode.operandSize opcode.toNat < code.length)
      (onward : Walk code (offset + 1 + Opcode.operandSize opcode.toNat) later) :
      Walk code offset
        (⟨offset, opcode, operandAt code offset (Opcode.operandSize opcode.toNat)⟩ :: later)
  | cut {offset : Nat} {opcode : UInt8}
      (here : code[offset]? = some opcode)
      (short : code.length ≤ offset + Opcode.operandSize opcode.toNat) :
      Walk code offset [⟨offset, opcode, none⟩]

private theorem opcode_of_drop {code rest : Bytecode} {offset : Nat} {opcode : UInt8}
    (suffix : code.drop offset = opcode :: rest) :
    code[offset]? = some opcode ∧ code.drop (offset + 1) = rest ∧
      code.length = offset + 1 + rest.length := by
  have here : (code.drop offset)[0]? = some opcode := by rw [suffix]; rfl
  have behind : (code.drop offset).drop 1 = rest := by rw [suffix]; rfl
  have count : (code.drop offset).length = rest.length + 1 := by rw [suffix]; rfl
  rw [List.getElem?_drop, Nat.add_zero] at here
  rw [List.drop_drop] at behind
  rw [List.length_drop] at count
  exact ⟨here, behind, by omega⟩

/-- Reading what is left of a code from an offset on is a walk from there. -/
theorem walk_decodeFrom (code : Bytecode) (offset : Nat) (rest : Bytecode)
    (suffix : code.drop offset = rest) (inside : offset ≤ code.length) :
    Walk code offset (decodeFrom offset rest) := by
  fun_induction decodeFrom offset rest with
  | case1 offset =>
      have atEnd : offset = code.length := by
        have beyond := List.drop_eq_nil_iff.mp suffix
        omega
      rw [atEnd]
      exact .finished
  | case2 offset opcode rest size plain ih =>
      obtain ⟨here, behind, count⟩ := opcode_of_drop suffix
      have noOperand : Opcode.operandSize opcode.toNat = 0 := plain
      have onward := ih behind (by omega)
      have step := Walk.read here (by omega) (by rw [noOperand]; exact onward)
      rwa [operandAt, if_pos noOperand] at step
  | case3 offset opcode rest size operand push short =>
      obtain ⟨here, _, count⟩ := opcode_of_drop suffix
      have few : rest.length < size := by
        simp only [operand, List.length_take] at short
        omega
      exact .cut here (by omega)
  | case4 offset opcode rest size operand push long ih =>
      obtain ⟨here, behind, count⟩ := opcode_of_drop suffix
      have enough : size ≤ rest.length := by
        simp only [operand, List.length_take] at long
        omega
      have further : code.drop (offset + 1 + size) = rest.drop size := by
        rw [← behind, List.drop_drop]
      have step := Walk.read here (by omega) (ih further (by omega))
      rwa [operandAt, if_neg push, behind] at step

theorem walk_decode (code : Bytecode) : Walk code 0 (decode code) :=
  walk_decodeFrom code 0 code rfl (Nat.zero_le _)

/-! ### What a walk lists -/

theorem Walk.head_offset {code : Bytecode} {offset : Nat} {listed : List Instruction}
    (walk : Walk code offset listed) (first : Instruction)
    (atHead : listed.head? = some first) : first.offset = offset := by
  cases walk with
  | finished => cases atHead
  | read here fits onward =>
      cases atHead
      rfl
  | cut here short =>
      cases atHead
      rfl

theorem Walk.next_offset {code : Bytecode} {offset : Nat} {listed : List Instruction}
    (walk : Walk code offset listed) (index : Nat) (earlier later : Instruction)
    (atIndex : listed[index]? = some earlier) (behind : listed[index + 1]? = some later) :
    later.offset = earlier.offset + 1 + earlier.size := by
  induction walk generalizing index with
  | finished => cases atIndex
  | read here fits onward ih =>
      cases index with
      | zero =>
          have atHead := behind
          rw [List.getElem?_cons_succ, ← List.head?_eq_getElem?] at atHead
          rw [List.getElem?_cons_zero] at atIndex
          cases atIndex
          exact onward.head_offset later atHead
      | succ index => exact ih index atIndex behind
  | cut here short => cases behind

theorem Walk.opcode_at {code : Bytecode} {offset : Nat} {listed : List Instruction}
    (walk : Walk code offset listed) :
    ∀ instruction ∈ listed, code[instruction.offset]? = some instruction.opcode := by
  induction walk with
  | finished =>
      intro instruction member
      cases member
  | read here fits onward ih =>
      intro instruction member
      rcases List.mem_cons.mp member with first | later
      · rw [first]
        exact here
      · exact ih instruction later
  | cut here short =>
      intro instruction member
      rw [List.mem_singleton.mp member]
      exact here

theorem operandAt_isReadFrom (code : Bytecode) (offset : Nat) (opcode : UInt8)
    (fits : offset + Opcode.operandSize opcode.toNat < code.length) :
    IsReadFrom code
      ⟨offset, opcode, operandAt code offset (Opcode.operandSize opcode.toNat)⟩ := by
  refine ⟨⟨?_, ?_⟩, ?_⟩
  · intro plain
    exact if_pos plain
  · intro push
    refine ⟨_, if_neg (Nat.ne_of_gt push), ?_⟩
    rw [List.length_take, List.length_drop]
    change min (Opcode.operandSize opcode.toNat) _ = Opcode.operandSize opcode.toNat
    omega
  · intro bytes held
    change operandAt code offset _ = some bytes at held
    unfold operandAt at held
    split at held
    · cases held
    · exact (Option.some.inj held).symm

theorem Walk.isReadFrom_of_followed {code : Bytecode} {offset : Nat}
    {listed : List Instruction} (walk : Walk code offset listed) (index : Nat)
    (instruction : Instruction) (atIndex : listed[index]? = some instruction)
    (followed : index + 1 < listed.length) : instruction.IsReadFrom code := by
  induction walk generalizing index with
  | finished => cases atIndex
  | read here fits onward ih =>
      cases index with
      | zero =>
          cases atIndex
          exact operandAt_isReadFrom code _ _ fits
      | succ index =>
          rw [List.length_cons] at followed
          exact ih index atIndex (by omega)
  | cut here short =>
      rw [List.length_singleton] at followed
      omega

/-- Only the last instruction of a walk may lack the operand that it announces. -/
theorem Walk.isComplete_of_operand {code : Bytecode} {offset : Nat}
    {listed : List Instruction} (walk : Walk code offset listed) :
    ∀ instruction ∈ listed, instruction.operand ≠ none → instruction.IsComplete := by
  induction walk with
  | finished =>
      intro instruction member
      cases member
  | read here fits onward ih =>
      intro instruction member held
      rcases List.mem_cons.mp member with first | later
      · rw [first]
        exact (operandAt_isReadFrom code _ _ fits).1
      · exact ih instruction later held
  | cut here short =>
      intro instruction member held
      rw [List.mem_singleton.mp member] at held
      exact absurd rfl held

/-! ### What a walk writes -/

theorem take_append_encoded {code : Bytecode} {offset : Nat} {opcode : UInt8}
    (here : code[offset]? = some opcode) (size : Nat) :
    code.take offset ++ encoded ⟨offset, opcode, operandAt code offset size⟩ =
      code.take (offset + 1 + size) := by
  obtain ⟨inside, found⟩ := List.getElem?_eq_some_iff.mp here
  have further :
      (code.drop offset).take (1 + size) =
        opcode :: (code.drop (offset + 1)).take size := by
    rw [List.drop_eq_getElem_cons inside, found, Nat.add_comm 1 size,
      List.take_succ_cons]
  rw [Nat.add_assoc, List.take_add, further]
  unfold encoded operandAt
  by_cases plain : size = 0
  · rw [if_pos plain, plain]
    rfl
  · rw [if_neg plain]
    rfl

/-- What stands before a walk together with what the walk writes is the code, or the
code up to a push that is cut short. -/
theorem Walk.take_append_assemble {code : Bytecode} {offset : Nat}
    {listed : List Instruction} (walk : Walk code offset listed) :
    code.take offset ++ assemble listed = code ∨
      ∃ last, listed.getLast? = some last ∧ last.IsCutShortIn code ∧
        code.take offset ++ assemble listed = code.take (last.offset + 1) := by
  -- Each instruction moves the bytes it writes from the walk to what stands before it.
  induction walk with
  | finished =>
      left
      rw [List.take_length]
      exact List.append_nil code
  | @read offset opcode later here fits onward ih =>
      have written := take_append_encoded here (Opcode.operandSize opcode.toNat)
      have assembled :
          code.take offset ++ assemble
              (⟨offset, opcode, operandAt code offset (Opcode.operandSize opcode.toNat)⟩ ::
                later) =
            code.take (offset + 1 + Opcode.operandSize opcode.toNat) ++ assemble later := by
        rw [← written, List.append_assoc]
        rfl
      rw [assembled]
      rcases ih with whole | ⟨last, atEnd, cutShort, upTo⟩
      · exact Or.inl whole
      · right
        refine ⟨last, ?_, cutShort, upTo⟩
        rw [List.getLast?_cons, atEnd]
        rfl
  | @cut offset opcode here short =>
      right
      obtain ⟨inside, _⟩ := List.getElem?_eq_some_iff.mp here
      refine ⟨⟨offset, opcode, none⟩, rfl, ⟨?_, rfl, inside, ?_⟩, ?_⟩
      · change 0 < Opcode.operandSize opcode.toNat
        omega
      · change code.length < offset + 1 + Opcode.operandSize opcode.toNat
        omega
      · exact take_append_encoded here 0

theorem decode_isListingOf (code : Bytecode) : IsListingOf code (decode code) := by
  have walk := walk_decode code
  refine ⟨walk.head_offset, walk.next_offset, walk.opcode_at,
    walk.isReadFrom_of_followed, ?_⟩
  have written := walk.take_append_assemble
  rw [List.take_zero, List.nil_append] at written
  exact written

/-! ### Reading what was written -/

/-- Complete instructions in front of any bytes are read as themselves, and the reading
goes on behind them. -/
theorem content_decodeFrom_assemble (instructions : List Instruction)
    (complete : ∀ instruction ∈ instructions, instruction.IsComplete)
    (offset : Nat) (rest : Bytecode) :
    ∃ behind, (decodeFrom offset (assemble instructions ++ rest)).map content =
      instructions.map content ++ (decodeFrom behind rest).map content := by
  induction instructions generalizing offset with
  | nil => exact ⟨offset, rfl⟩
  | cons first later ih =>
      obtain ⟨noOperand, hasOperand⟩ := complete first (List.mem_cons_self ..)
      have onward := ih fun instruction member =>
        complete instruction (List.mem_cons_of_mem first member)
      rcases Nat.eq_zero_or_pos first.size with plain | push
      · obtain ⟨behind, same⟩ := onward (offset + 1)
        refine ⟨behind, ?_⟩
        have written : assemble (first :: later) ++ rest =
            first.opcode :: (assemble later ++ rest) := by
          rw [assemble, List.flatMap_cons, encoded, noOperand plain]
          rfl
        have emptyOperand : Opcode.operandSize first.opcode.toNat = 0 := plain
        rw [written, decodeFrom]
        simp only [if_pos emptyOperand, List.map_cons, List.cons_append]
        rw [same, content, content, noOperand plain]
      · obtain ⟨bytes, held, count⟩ := hasOperand push
        obtain ⟨behind, same⟩ := onward (offset + 1 + first.size)
        refine ⟨behind, ?_⟩
        have written : assemble (first :: later) ++ rest =
            first.opcode :: (bytes ++ (assemble later ++ rest)) := by
          rw [assemble, List.flatMap_cons, encoded, held, Option.getD_some,
            List.append_assoc]
          rfl
        have someOperand : Opcode.operandSize first.opcode.toNat = bytes.length := count.symm
        rw [written, decodeFrom]
        simp only [someOperand, List.take_left, List.drop_left, List.map_cons,
          List.cons_append]
        rw [if_neg (by omega), if_neg (Nat.lt_irrefl _), List.map_cons]
        rw [← count] at same
        rw [same, content, content, held]

private theorem decodeFrom_nil (offset : Nat) : decodeFrom offset [] = [] := by
  rw [decodeFrom]

/-- A push in front of fewer bytes than it announces is read without an operand, and
nothing is read behind it. -/
private theorem decodeFrom_push_short (offset : Nat) (opcode : UInt8) (rest : Bytecode)
    (short : rest.length < Opcode.operandSize opcode.toNat) :
    decodeFrom offset (opcode :: rest) = [⟨offset, opcode, none⟩] := by
  have few : (rest.take (Opcode.operandSize opcode.toNat)).length <
      Opcode.operandSize opcode.toNat := by
    rw [List.length_take]
    omega
  rw [decodeFrom]
  simp only [if_pos few]
  rw [if_neg (by omega)]

/-- Reading a bytecode lists it without a gap, and what the list writes is the bytecode
or stops at a push that is cut short.  Complete instructions are read back from what they
write, by themselves and in front of a push that is cut short. -/
theorem decode_inverse_assemble :
    (∀ code : Bytecode, IsListingOf code (decode code)) ∧
    (∀ instructions : List Instruction,
      (∀ instruction ∈ instructions, instruction.IsComplete) →
      (decode (assemble instructions)).map content = instructions.map content) ∧
    (∀ (instructions : List Instruction) (opcode : UInt8) (rest : Bytecode),
      (∀ instruction ∈ instructions, instruction.IsComplete) →
      rest.length < Opcode.operandSize opcode.toNat →
      (decode (assemble instructions ++ opcode :: rest)).map content =
        instructions.map content ++ [(opcode, none)]) := by
  refine ⟨decode_isListingOf, ?_, ?_⟩
  · intro instructions complete
    obtain ⟨behind, same⟩ := content_decodeFrom_assemble instructions complete 0 []
    rw [List.append_nil, decodeFrom_nil, List.map_nil, List.append_nil] at same
    exact same
  · intro instructions opcode rest complete short
    obtain ⟨behind, same⟩ :=
      content_decodeFrom_assemble instructions complete 0 (opcode :: rest)
    rw [decodeFrom_push_short behind opcode rest short] at same
    exact same

/-- Two complete instructions in front of a push of two bytes with one byte left. -/
theorem decode_assemble_push_cut_short :
    (∀ instruction ∈ ([⟨0, 0x60, some [0x05]⟩, ⟨2, 0x01, none⟩] : List Instruction),
      instruction.IsComplete) ∧
    ([0x07] : Bytecode).length < Opcode.operandSize (0x61 : UInt8).toNat ∧
    (decode (assemble [⟨0, 0x60, some [0x05]⟩, ⟨2, 0x01, none⟩] ++ 0x61 :: [0x07])).map
      content = [(0x60, some [0x05]), (0x01, none), (0x61, none)] := by
  have complete :
      ∀ instruction ∈ ([⟨0, 0x60, some [0x05]⟩, ⟨2, 0x01, none⟩] : List Instruction),
        instruction.IsComplete := by
    intro instruction member
    rcases List.mem_cons.mp member with first | later
    · rw [first]
      exact ⟨fun plain => absurd plain (by decide), fun _ => ⟨[0x05], rfl, by decide⟩⟩
    · rw [List.mem_singleton.mp later]
      exact ⟨fun _ => rfl, fun push => absurd push (by decide)⟩
  refine ⟨complete, by decide, ?_⟩
  exact decode_inverse_assemble.2.2 _ _ _ complete (by decide)

end Instruction
end ContractSurvey
