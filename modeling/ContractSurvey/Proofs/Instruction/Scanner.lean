/-
What a scanner answers.

Decoding puts instructions behind those that a scanner keeps, so decoding a second time would
list everything twice, and what stops decoding early would leave a part of the list behind for
good.  Neither happens.  After any questions the scanner keeps nothing or the whole list of its
bytecode, and every answer is the one that a scanner gives which was not asked before.
-/

import ContractSurvey.Instruction.Scanner
import ContractSurvey.Proofs.Bytecode

namespace ContractSurvey

namespace Instruction

/-! ### Decoding into a list -/

private theorem decodeFrom_end (offset : Nat) : decodeFrom offset [] = [] := by
  rw [decodeFrom]

/-- What is decoded is the first instruction and what is decoded of the code it leaves. -/
theorem decodeFrom_cons (offset : Nat) (opcode : UInt8) (rest : Bytecode) :
    decodeFrom offset (opcode :: rest) =
      (readFirst offset opcode rest).1 ::
        decodeFrom (offset + (readFirst offset opcode rest).1.encoded.length)
          (readFirst offset opcode rest).2 := by
  rw [decodeFrom]
  unfold readFirst
  dsimp only
  split
  · rfl
  split
  · rw [decodeFrom_end]
  · rename_i whole
    have size : (rest.take (Opcode.operandSize opcode.toNat)).length =
        Opcode.operandSize opcode.toNat :=
      Nat.le_antisymm (List.length_take_le ..) (Nat.le_of_not_lt whole)
    have behind : (encoded ⟨offset, opcode,
        some (rest.take (Opcode.operandSize opcode.toNat))⟩).length =
          1 + Opcode.operandSize opcode.toNat := by
      change (rest.take (Opcode.operandSize opcode.toNat)).length + 1 = _
      rw [size, Nat.add_comm]
    rw [behind, Nat.add_assoc]

/-- Collecting keeps what is there and puts behind it what is decoded. -/
theorem collect_toList (kept : Array Instruction) (offset : Nat) (code : Bytecode) :
    (collect kept offset code).toList = kept.toList ++ decodeFrom offset code := by
  fun_induction collect kept offset code with
  | case1 kept offset => rw [decodeFrom_end, List.append_nil]
  | case2 kept offset opcode rest read ih =>
      rw [ih, decodeFrom_cons, Array.toList_push, List.append_assoc]
      rfl

end Instruction

namespace Scanner

/-! ### One question -/

/-- The scanner of a bytecode that keeps all instructions of it, each of them once. -/
def filled (code : Bytecode) : Scanner :=
  { code := code, kept := (Instruction.decode code).toArray }

/-- The two states of a scanner. -/
inductive IsStateFor (code : Bytecode) : Scanner → Prop
  | fresh : IsStateFor code (ofCode code)
  | filled : IsStateFor code (filled code)

variable {code : Bytecode} {scanner : Scanner}

private theorem instructions_of_empty (empty : scanner.kept = #[]) :
    scanner.instructions = (Instruction.decode scanner.code, filled scanner.code) := by
  have collected := Instruction.collect_toList scanner.kept 0 scanner.code
  rw [empty, List.nil_append] at collected
  have whole : Instruction.collect #[] 0 scanner.code =
      (Instruction.decode scanner.code).toArray :=
    Array.ext' collected
  unfold instructions
  rw [empty, if_pos Array.isEmpty_empty, whole]
  rfl

/-- A scanner in either state lists all instructions, and is filled from then on. -/
theorem IsStateFor.instructions (state : IsStateFor code scanner) :
    scanner.instructions = (Instruction.decode code, Scanner.filled code) := by
  cases state with
  | fresh => exact instructions_of_empty rfl
  | filled =>
      by_cases empty : (Scanner.filled code).kept = #[]
      · -- Code without instructions is decoded again for each question, and to no effect.
        exact instructions_of_empty empty
      · have kept : (Scanner.filled code).kept.isEmpty = false :=
          Array.isEmpty_eq_false_iff.mpr empty
        unfold Scanner.instructions
        rw [kept, if_neg Bool.false_ne_true]
        rfl

/-- The answer to a question about a bytecode, decoded anew for each question. -/
def answerFor (code : Bytecode) : Question → Answer
  | .instructions => .instructions (Instruction.decode code)
  | .selectors => .selectors code.selectors

theorem IsStateFor.answer (state : IsStateFor code scanner) (question : Question) :
    scanner.answer question = (answerFor code question, Scanner.filled code) := by
  have listed := state.instructions
  cases question with
  | instructions =>
      unfold Scanner.answer
      rw [listed]
      rfl
  | selectors =>
      unfold Scanner.answer Scanner.selectors
      rw [listed]
      rfl

/-! ### Any questions -/

/-- After any questions a scanner is in one of the two states, and in the filled one as soon as
it was asked. -/
theorem IsStateFor.answers (state : IsStateFor code scanner) (questions : List Question) :
    scanner.answers questions = (questions.map (answerFor code),
      if questions.isEmpty then scanner else Scanner.filled code) := by
  induction questions generalizing scanner with
  | nil => rfl
  | cons question rest ih =>
      have later := ih IsStateFor.filled
      rw [ite_self] at later
      unfold Scanner.answers
      rw [state.answer]
      dsimp only
      rw [later]
      rfl

/-- A scanner of bytecode, handed over as bytes or as text, answers any questions in any order
as a scanner answers them that was not asked before: with the decoded instructions, and with
the selectors.  It keeps nothing until it is asked, and the complete list from then on. -/
theorem answers_transparent {value : Value} {code : Bytecode}
    (given : Bytecode.ofValue value = .ok code) :
    ∃ fresh, ofValue value = .ok fresh ∧
      (fresh.answer .instructions).1 = .instructions (Instruction.decode code) ∧
      (fresh.answer .selectors).1 = .selectors code.selectors ∧
      ∀ questions,
        (fresh.answers questions).1 = questions.map (fun question => (fresh.answer question).1) ∧
        ((fresh.answers questions).2.kept = #[] ∨
          (fresh.answers questions).2.kept.toList = Instruction.decode code) ∧
        (questions ≠ [] →
          (fresh.answers questions).2.kept.toList = Instruction.decode code) := by
  have unasked : IsStateFor code (ofCode code) := .fresh
  have answered := unasked.answer
  refine ⟨ofCode code, ?_, ?_, ?_, ?_⟩
  · unfold ofValue
    rw [given]
    rfl
  · rw [answered]
    rfl
  · rw [answered]
    rfl
  · intro questions
    rw [unasked.answers]
    dsimp only
    refine ⟨?_, ?_, ?_⟩
    · apply List.map_congr_left
      intro question _
      rw [answered]
    · split
      · exact Or.inl rfl
      · exact Or.inr rfl
    · intro asked
      rw [List.isEmpty_eq_false_iff.mpr asked]
      rfl

/-- Code that ends in a push that is cut short, spelled with a gap in it. -/
theorem answers_cutShort_transparent :
    let text := "0x6301020304 61ff".toList
    let code : Bytecode := [0x63, 0x01, 0x02, 0x03, 0x04, 0x61, 0xff]
    let push : Instruction := ⟨0, 0x63, some [0x01, 0x02, 0x03, 0x04]⟩
    Bytecode.ofValue (.text text) = .ok code ∧
    ∃ fresh, ofValue (.text text) = .ok fresh ∧
      (fresh.answers [.selectors, .instructions, .instructions]).1 =
        [.selectors ["0x01020304".toList], .instructions [push, ⟨5, 0x61, none⟩],
          .instructions [push, ⟨5, 0x61, none⟩]] := by
  intro text code push
  have isBody : Bytecode.IsBodyOf "6301020304 61ff".toList text :=
    (Bytecode.isBodyOf_iff _ text).mpr (by decide)
  have apart : Hex.SpellsApart "6301020304 61ff".toList code :=
    .pair (by decide) (.pair (by decide) (.pair (by decide) (.pair (by decide)
      (.pair (by decide) (.gap (by decide) (.pair (by decide) (.pair (by decide) .nil)))))))
  have given : Bytecode.ofValue (.text text) = .ok code :=
    (Bytecode.ofText_eq_ok_iff isBody code).mpr apart
  obtain ⟨fresh, made, listed, selected, every⟩ := answers_transparent given
  have decoded : Instruction.decode code = [push, ⟨5, 0x61, none⟩] := by decide +kernel
  have pushed : code.selectors = ["0x01020304".toList] := by decide +kernel
  refine ⟨given, fresh, made, ?_⟩
  rw [(every _).1, List.map_cons, List.map_cons, List.map_cons, List.map_nil, listed, selected,
    decoded, pushed]

end Scanner
end ContractSurvey
