/-
Where selectors come from.

A boundary is a position that reading code from its first byte on leads to.  Boundaries are
defined by the code alone, without a list of instructions: a byte string is read at the
first position, and behind every instruction that fits.  The selectors of a bytecode are
the four bytes behind the complete pushes of four bytes that stand at boundaries, each once,
in the order of their first pushes.

Bytes inside an operand are no boundary, whatever they look like, and nothing is pushed from
a push that is cut short on.
-/

import Mathlib.Data.Nat.Find
import ContractSurvey.Proofs.Instruction.Selectors

namespace ContractSurvey
namespace Instruction

/-- The positions that the instructions of a bytecode lead to from its first byte on. -/
inductive IsBoundary (code : Bytecode) : Nat → Prop
  | first : IsBoundary code 0
  | next {position : Nat} {opcode : UInt8} (boundary : IsBoundary code position)
      (here : code[position]? = some opcode)
      (fits : position + Opcode.operandSize opcode.toNat < code.length) :
      IsBoundary code (position + 1 + Opcode.operandSize opcode.toNat)

/-- A complete push of four bytes at a boundary, and the selector that its bytes make. -/
structure PushesAt (code : Bytecode) (position : Nat) (selector : Text) : Prop where
  boundary : IsBoundary code position
  push : code[position]? = some Opcode.push4
  fits : position + 4 < code.length
  spelled : selector = Hex.marked ((code.drop (position + 1)).take 4)

structure IsFirstPush (code : Bytecode) (selector : Text) (position : Nat) : Prop where
  pushes : PushesAt code position selector
  least : ∀ other, PushesAt code other selector → position ≤ other

/-! ### Boundaries -/

private theorem opcode_unique {code : Bytecode} {position : Nat} {first second : UInt8}
    (one : code[position]? = some first) (other : code[position]? = some second) :
    first = second :=
  Option.some.inj (one.symm.trans other)

/-- No boundary lies between an instruction and the end of what it announces. -/
theorem IsBoundary.next_le {code : Bytecode} {earlier later : Nat} {opcode : UInt8}
    (boundary : IsBoundary code earlier) (here : code[earlier]? = some opcode)
    (other : IsBoundary code later) (before : earlier < later) :
    earlier + 1 + Opcode.operandSize opcode.toNat ≤ later := by
  -- The boundary that leads to the later one is compared with the earlier one.  If it lay
  -- in front of it, the earlier one would have been passed over.
  induction later using Nat.strongRecOn generalizing earlier opcode with
  | ind later ih =>
      cases other with
      | first => omega
      | @next previous _ step there fits =>
          rcases Nat.lt_trichotomy earlier previous with less | same | more
          · have reached := ih previous (by omega) boundary here step less
            omega
          · subst same
            rw [opcode_unique here there]
          · have passed := ih earlier before step there boundary more
            omega

theorem IsBoundary.not_inside {code : Bytecode} {position inner : Nat} {opcode : UInt8}
    (boundary : IsBoundary code position) (here : code[position]? = some opcode)
    (behind : position < inner)
    (inside : inner ≤ position + Opcode.operandSize opcode.toNat) :
    ¬ IsBoundary code inner := by
  intro reached
  have further := boundary.next_le here reached behind
  omega

/-- Nothing is pushed from a push that is cut short on. -/
theorem IsBoundary.not_pushesAt_of_short {code : Bytecode} {position other : Nat}
    {opcode : UInt8} {selector : Text} (boundary : IsBoundary code position)
    (here : code[position]? = some opcode)
    (short : code.length ≤ position + Opcode.operandSize opcode.toNat)
    (behind : position ≤ other) : ¬ PushesAt code other selector := by
  intro pushes
  have fits := pushes.fits
  rcases Nat.eq_or_lt_of_le behind with same | later
  · subst same
    have four : Opcode.operandSize opcode.toNat = 4 := by
      rw [opcode_unique here pushes.push]
      rfl
    omega
  · exact boundary.not_inside here later (by omega) pushes.boundary

/-! ### Boundaries and walks -/

theorem Walk.isBoundary {code : Bytecode} {offset : Nat} {listed : List Instruction}
    (walk : Walk code offset listed) (boundary : IsBoundary code offset) :
    ∀ instruction ∈ listed, IsBoundary code instruction.offset := by
  induction walk with
  | finished => simp
  | read here fits onward ih =>
      have later := ih (boundary.next here fits)
      simpa [boundary] using later
  | cut here short => simpa using boundary

/-- Every boundary begins a walk whose list ends the list of the whole code. -/
theorem IsBoundary.walk {code : Bytecode} {position : Nat}
    (boundary : IsBoundary code position) :
    ∃ listed, Walk code position listed ∧ listed <:+ decode code := by
  induction boundary with
  | first => exact ⟨decode code, walk_decode code, List.suffix_refl _⟩
  | next _ here fits ih =>
      obtain ⟨listed, walk, suffix⟩ := ih
      cases walk with
      | finished => omega
      | @read _ opcode later there _ onward =>
          rw [opcode_unique here there]
          exact ⟨later, onward, (List.suffix_cons _ _).trans suffix⟩
      | cut there short =>
          rw [opcode_unique there here] at short
          omega

theorem Walk.le_offset {code : Bytecode} {offset : Nat} {listed : List Instruction}
    (walk : Walk code offset listed) : ∀ instruction ∈ listed, offset ≤ instruction.offset := by
  induction walk with
  | finished => simp
  | read here fits onward ih =>
      intro instruction member
      rcases List.mem_cons.mp member with same | later
      · subst same
        exact Nat.le_refl _
      · have further := ih instruction later
        omega
  | cut here short => simp

theorem Walk.pairwise_offset {code : Bytecode} {offset : Nat} {listed : List Instruction}
    (walk : Walk code offset listed) :
    listed.Pairwise fun earlier later => earlier.offset < later.offset := by
  induction walk with
  | finished => exact List.Pairwise.nil
  | read here fits onward ih =>
      rw [List.pairwise_cons]
      refine ⟨?_, ih⟩
      intro later member
      have further := onward.le_offset later member
      dsimp only
      omega
  | cut here short => exact List.pairwise_singleton _ _

theorem Walk.operand_cases {code : Bytecode} {offset : Nat} {listed : List Instruction}
    (walk : Walk code offset listed) :
    ∀ instruction ∈ listed, instruction.operand = none ∨
      instruction.offset + instruction.size < code.length ∧
        instruction.operand = operandAt code instruction.offset instruction.size := by
  induction walk with
  | finished => simp
  | read here fits onward ih =>
      intro instruction member
      rcases List.mem_cons.mp member with same | later
      · subst same
        exact Or.inr ⟨fits, rfl⟩
      · exact ih instruction later
  | cut here short => simp

/-! ### Pushes -/

theorem pushesAt_of_mem {code : Bytecode} {instruction : Instruction} {selector : Text}
    (member : instruction ∈ decode code) (pushed : instruction.selector? = some selector) :
    PushesAt code instruction.offset selector := by
  have walk := walk_decode code
  have here := walk.opcode_at instruction member
  unfold selector? at pushed
  by_cases push : instruction.opcode = Opcode.push4
  · rw [if_pos push] at pushed
    have four : instruction.size = 4 := by
      unfold size
      rw [push]
      rfl
    obtain ⟨bytes, held, rfl⟩ := Option.map_eq_some_iff.mp pushed
    rcases walk.operand_cases instruction member with missing | ⟨fits, read⟩
    · rw [missing] at held
      cases held
    · rw [held, four] at read
      rw [four] at fits
      rw [push] at here
      exact ⟨walk.isBoundary .first instruction member, here, fits,
        congrArg Hex.marked (Option.some.inj read)⟩
  · rw [if_neg push] at pushed
    cases pushed

theorem PushesAt.exists_mem {code : Bytecode} {position : Nat} {selector : Text}
    (pushes : PushesAt code position selector) :
    ∃ instruction ∈ decode code, instruction.offset = position ∧
      instruction.selector? = some selector := by
  obtain ⟨listed, walk, suffix⟩ := pushes.boundary.walk
  have fits := pushes.fits
  cases walk with
  | finished => omega
  | read here _ _ =>
      rw [opcode_unique here pushes.push] at suffix
      refine ⟨_, suffix.mem (List.mem_cons_self ..), rfl, ?_⟩
      rw [pushes.spelled]
      rfl
  | cut here short =>
      rw [opcode_unique here pushes.push] at short
      change code.length ≤ position + 4 at short
      omega

theorem mem_selectors_iff (code : Bytecode) (selector : Text) :
    selector ∈ code.selectors ↔ ∃ position, PushesAt code position selector := by
  unfold Bytecode.selectors selectors
  rw [List.mem_eraseDups, List.mem_filterMap]
  constructor
  · rintro ⟨instruction, member, pushed⟩
    exact ⟨_, pushesAt_of_mem member pushed⟩
  · rintro ⟨position, pushes⟩
    obtain ⟨instruction, member, _, pushed⟩ := pushes.exists_mem
    exact ⟨instruction, member, pushed⟩

theorem exists_isFirstPush {code : Bytecode} {position : Nat} {selector : Text}
    (pushes : PushesAt code position selector) :
    ∃ first, IsFirstPush code selector first ∧ first ≤ position := by
  classical
  have some : ∃ position, PushesAt code position selector := ⟨position, pushes⟩
  refine ⟨Nat.find some, ⟨Nat.find_spec some, ?_⟩, Nat.find_min' some pushes⟩
  intro other pushed
  exact Nat.find_min' some pushed

/-- A selector that occurs first among the pushed ones is pushed in front of every push of
the other. -/
private theorem exists_push_before {code : Bytecode} {earlier later : Text}
    (occurs : OccursFirst ((decode code).filterMap selector?) earlier later) :
    ∃ position, PushesAt code position earlier ∧
      ∀ other, PushesAt code other later → position < other := by
  obtain ⟨front, behind, shape, different, absent⟩ := occurs
  obtain ⟨before, rest, split, rfl, found⟩ := List.filterMap_eq_append_iff.mp shape
  obtain ⟨skipped, instruction, last, rfl, silent, pushed, _⟩ :=
    List.filterMap_eq_cons_iff.mp found
  have member : instruction ∈ decode code := by simp [split]
  refine ⟨instruction.offset, pushesAt_of_mem member pushed, ?_⟩
  intro position pushes
  obtain ⟨other, present, rfl, same⟩ := pushes.exists_mem
  have sorted := (walk_decode code).pairwise_offset
  rw [split, List.pairwise_append, List.pairwise_append, List.pairwise_cons] at sorted
  obtain ⟨_, ⟨_, ⟨ordered, _⟩, _⟩, _⟩ := sorted
  rw [split] at present
  simp only [List.mem_append, List.mem_cons] at present
  rcases present with inFront | inSkipped | here | inLast
  · exact absurd (List.mem_filterMap.mpr ⟨other, inFront, same⟩) absent
  · rw [silent other inSkipped] at same
    cases same
  · rw [here, pushed] at same
    exact absurd (Option.some.inj same).symm different
  · exact ordered other inLast

/-- The selectors of a bytecode are those of the pushes of four bytes at its boundaries, each
once, in the order of their first pushes. -/
theorem selectors_exact (code : Bytecode) :
    code.selectors.Nodup ∧
    (∀ selector, selector ∈ code.selectors ↔ ∃ position, PushesAt code position selector) ∧
    (code.selectors.Pairwise fun earlier later => ∃ first second,
      IsFirstPush code earlier first ∧ IsFirstPush code later second ∧ first < second) ∧
    (∀ selector ∈ code.selectors,
      selector.length = Call.selectorLength ∧ Text.small selector = selector) ∧
    (∀ position inner opcode selector, IsBoundary code position →
      code[position]? = some opcode → position < inner →
      inner ≤ position + Opcode.operandSize opcode.toNat → ¬ PushesAt code inner selector) ∧
    (∀ position other opcode selector, IsBoundary code position →
      code[position]? = some opcode →
      code.length ≤ position + Opcode.operandSize opcode.toNat → position ≤ other →
      ¬ PushesAt code other selector) := by
  refine ⟨code.selectors_nodup, mem_selectors_iff code, ?_, ?_, ?_, ?_⟩
  · apply List.Pairwise.imp_of_mem _ (pairwise_eraseDups _)
    intro earlier later _ member occurs
    obtain ⟨position, pushes, before⟩ := exists_push_before occurs
    obtain ⟨other, pushed⟩ := (mem_selectors_iff code later).mp member
    obtain ⟨first, isFirst, early⟩ := exists_isFirstPush pushes
    obtain ⟨second, isSecond, _⟩ := exists_isFirstPush pushed
    have ordered := before second isSecond.pushes
    exact ⟨first, second, isFirst, isSecond, by omega⟩
  · intro selector member
    obtain ⟨bytes, four, rfl⟩ := Bytecode.exists_marked_of_mem_selectors member
    rw [Hex.marked_length, four]
    exact ⟨rfl, Text.small_marked bytes⟩
  · intro position inner opcode selector boundary here behind inside pushes
    exact boundary.not_inside here behind inside pushes.boundary
  · intro position other opcode selector boundary here short behind
    exact boundary.not_pushesAt_of_short here short behind

/-- Two selectors, the first pushed twice, between an operand that looks like a push and a
push that is cut short. -/
def repeatedPush : Bytecode :=
  [0x63, 1, 2, 3, 4, 0x60, 0x63, 0x63, 10, 11, 12, 13, 0x63, 1, 2, 3, 4, 0x63, 9]

theorem selectors_repeatedPush :
    IsBoundary repeatedPush 5 ∧ IsBoundary repeatedPush 17 ∧
    (∀ selector, selector ∈ ["0x01020304".toList, "0x0a0b0c0d".toList] ↔
      ∃ position, PushesAt repeatedPush position selector) ∧
    (∃ first second, IsFirstPush repeatedPush "0x01020304".toList first ∧
      IsFirstPush repeatedPush "0x0a0b0c0d".toList second ∧ first < second) ∧
    (∀ selector, ¬ PushesAt repeatedPush 6 selector) ∧
    (∀ other selector, 17 ≤ other → ¬ PushesAt repeatedPush other selector) := by
  have listed : repeatedPush.selectors = ["0x01020304".toList, "0x0a0b0c0d".toList] := by
    decide +kernel
  have front : repeatedPush[0]? = some 0x63 := rfl
  have five : IsBoundary repeatedPush 5 := .next .first front (by decide)
  have seven : IsBoundary repeatedPush 7 := .next five rfl (by decide)
  have twelve : IsBoundary repeatedPush 12 := .next seven rfl (by decide)
  have seventeen : IsBoundary repeatedPush 17 := .next twelve rfl (by decide)
  obtain ⟨_, members, ordered, _, inside, short⟩ := selectors_exact repeatedPush
  rw [listed] at ordered
  refine ⟨five, seventeen, ?_, ?_, ?_, ?_⟩
  · intro selector
    rw [← listed]
    exact members selector
  · exact (List.pairwise_cons.mp ordered).1 _ (List.mem_cons_self ..)
  · intro selector
    exact inside 5 6 0x60 selector five rfl (by decide) (by decide)
  · intro other selector behind
    exact short 17 other 0x63 selector seventeen rfl (by decide) behind

end Instruction
end ContractSurvey
