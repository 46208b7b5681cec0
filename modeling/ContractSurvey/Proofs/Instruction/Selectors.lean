/-
The selectors of a bytecode.

A selector is the marked form of the four bytes of a complete push, so it is ten characters
long, in small letters, and call data that consists of it has it as its selector.  No
selector is listed twice.
-/

import ContractSurvey.Call.Basic
import ContractSurvey.Proofs.Hex.Spelling
import ContractSurvey.Proofs.Instruction.Walk
import ContractSurvey.Proofs.Text.Small

namespace ContractSurvey

namespace Text

theorem small_marked (bytes : List UInt8) : small (Hex.marked bytes) = Hex.marked bytes := by
  have spelled := Hex.ofBytes_spells bytes
  have ascii : ∀ character ∈ Hex.marked bytes, character.toNat < 0x80 := by
    intro character member
    unfold Hex.marked at member
    rcases List.mem_cons.mp member with rfl | member
    · decide
    · rcases List.mem_cons.mp member with rfl | member
      · decide
      · exact spelled.toNat_lt member
  rw [small_of_ascii ascii]
  unfold Hex.marked
  rw [List.map_cons, List.map_cons, spelled]
  rfl

end Text

/-! ### Selectors -/

namespace Instruction

/-- A complete instruction whose operand makes a selector pushes four bytes. -/
theorem exists_marked_of_selector? {instruction : Instruction} {selector : Text}
    (complete : instruction.IsComplete) (pushed : instruction.selector? = some selector) :
    ∃ bytes : List UInt8, bytes.length = 4 ∧ selector = Hex.marked bytes := by
  unfold selector? at pushed
  split at pushed
  · rename_i push
    obtain ⟨bytes, operand, rfl⟩ := Option.map_eq_some_iff.mp pushed
    have four : instruction.size = 4 := by
      unfold size
      rw [push]
      rfl
    obtain ⟨held, same, count⟩ := complete.2 (by omega)
    rw [operand] at same
    cases same
    exact ⟨bytes, count.trans four, rfl⟩
  · cases pushed

end Instruction

/-- Every selector of a bytecode is the marked form of four bytes. -/
theorem Bytecode.exists_marked_of_mem_selectors {code : Bytecode} {selector : Text}
    (member : selector ∈ code.selectors) :
    ∃ bytes : List UInt8, bytes.length = 4 ∧ selector = Hex.marked bytes := by
  unfold Bytecode.selectors Instruction.selectors at member
  rw [List.mem_eraseDups] at member
  obtain ⟨instruction, listed, pushed⟩ := List.mem_filterMap.mp member
  have held : instruction.operand ≠ none := by
    intro missing
    unfold Instruction.selector? at pushed
    rw [missing, Option.map_none, ite_self] at pushed
    cases pushed
  have complete := (Instruction.walk_decode code).isComplete_of_operand instruction listed held
  exact Instruction.exists_marked_of_selector? complete pushed

/-- An item occurs in a list before another one does, which may not occur at all. -/
def OccursFirst {Item : Type} (items : List Item) (earlier later : Item) : Prop :=
  ∃ front behind, items = front ++ earlier :: behind ∧ later ≠ earlier ∧ later ∉ front

private theorem OccursFirst.of_filter {Item : Type} {keep : Item → Bool} {items : List Item}
    {leading earlier later : Item} (first : OccursFirst (items.filter keep) earlier later)
    (kept : keep later = true) (different : later ≠ leading) :
    OccursFirst (leading :: items) earlier later := by
  obtain ⟨front, behind, shape, apart, absent⟩ := first
  obtain ⟨before, rest, rfl, rfl, found⟩ := List.filter_eq_append_iff.mp shape
  obtain ⟨skipped, last, rfl, dropped, _, _⟩ := List.filter_eq_cons_iff.mp found
  refine ⟨leading :: (before ++ skipped), last, by simp, apart, ?_⟩
  intro member
  simp only [List.mem_cons, List.mem_append] at member
  rcases member with same | inFront | inSkipped
  · exact different same
  · exact absent (List.mem_filter.mpr ⟨inFront, kept⟩)
  · exact dropped later inSkipped kept

-- The induction is on a bound of the length, because what is erased next is not the tail.
private theorem pairwise_eraseDups_of_length_le {Item : Type} [BEq Item] [LawfulBEq Item]
    (bound : Nat) (items : List Item) (short : items.length ≤ bound) :
    items.eraseDups.Pairwise (OccursFirst items) := by
  induction bound generalizing items with
  | zero =>
      rw [List.length_eq_zero_iff.mp (Nat.le_zero.mp short)]
      exact List.Pairwise.nil
  | succ bound ih =>
      cases items with
      | nil => exact List.Pairwise.nil
      | cons first rest =>
          have other (item : Item)
              (member : item ∈ (rest.filter fun other => !other == first).eraseDups) :
              (!item == first) = true := by
            rw [List.mem_eraseDups] at member
            exact (List.mem_filter.mp member).2
          have different (item : Item)
              (member : item ∈ (rest.filter fun other => !other == first).eraseDups) :
              item ≠ first := by
            simpa using other item member
          have fewer := List.length_filter_le (fun other => !other == first) rest
          rw [List.length_cons] at short
          rw [List.eraseDups_cons, List.pairwise_cons]
          constructor
          · intro item member
            exact ⟨[], rest, rfl, different item member, by simp⟩
          · apply List.Pairwise.imp_of_mem _ (ih _ (by omega))
            intro earlier later _ member occurs
            exact occurs.of_filter (other later member) (different later member)

/-- The items that are kept stand in the order of their first occurrences. -/
theorem pairwise_eraseDups {Item : Type} [BEq Item] [LawfulBEq Item] (items : List Item) :
    items.eraseDups.Pairwise (OccursFirst items) :=
  pairwise_eraseDups_of_length_le _ items (Nat.le_refl _)

theorem nodup_eraseDups {Item : Type} [BEq Item] [LawfulBEq Item] (items : List Item) :
    items.eraseDups.Nodup := by
  apply (pairwise_eraseDups items).imp
  rintro earlier later ⟨_, _, _, different, _⟩
  exact different.symm

theorem Bytecode.selectors_nil : Bytecode.selectors [] = [] := by
  unfold Bytecode.selectors Instruction.decode
  rw [Instruction.decodeFrom]
  rfl

/-- No selector of a bytecode is listed twice. -/
theorem Bytecode.selectors_nodup (code : Bytecode) : code.selectors.Nodup :=
  nodup_eraseDups _

theorem Call.Request.selector_of_marked (target : Text) {bytes : List UInt8}
    (four : bytes.length = 4) :
    (Call.Request.selector ⟨target, Hex.marked bytes⟩) = Hex.marked bytes := by
  have ten : (Hex.marked bytes).take Call.selectorLength = Hex.marked bytes := by
    apply List.take_of_length_le
    rw [Hex.marked_length, four]
    decide
  unfold Call.Request.selector
  rw [ten]
  exact Text.small_marked bytes

end ContractSurvey
