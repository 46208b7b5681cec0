/-
Numerals of base ten.

A number is written without a marker and without low lines, and its digits make it up again.
Reading refuses nothing of this but a row of digits that is too long.  So a number comes back
from its numeral exactly when it can be written, and a failure, whose details can be written,
never shows a number that cannot be read.
-/

import ContractSurvey.Fault
import ContractSurvey.Proofs.Numeral
import ContractSurvey.Proofs.Numeral.Sixteen

namespace ContractSurvey
namespace Numeral

/-! ### Digits -/

private theorem digit?_hexDigit :
    ∀ value < 10, digit? .ten (Text.hexDigit value) = some value := by
  decide

theorem Digits.concat {base : Base} {digits : Text} {values : List Nat} {digit : Char}
    {value : Nat} (written : Digits base digits values)
    (valued : digit? base digit = some value) :
    Digits base (digits ++ [digit]) (values ++ [value]) := by
  induction written with
  | last first => exact .next first (.last valued)
  | next first _ ih => exact .next first ih
  | lined first _ ih => exact .lined first ih

/-- The digits of a numeral make up its number. -/
theorem exists_digits_ofNat (value : Nat) : ∃ values, Digits .ten (ofNat value) values ∧
    values.length = (ofNat value).length ∧ valueOf .ten values = value := by
  fun_induction ofNat value with
  | case1 value small =>
      exact ⟨[value], .last (digit?_hexDigit value small), rfl, by simp [valueOf]⟩
  | case2 value large ih =>
      obtain ⟨values, written, count, whole⟩ := ih
      have last : value % 10 < 10 := Nat.mod_lt value (by decide)
      refine ⟨values ++ [value % 10], written.concat (digit?_hexDigit _ last), ?_, ?_⟩
      · rw [List.length_append, List.length_append, count]
        rfl
      · unfold valueOf at whole ⊢
        rw [List.foldl_append, whole]
        exact Nat.div_add_mod' value 10

theorem readUnsigned_ofNat (value : Nat) :
    readUnsigned .ten (ofNat value) =
      if value < Nat.pow 10 longestDecimal then some value else none := by
  obtain ⟨values, written, count, whole⟩ := exists_digits_ofNat value
  have long : longestDecimal < values.length ↔ ¬value < Nat.pow 10 longestDecimal := by
    rw [count, ← ofNat_length_le_iff (by decide), Nat.not_le]
  have plain : unmarked .ten (ofNat value) = ofNat value := rfl
  unfold readUnsigned
  rw [plain, (digits?_eq_some_iff ..).mpr written]
  simp only [true_and, whole, long, ite_not]

/-! ### Signs -/

private theorem isMargin_of_mem_ofInt {value : Int} {character : Char}
    (member : character ∈ ofInt value) : isMargin character = false := by
  have ofDigit {count : Nat} (inside : character ∈ ofNat count) : isMargin character = false := by
    have digit := isDigit_of_mem_ofNat inside
    rw [Char.isDigit_iff_toNat] at digit
    unfold isMargin Text.isBlank Text.isBlankCode
    simp only [Bool.and_eq_false_iff]
    left
    grind
  cases value with
  | ofNat value => exact ofDigit member
  | negSucc less =>
      rcases List.mem_cons.mp member with rfl | inside
      · decide
      · exact ofDigit inside

private theorem trim_ofInt (value : Int) : Text.trim isMargin (ofInt value) = ofInt value := by
  have trimmed : Text.IsTrimmed isMargin (ofInt value) :=
    ⟨fun character first => isMargin_of_mem_ofInt (List.mem_of_head? first),
      fun character last => isMargin_of_mem_ofInt (List.mem_of_getLast? last)⟩
  exact trimmed.trim_eq

/-- A natural number has no sign in front. -/
private theorem no_sign_of_ofNat (value : Nat) (rest : Text) :
    ofNat value ≠ '+' :: rest ∧ ofNat value ≠ '-' :: rest := by
  obtain ⟨values, written, _⟩ := exists_digits_ofNat value
  obtain ⟨first, others, digit, same, valued⟩ := written.exists_first
  rw [same]
  constructor
  · rintro ⟨⟩
    cases valued
  · rintro ⟨⟩
    cases valued

/-- A number is read back from its numeral exactly when it can be written. -/
theorem read_ofInt (value : Int) :
    read .ten (ofInt value) = if isWritable value then some value else none := by
  unfold read isWritable
  rw [trim_ofInt]
  cases value with
  | ofNat value =>
      split
      · rename_i rest same
        exact absurd same (no_sign_of_ofNat value rest).1
      · rename_i rest same
        exact absurd same (no_sign_of_ofNat value rest).2
      · change (readUnsigned .ten (ofNat value)).map Int.ofNat = _
        rw [readUnsigned_ofNat, apply_ite (Option.map Int.ofNat)]
        simp only [decide_eq_true_eq]
        rfl
  | negSucc less =>
      change (readUnsigned .ten (ofNat (less + 1))).map (fun value : Nat => -Int.ofNat value) = _
      rw [readUnsigned_ofNat, apply_ite (Option.map fun value : Nat => -Int.ofNat value)]
      simp only [decide_eq_true_eq]
      rfl

end Numeral

/-- A failure about a single number has a message from which the number can be read. -/
theorem ServiceFailure.read_message {failure : ServiceFailure} {value : Int}
    (single : failure.details = [.int value]) :
    Numeral.read .ten failure.message = some value := by
  have writable := failure.writable
  unfold ServiceFailure.message
  rw [single] at writable ⊢
  have short : Numeral.isWritable value = true := (Bool.and_eq_true_iff.mp writable).1
  change Numeral.read .ten (Numeral.ofInt value) = _
  rw [Numeral.read_ofInt, if_pos short]

end ContractSurvey
