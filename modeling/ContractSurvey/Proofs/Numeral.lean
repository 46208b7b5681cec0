/-
Written numerals.

The numeral of a number is the list of its digits in base ten, as the core library writes
it, and its hexadecimal digits are those in base sixteen.  How many digits a number has tells
between which powers of ten it lies.
-/

import ContractSurvey.Numeral

namespace ContractSurvey
namespace Numeral

private theorem hexDigit_eq_digitChar :
    ∀ value < 16, Text.hexDigit value = Nat.digitChar value := by
  decide

theorem ofNat_eq_toDigits (value : Nat) : ofNat value = Nat.toDigits 10 value := by
  fun_induction ofNat value with
  | case1 value small =>
      rw [Nat.toDigits_of_lt_base small, hexDigit_eq_digitChar value (by omega)]
  | case2 value large ih =>
      have last : value % 10 < 10 := Nat.mod_lt value (by decide)
      rw [Nat.toDigits_of_base_le (by decide) (Nat.le_of_not_lt large), ih,
        hexDigit_eq_digitChar _ (by omega)]

theorem hexOfNat_eq_toDigits (value : Nat) : Hex.ofNat value = Nat.toDigits 16 value := by
  fun_induction Hex.ofNat value with
  | case1 value small =>
      rw [Nat.toDigits_of_lt_base small, hexDigit_eq_digitChar value small]
  | case2 value large ih =>
      have last : value % 16 < 16 := Nat.mod_lt value (by decide)
      rw [Nat.toDigits_of_base_le (by decide) (Nat.le_of_not_lt large), ih,
        hexDigit_eq_digitChar _ last]

theorem ofNat_length_le_iff {count value : Nat} (positive : 0 < count) :
    (ofNat value).length ≤ count ↔ value < Nat.pow 10 count := by
  rw [ofNat_eq_toDigits]
  exact Nat.length_toDigits_le_iff (by decide) positive

theorem isDigit_of_mem_ofNat {value : Nat} {character : Char}
    (member : character ∈ ofNat value) : character.isDigit = true := by
  rw [ofNat_eq_toDigits] at member
  exact Nat.isDigit_of_mem_toDigits (by decide) (by decide) member

end Numeral
end ContractSurvey
