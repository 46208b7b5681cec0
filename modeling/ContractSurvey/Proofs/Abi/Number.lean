/-
Numbers that bytes spell.

A byte counts as many times as there are numbers spelled by the bytes behind it.  The
number therefore stays below a power of the base, and it is below a smaller power exactly
when its first bytes are zero.
-/

import ContractSurvey.Abi.Word

namespace ContractSurvey
namespace Abi

private theorem foldl_eq (bytes : List UInt8) (start : Nat) :
    bytes.foldl (fun value byte => value * 256 + byte.toNat) start =
      start * Nat.pow 256 bytes.length + numberOf bytes := by
  unfold numberOf
  induction bytes generalizing start with
  | nil => simp
  | cons byte rest ih =>
      have shifted : Nat.pow 256 (rest.length + 1) = 256 * Nat.pow 256 rest.length :=
        Nat.pow_succ'
      simp only [List.foldl_cons]
      rw [ih, ih (0 * 256 + byte.toNat), List.length_cons, shifted, Nat.add_mul,
        Nat.mul_assoc, Nat.zero_mul, Nat.zero_add, Nat.add_assoc]

theorem numberOf_cons (byte : UInt8) (rest : List UInt8) :
    numberOf (byte :: rest) = byte.toNat * Nat.pow 256 rest.length + numberOf rest := by
  have folded : numberOf (byte :: rest) =
      (0 * 256 + byte.toNat) * Nat.pow 256 rest.length + numberOf rest := foldl_eq rest _
  rwa [Nat.zero_mul, Nat.zero_add] at folded

theorem numberOf_append (first second : List UInt8) :
    numberOf (first ++ second) =
      numberOf first * Nat.pow 256 second.length + numberOf second := by
  rw [← foldl_eq]
  exact List.foldl_append

theorem numberOf_append_singleton (bytes : List UInt8) (last : UInt8) :
    numberOf (bytes ++ [last]) = numberOf bytes * 256 + last.toNat := by
  have single : numberOf [last] = last.toNat := Nat.zero_add _
  rw [numberOf_append, single]
  rfl

theorem numberOf_lt (bytes : List UInt8) : numberOf bytes < Nat.pow 256 bytes.length := by
  induction bytes with
  | nil => decide
  | cons byte rest ih =>
      have digit : byte.toNat + 1 ≤ 256 := byte.toNat_lt
      calc numberOf (byte :: rest)
          = byte.toNat * Nat.pow 256 rest.length + numberOf rest := numberOf_cons byte rest
        _ < byte.toNat * Nat.pow 256 rest.length + Nat.pow 256 rest.length :=
            Nat.add_lt_add_left ih _
        _ = (byte.toNat + 1) * Nat.pow 256 rest.length := (Nat.succ_mul ..).symm
        _ ≤ 256 * Nat.pow 256 rest.length := Nat.mul_le_mul_right _ digit
        _ = Nat.pow 256 (byte :: rest).length := Nat.pow_succ'.symm

theorem numberOf_eq_zero_iff (bytes : List UInt8) :
    numberOf bytes = 0 ↔ bytes.all (· == 0) = true := by
  induction bytes with
  | nil => simp [numberOf]
  | cons byte rest ih =>
      have positive : 0 < Nat.pow 256 rest.length := Nat.pow_pos (by decide)
      rw [numberOf_cons, Nat.add_eq_zero_iff, ih, Nat.mul_eq_zero, List.all_cons,
        Bool.and_eq_true, beq_iff_eq, ← UInt8.toNat_inj]
      exact and_congr_left fun _ => or_iff_left (Nat.ne_of_gt positive)

/-- A number is below a power of the base when the bytes before that many are zero. -/
theorem numberOf_append_lt_iff (first second : List UInt8) :
    numberOf (first ++ second) < Nat.pow 256 second.length ↔
      first.all (· == 0) = true := by
  have below := numberOf_lt second
  rw [numberOf_append, ← numberOf_eq_zero_iff]
  constructor
  · intro small
    refine Nat.eq_zero_of_not_pos fun positive => ?_
    have large := Nat.le_mul_of_pos_left (Nat.pow 256 second.length) positive
    omega
  · intro zero
    rw [zero, Nat.zero_mul, Nat.zero_add]
    exact below

end Abi
end ContractSurvey
