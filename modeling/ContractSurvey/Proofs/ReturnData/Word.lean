/-
Return data of one word.

A word is shown as an address or as a numeral.  The magnitude of an address is measured in
decimal digits, from thirty-six to forty-nine of them, but a number that has no place in
twenty bytes is no address: the first twelve bytes of its word are not zero, and the numeral
is shown after all.  Text that does not spell a whole word is read by neither way.
-/

import ContractSurvey.Proofs.Abi.Number
import ContractSurvey.Proofs.Abi.RoundTrip
import ContractSurvey.Proofs.Numeral
import ContractSurvey.Proofs.ReturnData.Spelling

namespace ContractSurvey
namespace ReturnData

/-! ### The magnitude of an address -/

theorem resemblesAddress_iff (value : Nat) :
    resemblesAddress value = true ↔
      value = placeholder ∨ (Nat.pow 10 35 ≤ value ∧ value < Nat.pow 10 49) := by
  have lower : (Numeral.ofNat value).length ≤ 35 ↔ value < Nat.pow 10 35 :=
    Numeral.ofNat_length_le_iff (by decide)
  have upper : (Numeral.ofNat value).length ≤ 49 ↔ value < Nat.pow 10 49 :=
    Numeral.ofNat_length_le_iff (by decide)
  unfold resemblesAddress
  simp only [Bool.or_eq_true, beq_iff_eq, Bool.and_eq_true, decide_eq_true_eq]
  omega

/-! ### Readings of a word -/

theorem readNumber_of_length {word : List UInt8} (size : word.length = Abi.wordSize) :
    Abi.readNumber word 0 = .ok (Abi.numberOf word) := by
  have front := Abi.holds_front word []
  rw [List.append_nil] at front
  unfold Abi.readNumber
  rw [Abi.readWord_of_holds front size]
  rfl

/-- The address in a word is read when the number of the word fits into it. -/
theorem readAddress?_of_length {word : List UInt8} (size : word.length = Abi.wordSize) :
    readAddress? word =
      if Abi.numberOf word < Nat.pow 2 160 then
        some (Address.checksummed (Hex.ofBytes (word.drop 12)))
      else none := by
  have front := Abi.holds_front word []
  rw [List.append_nil] at front
  have low : (word.drop 12).length = 20 := by
    rw [List.length_drop, size]
    rfl
  have bytes : Nat.pow 256 20 = Nat.pow 2 160 := by decide
  have padded := Abi.numberOf_append_lt_iff (word.take 12) (word.drop 12)
  rw [List.take_append_drop, low, bytes] at padded
  have read : Abi.readAddress word 0 =
      if (word.take 12).all (· == 0) = true then .ok (word.drop 12)
      else .error (.filling (word.take 12)) := by
    unfold Abi.readAddress Abi.checkFilling
    rw [Abi.readWord_of_holds front size]
    change ((if (word.take 12).all (· == 0) = true then Except.ok () else .error _) >>=
      fun _ => Except.ok (word.drop 12)) = _
    split <;> rfl
  unfold readAddress?
  rw [read]
  by_cases zero : (word.take 12).all (· == 0) = true
  · simp only [if_pos zero, if_pos (padded.mpr zero)]
  · simp only [if_neg zero, if_neg (mt padded.mp zero)]

theorem readWord?_of_length {word : List UInt8} (size : word.length = Abi.wordSize) :
    readWord? word = some
      (if Abi.numberOf word = placeholder ∨
          (Nat.pow 10 35 ≤ Abi.numberOf word ∧ Abi.numberOf word < Nat.pow 2 160) then
        Address.checksummed (Hex.ofBytes (word.drop 12))
      else Numeral.ofNat (Abi.numberOf word)) := by
  have known : placeholder < Nat.pow 2 160 := by decide
  have cut : Nat.pow 2 160 < Nat.pow 10 49 := by decide
  unfold readWord?
  rw [readNumber_of_length size, readAddress?_of_length size]
  generalize Abi.numberOf word = value
  have resembles := resemblesAddress_iff value
  by_cases narrow : value < Nat.pow 2 160
  · have window : resemblesAddress value = true ↔
        value = placeholder ∨ (Nat.pow 10 35 ≤ value ∧ value < Nat.pow 2 160) := by
      rw [resembles]
      omega
    simp only [if_pos narrow, window, Option.getD_some]
    split <;> rfl
  · have outside :
        ¬(value = placeholder ∨ (Nat.pow 10 35 ≤ value ∧ value < Nat.pow 2 160)) := by
      omega
    simp only [if_neg narrow, if_neg outside, Option.getD_none, ite_self]

theorem readWord?_of_short {content : List UInt8} (short : content.length < Abi.wordSize) :
    readWord? content = none := by
  have cut : Abi.readWord content 0 = .error (.shortWord content.length) := by
    have whole : content.take Abi.wordSize = content :=
      List.take_of_length_le (Nat.le_of_lt short)
    unfold Abi.readWord
    rw [List.drop_zero, whole]
    exact if_pos short
  unfold readWord? readAddress? Abi.readNumber Abi.readAddress
  rw [cut]
  rfl

/-! ### What a word shows -/

private theorem ofNat_ne_of_head {value : Nat} {first : Char} {rest : Text}
    (letter : first.isDigit = false) : Numeral.ofNat value ≠ first :: rest := by
  intro same
  have member : first ∈ Numeral.ofNat value := by
    rw [same]
    exact List.mem_cons_self ..
  have digit := Numeral.isDigit_of_mem_ofNat member
  rw [letter] at digit
  cases digit

/-- Every word is shown as an address or as a numeral, by its number alone, and text of the
length of a word that does not spell one is shown as a reverted call. -/
theorem decode_word :
    (∀ (data : ReturnData) (word : List UInt8), data.Spells word → word.length = 32 →
      decode data =
        (if Abi.numberOf word = 57005 ∨
            (Nat.pow 10 35 ≤ Abi.numberOf word ∧ Abi.numberOf word < Nat.pow 2 160) then
          Address.checksummed (Hex.ofBytes (word.drop 12))
        else Nat.toDigits 10 (Abi.numberOf word)) ∧
      decode data ≠ reverted ∧ decode data ≠ undecoded) ∧
    (∀ text : Text, text.length = 66 → Hex.hasMarker text = true →
      (text.drop 2).all Hex.isDigit = false → decode (.spelled text) = reverted) := by
  constructor
  · intro data word spells size
    have shown : decode data =
        (if Abi.numberOf word = placeholder ∨
            (Nat.pow 10 35 ≤ Abi.numberOf word ∧ Abi.numberOf word < Nat.pow 2 160) then
          Address.checksummed (Hex.ofBytes (word.drop 12))
        else Numeral.ofNat (Abi.numberOf word)) := by
      rw [decode_of_spells spells, size]
      change (readWord? word).getD _ = _
      rw [readWord?_of_length size]
      rfl
    rw [shown, ← Numeral.ofNat_eq_toDigits]
    refine ⟨rfl, ?_, ?_⟩
    · split
      · exact fun same => absurd (List.cons.inj same).1 (by decide)
      · exact ofNat_ne_of_head (by decide)
    · split
      · exact fun same => absurd (List.cons.inj same).1 (by decide)
      · exact ofNat_ne_of_head (by decide)
  · intro text size marker odd
    unfold decode rule
    rw [form_of_hasMarker marker, size]
    cases given : Hex.read (text.drop 2) with
    | error position => rfl
    | ok content =>
        have short : content.length < Abi.wordSize := by
          refine Nat.lt_of_not_le fun full => ?_
          have behind : (text.drop 2).length ≤ 2 * content.length := by
            rw [List.length_drop, size]
            exact Nat.mul_le_mul_left 2 full
          rw [Hex.all_isDigit_of_read given behind] at odd
          cases odd
        change (readWord? content).getD _ = _
        rw [readWord?_of_short short]
        rfl

theorem decode_word_at_the_bounds :
    decode (.raw (Abi.word (Nat.pow 10 35))) =
        "0x000000000013426172C74d822B878FE800000000".toList ∧
      decode (.raw (Abi.word (Nat.pow 2 160))) =
        "1461501637330902918203684832716283019655932542976".toList ∧
      decode (.spelled ("0x  ".toList ++ List.replicate 62 '0')) = reverted := by
  have lower := decode_word.1 _ _ (raw_spells (Abi.word (Nat.pow 10 35))) (by decide)
  have upper := decode_word.1 _ _ (raw_spells (Abi.word (Nat.pow 2 160))) (by decide)
  refine ⟨lower.1.trans ?_, upper.1.trans ?_, ?_⟩
  · decide +kernel
  · decide +kernel
  · exact decode_word.2 _ (by decide) (by decide) (by decide)

end ReturnData
end ContractSurvey
