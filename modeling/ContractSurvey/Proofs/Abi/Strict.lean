/-
What a strict reading finds.

A reading that succeeds finds the written form of what it gives, at the place where it looks.
So each reading is the inverse of the corresponding writing, and what it gives cannot be longer
than the data: a number takes a word, and a byte string takes its length, its bytes and the
zeros behind them.
-/

import ContractSurvey.Proofs.Abi.RoundTrip
import ContractSurvey.Proofs.Results
import ContractSurvey.Proofs.Text.Utf8

namespace ContractSurvey
namespace Abi

/-! ### Words -/

theorem bigEndian_numberOf {count : Nat} {bytes : List UInt8} (size : bytes.length = count) :
    bigEndian count (numberOf bytes) = bytes := by
  induction count generalizing bytes with
  | zero => exact (List.length_eq_zero_iff.mp size).symm
  | succ more ih =>
      rcases List.eq_nil_or_concat bytes with rfl | ⟨front, last, rfl⟩
      · cases size
      rw [List.concat_eq_append] at size ⊢
      have short : front.length = more := by
        rw [List.length_append] at size
        exact Nat.succ.inj size
      have digit : last.toNat < 256 := last.toNat_lt
      have higher : (numberOf front * 256 + last.toNat) / 256 = numberOf front := by omega
      have lowest : (numberOf front * 256 + last.toNat) % 256 = last.toNat := by omega
      rw [numberOf_append_singleton, bigEndian, higher, lowest, ih short,
        UInt8.ofNat_toNat]

theorem holds_of_take_drop {data part : List UInt8} {position : Nat}
    (inside : position ≤ data.length)
    (same : (data.drop position).take part.length = part) : Holds data position part := by
  refine ⟨data.take position, (data.drop position).drop part.length, ?_, ?_⟩
  · have whole := List.take_append_drop part.length (data.drop position)
    rw [same] at whole
    rw [whole, List.take_append_drop]
  · rw [List.length_take, Nat.min_eq_left inside]

theorem Holds.append {data first second : List UInt8} {position : Nat}
    (front : Holds data position first)
    (behind : Holds data (position + first.length) second) :
    Holds data position (first ++ second) := by
  have inside := front.length_le
  refine holds_of_take_drop (by omega) ?_
  rw [List.length_append, List.take_add, front.take_drop, List.drop_drop, behind.take_drop]

theorem Holds.isInfix {data part : List UInt8} {position : Nat}
    (holds : Holds data position part) : part <:+: data := by
  obtain ⟨before, behind, rfl, rfl⟩ := holds
  exact ⟨before, behind, List.append_assoc ..⟩

theorem readWord_eq_ok_iff (data : List UInt8) (position : Nat) (found : List UInt8) :
    readWord data position = .ok found ↔
      Holds data position found ∧ found.length = wordSize := by
  constructor
  · intro given
    simp only [readWord] at given
    split at given
    · cases given
    · rename_i whole
      cases given
      have size : ((data.drop position).take wordSize).length = wordSize :=
        Nat.le_antisymm (List.length_take_le ..) (Nat.le_of_not_lt whole)
      have inside : position ≤ data.length := by
        rw [List.length_take, List.length_drop] at size
        unfold wordSize at size
        omega
      exact ⟨holds_of_take_drop inside (by rw [size]), size⟩
  · rintro ⟨holds, size⟩
    exact readWord_of_holds holds size

theorem readNumber_eq_ok_iff (data : List UInt8) (position value : Nat) :
    readNumber data position = .ok value ↔
      Holds data position (word value) ∧ value < Nat.pow 256 wordSize := by
  constructor
  · intro given
    cases read : readWord data position with
    | error fault =>
        simp only [readNumber, read] at given
        cases given
    | ok found =>
        simp only [readNumber, read] at given
        cases given
        obtain ⟨holds, size⟩ := (readWord_eq_ok_iff ..).mp read
        have written : word (numberOf found) = found := bigEndian_numberOf size
        have bound := numberOf_lt found
        rw [size] at bound
        rw [written]
        exact ⟨holds, bound⟩
  · rintro ⟨holds, fits⟩
    exact readNumber_of_holds holds fits

theorem length_of_readAddress {data address : List UInt8} {position : Nat}
    (given : readAddress data position = .ok address) : address.length = 20 := by
  obtain ⟨found, read, checked⟩ := exists_of_bind_eq_ok given
  obtain ⟨_, _, same⟩ := exists_of_bind_eq_ok checked
  have size := ((readWord_eq_ok_iff ..).mp read).2
  cases same
  rw [List.length_drop, size]
  rfl

/-! ### Distances -/

theorem readPlace_eq_ok_iff (holder : Holder) (data : List UInt8)
    (frame heads location place : Nat) :
    readPlace holder data frame heads location = .ok place ↔
      ∃ distance, Holds data location (word distance) ∧ distance < Nat.pow 256 wordSize ∧
        wordSize * heads ≤ distance ∧ frame + distance < data.length ∧
        place = frame + distance := by
  constructor
  · intro given
    obtain ⟨distance, read, checked⟩ := exists_of_bind_eq_ok given
    obtain ⟨holds, fits⟩ := (readNumber_eq_ok_iff ..).mp read
    simp only at checked
    split at checked
    · cases checked
    · cases checked
      exact ⟨distance, holds, fits, by omega, by omega, rfl⟩
  · rintro ⟨distance, holds, fits, behindHeads, inside, rfl⟩
    exact readPlace_of_holds holds behindHeads inside fits

/-! ### Byte strings and texts -/

theorem eq_replicate_of_checkFilling {bytes : List UInt8} {result : Unit}
    (filled : checkFilling bytes = .ok result) : bytes = List.replicate bytes.length 0 := by
  unfold checkFilling at filled
  split at filled
  · rename_i zero
    rw [List.eq_replicate_iff]
    exact ⟨rfl, fun byte member => by simpa using List.all_eq_true.mp zero byte member⟩
  · cases filled

/-- A byte string is read where its length, its bytes and the zeros that fill them up stand. -/
theorem readContent_eq_ok_iff (data : List UInt8) (position : Nat) (content : List UInt8) :
    readContent data position = .ok content ↔
      Holds data position (writeContent content) ∧
        roundedUp content.length < lengthBound := by
  constructor
  · intro given
    obtain ⟨length, read, checked⟩ := exists_of_bind_eq_ok given
    simp only at checked
    split at checked
    · cases checked
    rename_i countable
    split at checked
    · cases checked
    rename_i full
    obtain ⟨_, filled, same⟩ := exists_of_bind_eq_ok checked
    obtain ⟨count, fits⟩ := (readNumber_eq_ok_iff ..).mp read
    have inside := count.length_le
    rw [word_length] at inside
    -- What is taken is the content and what fills it up, as many bytes as were wanted.
    have size : ((data.drop (position + wordSize)).take (roundedUp length)).length =
        roundedUp length :=
      Nat.le_antisymm (List.length_take_le ..) (Nat.le_of_not_lt full)
    have body : Holds data (position + wordSize)
        ((data.drop (position + wordSize)).take (roundedUp length)) :=
      holds_of_take_drop inside (by rw [size])
    generalize (data.drop (position + wordSize)).take (roundedUp length) = taken at *
    have zeros := eq_replicate_of_checkFilling filled
    rw [List.length_drop, size] at zeros
    have enough := le_roundedUp length
    have long : content.length = length := by
      cases same
      rw [List.length_take, size, Nat.min_eq_left enough]
    have whole : taken = content ++ List.replicate (roundedUp length - length) 0 := by
      cases same
      rw [← zeros, List.take_append_drop]
    rw [long]
    refine ⟨?_, Nat.lt_of_not_le countable⟩
    unfold writeContent
    rw [List.append_assoc, long, ← whole]
    exact count.append (by rwa [word_length])
  · rintro ⟨holds, countable⟩
    exact readContent_of_holds holds countable

theorem readText_eq_ok_iff (data : List UInt8) (text : Text) :
    readText data = .ok text ↔
      ∃ place, readPlace .tuple data 0 1 0 = .ok place ∧
        Holds data place (writeContent text.utf8) ∧
        roundedUp text.utf8.length < lengthBound := by
  constructor
  · intro given
    obtain ⟨place, found, onward⟩ := exists_of_bind_eq_ok given
    obtain ⟨content, read, encoded⟩ := exists_of_bind_eq_ok onward
    cases decoded : Text.ofUtf8? content with
    | none =>
        rw [decoded] at encoded
        cases encoded
    | some held =>
        rw [decoded] at encoded
        cases encoded
        rw [(Text.ofUtf8?_eq_some_iff ..).mp decoded]
        exact ⟨place, found, (readContent_eq_ok_iff ..).mp read⟩
  · rintro ⟨place, found, written⟩
    have read := (readContent_eq_ok_iff ..).mpr written
    simp only [readText, found, read, bind, Except.bind, Text.ofUtf8?_utf8]
    rfl

/-- In front of the bytes of a text stand the word that leads there and the word that counts
them. -/
theorem length_of_readText {data : List UInt8} {text : Text} (given : readText data = .ok text) :
    2 * wordSize + roundedUp text.utf8.length ≤ data.length := by
  obtain ⟨place, found, written, _⟩ := (readText_eq_ok_iff ..).mp given
  obtain ⟨distance, _, _, behindHead, _, rfl⟩ := (readPlace_eq_ok_iff ..).mp found
  have inside := written.length_le
  rw [writeContent_length] at inside
  omega

theorem isInfix_of_readText {data : List UInt8} {text : Text}
    (given : readText data = .ok text) : text.utf8 <:+: data := by
  obtain ⟨place, _, written, _⟩ := (readText_eq_ok_iff ..).mp given
  exact written.left.right.isInfix

end Abi
end ContractSurvey
