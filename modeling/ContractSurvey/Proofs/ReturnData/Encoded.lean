/-
Return data that was encoded.

A pair of numbers and a text are encoded in whole words.  The number of words alone chooses
the rule, so a text is shown as long as its bytes fit into one word, a longer one is not
guessed at, and the empty text stands for the pair that has the same two words.
-/

import ContractSurvey.Proofs.Abi.RoundTrip
import ContractSurvey.Proofs.Numeral
import ContractSurvey.Proofs.ReturnData.Spelling
import ContractSurvey.Proofs.Text.Utf8

namespace ContractSurvey

namespace Abi

theorem writePair_length (first second : Nat) :
    (writePair first second).length = 2 * wordSize := by
  unfold writePair
  rw [List.length_append, word_length, word_length, Nat.two_mul]

theorem writeText_length (text : Text) :
    (writeText text).length = 2 * wordSize + roundedUp text.utf8.length := by
  unfold writeText
  rw [List.length_append, word_length, writeContent_length]
  omega

theorem readPair_writePair {first second : Nat} (firstFits : first < Nat.pow 256 wordSize)
    (secondFits : second < Nat.pow 256 wordSize) :
    readPair (writePair first second) = .ok (first, second) := by
  have whole := holds_front (writePair first second) []
  rw [List.append_nil] at whole
  have behind := whole.right
  rw [word_length, Nat.zero_add] at behind
  unfold readPair
  rw [readNumber_of_holds whole.left firstFits, readNumber_of_holds behind secondFits]
  rfl

theorem readText_writeText {text : Text} (countable : roundedUp text.utf8.length < lengthBound) :
    readText (writeText text) = .ok text := by
  have size := writeText_length text
  have whole : Holds (writeText text) 0 (word wordSize ++ writeContent text.utf8) := by
    have front := holds_front (writeText text) []
    rwa [List.append_nil] at front
  generalize writeText text = data at size whole ⊢
  have content := whole.right
  rw [word_length, Nat.zero_add] at content
  have place : readPlace .tuple data 0 1 0 = .ok wordSize := by
    have found : readPlace .tuple data 0 1 0 = .ok (0 + wordSize) :=
      readPlace_of_holds whole.left (by decide) (by unfold wordSize at *; omega) (by decide)
    rwa [Nat.zero_add] at found
  unfold readText
  simp only [place, readContent_of_holds content countable, bind, Except.bind,
    Text.ofUtf8?_utf8]
  rfl

end Abi

namespace ReturnData

/-- The encoding of the empty text is the encoding of a pair. -/
theorem writeText_of_empty {text : Text} (empty : text.utf8.length = 0) :
    Abi.writeText text = Abi.writePair Abi.wordSize 0 := by
  have none : text.utf8 = [] := List.length_eq_zero_iff.mp empty
  unfold Abi.writeText Abi.writePair Abi.writeContent
  rw [none, List.append_nil]
  exact congrArg _ (List.append_nil _)

private theorem decode_pair {data : ReturnData} {first second : Nat}
    (spells : data.Spells (Abi.writePair first second))
    (firstFits : first < Nat.pow 256 Abi.wordSize)
    (secondFits : second < Nat.pow 256 Abi.wordSize) :
    decode data = Numeral.ofNat first := by
  rw [decode_of_spells spells, Abi.writePair_length]
  change (readFirst? (Abi.writePair first second)).getD _ = _
  unfold readFirst?
  rw [Abi.readPair_writePair firstFits secondFits]
  rfl

private theorem decode_text {data : ReturnData} {text : Text}
    (spells : data.Spells (Abi.writeText text)) (positive : 0 < text.utf8.length)
    (fits : text.utf8.length ≤ Abi.wordSize) : decode data = text := by
  have oneWord : Abi.roundedUp text.utf8.length = Abi.wordSize := by
    unfold Abi.roundedUp Abi.wordSize at *
    omega
  have countable : Abi.roundedUp text.utf8.length < Abi.lengthBound := by
    rw [oneWord]
    decide
  rw [decode_of_spells spells, Abi.writeText_length, oneWord]
  change (readText? (Abi.writeText text)).getD _ = _
  unfold readText?
  rw [Abi.readText_writeText countable]
  rfl

private theorem decode_longText {data : ReturnData} {text : Text}
    (spells : data.Spells (Abi.writeText text)) (long : Abi.wordSize < text.utf8.length) :
    decode data = undecoded := by
  have enough := Abi.le_roundedUp text.utf8.length
  have words : 2 * Abi.wordSize + Abi.roundedUp text.utf8.length ≥ 97 := by
    unfold Abi.wordSize at *
    omega
  have rule : Rule.ofLength (2 * (Abi.writeText text).length + 2) = .oversized := by
    rw [Abi.writeText_length]
    unfold Rule.ofLength
    rw [if_neg (by omega), if_neg (by omega), if_neg (by omega), if_neg (by omega),
      if_pos (by omega)]
  rw [decode_of_spells spells, rule]
  rfl

/-- A pair is shown as its first number.  A text is shown when its bytes fill at most one word,
except that the empty text cannot be told from a pair. -/
theorem decode_encoded :
    (∀ (data : ReturnData) (first second : Nat), first < Nat.pow 2 256 →
      second < Nat.pow 2 256 → data.Spells (Abi.writePair first second) →
      decode data = Nat.toDigits 10 first) ∧
    (∀ (data : ReturnData) (text : Text), data.Spells (Abi.writeText text) →
      decode data =
        if text.utf8.length = 0 then "32".toList
        else if text.utf8.length ≤ 32 then text
        else undecoded) ∧
    Abi.writeText [] = Abi.writePair 32 0 := by
  have bytes : Nat.pow 256 Abi.wordSize = Nat.pow 2 256 := by decide
  refine ⟨?_, ?_, writeText_of_empty rfl⟩
  · intro data first second firstFits secondFits spells
    rw [← bytes] at firstFits secondFits
    rw [decode_pair spells firstFits secondFits, Numeral.ofNat_eq_toDigits]
  · intro data text spells
    split
    · rename_i empty
      rw [writeText_of_empty empty] at spells
      rw [decode_pair spells (by decide) (by decide)]
      decide +kernel
    split
    · exact decode_text spells (by omega) ‹_›
    · exact decode_longText spells (Nat.lt_of_not_le ‹_›)

/-- A text of the greatest length that is shown, in characters of two and three bytes, and the
same text with one character more. -/
theorem decode_encoded_at_the_bounds :
    decode (.raw (Abi.writePair 7 (Nat.pow 2 256 - 1))) = "7".toList ∧
      decode (.raw (Abi.writeText ('\u00e9' :: List.replicate 10 '\u20ac'))) =
        '\u00e9' :: List.replicate 10 '\u20ac' ∧
      decode (.raw (Abi.writeText ('!' :: '\u00e9' :: List.replicate 10 '\u20ac'))) =
        undecoded := by
  refine ⟨?_, ?_, ?_⟩
  · exact decode_encoded.1 _ 7 _ (by decide) (by decide) (raw_spells _)
  · exact decode_encoded.2.1 _ _ (raw_spells _)
  · exact decode_encoded.2.1 _ _ (raw_spells _)

end ReturnData
end ContractSurvey
