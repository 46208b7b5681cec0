/-
Decoding encoded text.

The encoding of a character is a sequence whose first byte announces its length and whose
bytes contribute the code point, so every text is read back from its encoding.
-/

import ContractSurvey.Text.Utf8

namespace ContractSurvey
namespace Text

/-! ### Single bytes -/

private theorem single_byte :
    ∀ code < 128, sequenceLength (UInt8.ofNat code) = 1 ∧
      leadBits (UInt8.ofNat code) = code := by
  decide

private theorem lead_of_two :
    ∀ bits < 32, sequenceLength (UInt8.ofNat (bits + 192)) = 2 ∧
      leadBits (UInt8.ofNat (bits + 192)) = bits := by
  decide

private theorem lead_of_three :
    ∀ bits < 16, sequenceLength (UInt8.ofNat (bits + 224)) = 3 ∧
      leadBits (UInt8.ofNat (bits + 224)) = bits := by
  decide

private theorem lead_of_four :
    ∀ bits < 8, sequenceLength (UInt8.ofNat (bits + 240)) = 4 ∧
      leadBits (UInt8.ofNat (bits + 240)) = bits := by
  decide

private theorem later_byte : ∀ bits < 64, (UInt8.ofNat (bits + 128)).toNat % 64 = bits := by
  decide

/-! ### Sequences -/

/-- The sequence of a character is announced by its first byte and denotes it. -/
theorem exists_sequence (character : Char) :
    ∃ lead later, String.utf8EncodeChar character = lead :: later ∧
      sequenceLength lead = later.length + 1 ∧
      sequenceCode lead later = character.toNat := by
  have bound : character.val.toNat < 0x110000 := by
    have valid := character.valid
    rcases valid with low | ⟨_, high⟩
    · exact Nat.lt_trans low (by decide)
    · exact high
  have six (bits : Nat) : (UInt8.ofNat (bits % 64 + 128)).toNat % 64 = bits % 64 :=
    later_byte _ (Nat.mod_lt bits (by decide))
  unfold String.utf8EncodeChar sequenceCode
  change ∃ lead later, _ ∧ _ ∧ _ = character.val.toNat
  generalize character.val.toNat = code at bound ⊢
  dsimp only
  split
  · obtain ⟨length, bits⟩ := single_byte code (by omega)
    exact ⟨_, _, rfl, length, bits⟩
  split
  · obtain ⟨length, bits⟩ := lead_of_two (code / 64 % 32) (Nat.mod_lt _ (by decide))
    refine ⟨_, _, rfl, length, ?_⟩
    simp only [List.foldl_cons, List.foldl_nil, bits, six]
    omega
  split
  · obtain ⟨length, bits⟩ := lead_of_three (code / 4096 % 16) (Nat.mod_lt _ (by decide))
    refine ⟨_, _, rfl, length, ?_⟩
    simp only [List.foldl_cons, List.foldl_nil, bits, six]
    omega
  · obtain ⟨length, bits⟩ := lead_of_four (code / 262144 % 8) (Nat.mod_lt _ (by decide))
    refine ⟨_, _, rfl, length, ?_⟩
    simp only [List.foldl_cons, List.foldl_nil, bits, six]
    omega

theorem leadingCharacter?_of_sequence {character : Char} {lead : UInt8}
    {later : List UInt8} (encoded : String.utf8EncodeChar character = lead :: later)
    (length : sequenceLength lead = later.length + 1)
    (code : sequenceCode lead later = character.toNat) (behind : List UInt8) :
    leadingCharacter? lead (later ++ behind) = some character := by
  have taken : (later ++ behind).take (sequenceLength lead - 1) = later := by
    rw [length, Nat.add_sub_cancel, List.take_left]
  unfold leadingCharacter?
  simp only [taken, code, Char.ofNat_toNat, if_pos encoded]

/-! ### Texts -/

theorem ofUtf8?_utf8 (text : Text) : ofUtf8? (utf8 text) = some text := by
  induction text with
  | nil =>
      change ofUtf8? [] = some []
      rw [ofUtf8?]
  | cons character rest ih =>
      obtain ⟨lead, later, encoded, length, code⟩ := exists_sequence character
      have bytes : utf8 (character :: rest) = lead :: (later ++ utf8 rest) := by
        change String.utf8EncodeChar character ++ utf8 rest = _
        rw [encoded]
        rfl
      have first := leadingCharacter?_of_sequence encoded length code (utf8 rest)
      rw [bytes, ofUtf8?, first]
      change (ofUtf8? ((later ++ utf8 rest).drop (sequenceLength lead - 1))).map _ = _
      rw [length, Nat.add_sub_cancel, List.drop_left, ih]
      rfl

/-- Bytes that are read as a text are its encoding. -/
theorem ofUtf8?_eq_some_iff (bytes : List UInt8) (text : Text) :
    ofUtf8? bytes = some text ↔ utf8 text = bytes := by
  constructor
  · intro given
    fun_induction ofUtf8? bytes generalizing text with
    | case1 =>
        cases given
        rfl
    | case2 => cases given
    | case3 lead rest character leading ih =>
        obtain ⟨later, onward, rfl⟩ := Option.map_eq_some_iff.mp given
        have encoded : String.utf8EncodeChar character =
            lead :: rest.take (sequenceLength lead - 1) := by
          unfold leadingCharacter? at leading
          simp only at leading
          split at leading
          · rename_i same
            cases leading
            exact same
          · cases leading
        change String.utf8EncodeChar character ++ utf8 later = _
        rw [encoded, ih _ onward, List.cons_append, List.take_append_drop]
  · rintro rfl
    exact ofUtf8?_utf8 text

theorem length_le_utf8 (text : Text) : text.length ≤ (utf8 text).length := by
  induction text with
  | nil => exact Nat.le_refl 0
  | cons character rest ih =>
      obtain ⟨lead, later, encoded, _⟩ := exists_sequence character
      change rest.length + 1 ≤ (String.utf8EncodeChar character ++ utf8 rest).length
      rw [encoded, List.length_append, List.length_cons]
      omega

end Text
end ContractSurvey
