/-
Spellings of bytes.

A text spells bytes when it is their digits up to the letter case.  Every spelling is read
as the bytes it spells, with or without the marker in front, and a text of digits spells
bytes whenever its length is even.
-/

import Mathlib.Data.Bool.AllAny
import ContractSurvey.Bytecode
import ContractSurvey.Text.Small

namespace ContractSurvey
namespace Hex

open Text

/-- A text is the digits of a byte string, in any letter case. -/
def Spells (text : Text) (bytes : List UInt8) : Prop :=
  text.map smallAscii = ofBytes bytes

instance (text : Text) (bytes : List UInt8) : Decidable (Spells text bytes) :=
  inferInstanceAs (Decidable (text.map smallAscii = ofBytes bytes))

/-! ### Single digits -/

private theorem capital_of_letter :
    ∀ letter < 26, ∀ value < 16, Char.ofNat (65 + letter + 32) = hexDigit value →
      Char.ofNat (65 + letter) = capitalAscii (hexDigit value) := by
  decide

theorem eq_digit_of_smallAscii {character : Char} {value : Nat} (bound : value < 16)
    (same : smallAscii character = hexDigit value) :
    character = hexDigit value ∨ character = capitalAscii (hexDigit value) := by
  unfold smallAscii at same
  split at same
  · rename_i capital
    have lower : 65 ≤ character.toNat := capital.1
    have upper : character.toNat ≤ 90 := capital.2
    have place : 65 + (character.toNat - 65) = character.toNat := by omega
    have found := capital_of_letter (character.toNat - 65) (by omega) value bound
    rw [place, Char.ofNat_toNat] at found
    exact Or.inr (found same)
  · exact Or.inl same

private theorem facts_of_smallAscii {character : Char} {value : Nat} (bound : value < 16)
    (same : smallAscii character = hexDigit value) :
    digitValue? character = some value ∧ isGap character = false ∧
      isBlank character = false ∧ character.toNat < 0x80 := by
  rcases eq_digit_of_smallAscii bound same with rfl | rfl
  · clear same
    revert value
    decide
  · clear same
    revert value
    decide

theorem smallAscii_capitalAscii_hexDigit {value : Nat} (bound : value < 16) :
    smallAscii (capitalAscii (hexDigit value)) = hexDigit value := by
  revert value
  decide

theorem smallAscii_hexDigit {value : Nat} (bound : value < 16) :
    smallAscii (hexDigit value) = hexDigit value := by
  revert value
  decide

theorem exists_smallAscii_of_isDigit {character : Char} (digit : isDigit character = true) :
    ∃ value < 16, smallAscii character = hexDigit value := by
  have table :
      (∀ offset < 10, smallAscii (Char.ofNat (48 + offset)) = hexDigit offset) ∧
      (∀ offset < 6, smallAscii (Char.ofNat (97 + offset)) = hexDigit (10 + offset)) ∧
      (∀ offset < 6, smallAscii (Char.ofNat (65 + offset)) = hexDigit (10 + offset)) := by
    decide
  have named (start : Nat) (above : start ≤ character.toNat) :
      Char.ofNat (start + (character.toNat - start)) = character := by
    rw [Nat.add_sub_cancel' above, Char.ofNat_toNat]
  unfold isDigit digitValue? at digit
  split at digit
  · rename_i decimal
    have lower : 48 ≤ character.toNat := decimal.1
    have upper : character.toNat ≤ 57 := decimal.2
    have found := table.1 (character.toNat - 48) (by omega)
    rw [named 48 lower] at found
    exact ⟨_, by omega, found⟩
  split at digit
  · rename_i letter
    have lower : 97 ≤ character.toNat := letter.1
    have upper : character.toNat ≤ 102 := letter.2
    have found := table.2.1 (character.toNat - 97) (by omega)
    rw [named 97 lower] at found
    exact ⟨_, by omega, found⟩
  split at digit
  · rename_i letter
    have lower : 65 ≤ character.toNat := letter.1
    have upper : character.toNat ≤ 70 := letter.2
    have found := table.2.2 (character.toNat - 65) (by omega)
    rw [named 65 lower] at found
    exact ⟨_, by omega, found⟩
  · cases digit

theorem isDigit_iff (character : Char) :
    isDigit character = true ↔ character ∈ "0123456789abcdefABCDEF".toList := by
  constructor
  · intro digit
    obtain ⟨value, bound, same⟩ := exists_smallAscii_of_isDigit digit
    rcases eq_digit_of_smallAscii bound same with rfl | rfl
    · clear same digit
      revert value
      decide
    · clear same digit
      revert value
      decide
  · have every : ∀ digit ∈ "0123456789abcdefABCDEF".toList, isDigit digit = true :=
      List.all_iff_forall_prop.mp (by decide)
    exact every character

/-! ### Digits of bytes -/

theorem ofBytes_cons (byte : UInt8) (rest : List UInt8) :
    ofBytes (byte :: rest) =
      hexDigit (byte.toNat / 16) :: hexDigit (byte.toNat % 16) :: ofBytes rest :=
  rfl

theorem halves_lt (byte : UInt8) : byte.toNat / 16 < 16 ∧ byte.toNat % 16 < 16 := by
  have bound := byte.toNat_lt
  omega

theorem ofBytes_length (bytes : List UInt8) : (ofBytes bytes).length = 2 * bytes.length := by
  induction bytes with
  | nil => rfl
  | cons byte rest ih =>
      rw [ofBytes_cons, List.length_cons, List.length_cons, ih, List.length_cons]
      omega

theorem exists_hexDigit_of_mem {bytes : List UInt8} {character : Char}
    (member : character ∈ ofBytes bytes) : ∃ value < 16, character = hexDigit value := by
  obtain ⟨byte, _, written⟩ := List.mem_flatMap.mp member
  obtain ⟨high, low⟩ := halves_lt byte
  rcases List.mem_cons.mp written with first | second
  · exact ⟨_, high, first⟩
  · exact ⟨_, low, List.mem_singleton.mp second⟩

theorem ofBytes_spells (bytes : List UInt8) : Spells (ofBytes bytes) bytes := by
  unfold Spells
  calc (ofBytes bytes).map smallAscii = (ofBytes bytes).map id := by
        apply List.map_congr_left
        intro character member
        obtain ⟨value, bound, rfl⟩ := exists_hexDigit_of_mem member
        exact smallAscii_hexDigit bound
    _ = ofBytes bytes := List.map_id _

private theorem byte_of_halves (byte : UInt8) :
    UInt8.ofNat (byte.toNat / 16 * 16 + byte.toNat % 16) = byte := by
  have whole : byte.toNat / 16 * 16 + byte.toNat % 16 = byte.toNat := by omega
  rw [whole, UInt8.ofNat_toNat]

/-- A pair of digits is read as its byte. -/
theorem readPairs_pair {high low : Char} {byte : UInt8} (spells : Spells [high, low] [byte])
    (position : Nat) (rest : Text) :
    readPairs position (high :: low :: rest) =
      (readPairs (position + 2) rest).map (byte :: ·) := by
  unfold Spells at spells
  rw [ofBytes_cons, List.map_cons, List.map_cons] at spells
  obtain ⟨isHigh, onward⟩ := List.cons.inj spells
  obtain ⟨isLow, _⟩ := List.cons.inj onward
  obtain ⟨highBound, lowBound⟩ := halves_lt byte
  obtain ⟨highValue, highGap, _⟩ := facts_of_smallAscii highBound isHigh
  obtain ⟨lowValue, _⟩ := facts_of_smallAscii lowBound isLow
  conv => lhs; unfold readPairs
  simp only [highGap, Bool.false_eq_true, if_false, highValue, lowValue, byte_of_halves]

private theorem readPairs_of_spells {text : Text} {bytes : List UInt8}
    (spells : Spells text bytes) (position : Nat) : readPairs position text = .ok bytes := by
  induction bytes generalizing text position with
  | nil =>
      have empty : text = [] := List.map_eq_nil_iff.mp spells
      rw [empty]
      rfl
  | cons byte rest ih =>
      unfold Spells at spells
      rw [ofBytes_cons, List.map_eq_cons_iff] at spells
      obtain ⟨high, others, rfl, isHigh, onward⟩ := spells
      obtain ⟨low, later, rfl, isLow, spelled⟩ := List.map_eq_cons_iff.mp onward
      have pair : Spells [high, low] [byte] := by
        unfold Spells
        rw [List.map_cons, List.map_cons, isHigh, isLow]
        rfl
      rw [readPairs_pair pair, ih spelled]
      rfl

theorem Spells.toNat_lt {text : Text} {bytes : List UInt8} (spells : Spells text bytes)
    {character : Char} (member : character ∈ text) : character.toNat < 0x80 := by
  have written : smallAscii character ∈ ofBytes bytes := by
    rw [← spells]
    exact List.mem_map_of_mem member
  obtain ⟨value, bound, same⟩ := exists_hexDigit_of_mem written
  exact (facts_of_smallAscii bound same).2.2.2

theorem Spells.isDigit {text : Text} {bytes : List UInt8} (spells : Spells text bytes)
    {character : Char} (member : character ∈ text) : isDigit character = true := by
  have written : smallAscii character ∈ ofBytes bytes := by
    rw [← spells]
    exact List.mem_map_of_mem member
  obtain ⟨value, bound, same⟩ := exists_hexDigit_of_mem written
  unfold Hex.isDigit
  rw [(facts_of_smallAscii bound same).1]
  rfl

theorem Spells.isBlank {text : Text} {bytes : List UInt8} (spells : Spells text bytes)
    {character : Char} (member : character ∈ text) : isBlank character = false := by
  have written : smallAscii character ∈ ofBytes bytes := by
    rw [← spells]
    exact List.mem_map_of_mem member
  obtain ⟨value, bound, same⟩ := exists_hexDigit_of_mem written
  exact (facts_of_smallAscii bound same).2.2.1

theorem read_of_spells {text : Text} {bytes : List UInt8} (spells : Spells text bytes) :
    read text = .ok bytes := by
  have ascii : text.findIdx? (fun character => 0x80 ≤ character.toNat) = none := by
    rw [List.findIdx?_eq_none_iff]
    intro character member
    exact decide_eq_false (Nat.not_le_of_lt (spells.toNat_lt member))
  unfold read
  rw [ascii]
  exact readPairs_of_spells spells 0

theorem Spells.length_eq {text : Text} {bytes : List UInt8} (spells : Spells text bytes) :
    text.length = 2 * bytes.length := by
  rw [← ofBytes_length, ← spells, List.length_map]

private theorem byte_of_values {high low : Nat} (highBound : high < 16)
    (lowBound : low < 16) :
    (UInt8.ofNat (high * 16 + low)).toNat / 16 = high ∧
      (UInt8.ofNat (high * 16 + low)).toNat % 16 = low := by
  have whole : (UInt8.ofNat (high * 16 + low)).toNat = high * 16 + low :=
    UInt8.toNat_ofNat_of_lt' (by change high * 16 + low < 256; omega)
  rw [whole]
  omega

/-- Two digits spell the byte that their values make up. -/
theorem spells_of_digitValues {high low : Char} {highValue lowValue : Nat}
    (isHigh : digitValue? high = some highValue) (isLow : digitValue? low = some lowValue) :
    Spells [high, low] [UInt8.ofNat (highValue * 16 + lowValue)] := by
  have named {character : Char} {value : Nat} (given : digitValue? character = some value) :
      value < 16 ∧ smallAscii character = hexDigit value := by
    have digit : isDigit character = true := Option.isSome_iff_exists.mpr ⟨value, given⟩
    obtain ⟨found, bound, same⟩ := exists_smallAscii_of_isDigit digit
    obtain ⟨known, _⟩ := facts_of_smallAscii bound same
    cases Option.some.inj (given.symm.trans known)
    exact ⟨bound, same⟩
  obtain ⟨highBound, highSame⟩ := named isHigh
  obtain ⟨lowBound, lowSame⟩ := named isLow
  obtain ⟨first, second⟩ := byte_of_values highBound lowBound
  unfold Spells
  rw [ofBytes_cons, List.map_cons, List.map_cons, first, second, highSame, lowSame]
  rfl

/-- Digits of an even number spell bytes. -/
theorem exists_spells_of_all_isDigit (count : Nat) {text : Text}
    (digits : text.all isDigit = true) (even : text.length = 2 * count) :
    ∃ bytes, bytes.length = count ∧ Spells text bytes := by
  induction count generalizing text with
  | zero =>
      have empty : text = [] := List.length_eq_zero_iff.mp (by omega)
      exact ⟨[], rfl, by rw [empty]; rfl⟩
  | succ count ih =>
      match text, digits, even with
      | high :: low :: rest, digits, even =>
          simp only [List.all_cons, Bool.and_eq_true] at digits
          obtain ⟨isHigh, isLow, others⟩ := digits
          rw [List.length_cons, List.length_cons] at even
          obtain ⟨bytes, length, spells⟩ := ih others (by omega)
          obtain ⟨highValue, highBound, highSame⟩ := exists_smallAscii_of_isDigit isHigh
          obtain ⟨lowValue, lowBound, lowSame⟩ := exists_smallAscii_of_isDigit isLow
          obtain ⟨first, second⟩ := byte_of_values highBound lowBound
          refine ⟨UInt8.ofNat (highValue * 16 + lowValue) :: bytes, ?_, ?_⟩
          · rw [List.length_cons, length]
          · unfold Spells
            rw [ofBytes_cons, List.map_cons, List.map_cons, first, second, highSame,
              lowSame, spells]

/-! ### Behind the marker -/

theorem marked_length (bytes : List UInt8) :
    (marked bytes).length = 2 * bytes.length + 2 := by
  unfold marked
  rw [List.length_cons, List.length_cons, ofBytes_length]

theorem ofBytes_injective {first second : List UInt8}
    (same : ofBytes first = ofBytes second) : first = second := by
  have left := read_of_spells (ofBytes_spells first)
  rw [same, read_of_spells (ofBytes_spells second)] at left
  exact (Except.ok.inj left).symm

theorem marked_injective {first second : List UInt8}
    (same : marked first = marked second) : first = second := by
  apply ofBytes_injective
  exact (List.cons.inj (List.cons.inj same).2).2

private theorem dropWhile_of_none {drop : Char → Bool} {text : Text}
    (kept : ∀ character ∈ text, drop character = false) : text.dropWhile drop = text := by
  cases text with
  | nil => rfl
  | cons first rest =>
      exact List.dropWhile_cons_of_neg
        (by rw [kept first (List.mem_cons_self ..)]; exact Bool.false_ne_true)

theorem trim_eq_self {drop : Char → Bool} {text : Text}
    (kept : ∀ character ∈ text, drop character = false) : trim drop text = text := by
  unfold trim trimEnd
  rw [dropWhile_of_none kept, dropWhile_of_none, List.reverse_reverse]
  intro character member
  exact kept character (List.mem_reverse.mp member)

theorem exists_of_hasMarker {text : Text} (marker : hasMarker text = true) :
    ∃ letter digits, (letter = 'x' ∨ letter = 'X') ∧ text = '0' :: letter :: digits := by
  unfold hasMarker at marker
  split at marker
  · exact ⟨'x', _, .inl rfl, rfl⟩
  · exact ⟨'X', _, .inr rfl, rfl⟩
  · cases marker

/-- A text is the digits of a byte string in any letter case, behind a marker or not. -/
inductive SpellsMarked : Text → List UInt8 → Prop
  | behind {marker digits : Text} {bytes : List UInt8}
      (mark : marker ∈ ["".toList, "0x".toList, "0X".toList]) (spells : Spells digits bytes) :
      SpellsMarked (marker ++ digits) bytes

theorem exists_marker (text : Text) :
    ∃ marker ∈ ["".toList, "0x".toList, "0X".toList], text = marker ++ dropMarker text := by
  by_cases marked : hasMarker text = true
  · obtain ⟨letter, digits, either, rfl⟩ := exists_of_hasMarker marked
    rcases either with rfl | rfl
    · exact ⟨"0x".toList, by decide, rfl⟩
    · exact ⟨"0X".toList, by decide, rfl⟩
  · exact ⟨"".toList, by decide, by rw [dropMarker, if_neg marked]; rfl⟩

theorem dropMarker_append {marker digits : Text}
    (mark : marker ∈ ["".toList, "0x".toList, "0X".toList])
    (hexadecimal : ∀ digit ∈ digits, isDigit digit = true) :
    dropMarker (marker ++ digits) = digits := by
  simp only [List.mem_cons, List.not_mem_nil, or_false] at mark
  rcases mark with rfl | rfl | rfl
  · -- Digits do not begin with a marker, because its letter is no digit.
    have unmarked : ¬hasMarker digits = true := by
      intro marked
      obtain ⟨letter, rest, either, rfl⟩ := exists_of_hasMarker marked
      have digit := hexadecimal letter (by simp)
      rcases either with rfl | rfl <;> cases digit
    exact if_neg unmarked
  · rfl
  · rfl

theorem SpellsMarked.dropMarker_spells {text : Text} {bytes : List UInt8}
    (spells : SpellsMarked text bytes) : Spells (dropMarker text) bytes := by
  cases spells with
  | behind mark spells =>
      rw [dropMarker_append mark fun digit member => spells.isDigit member]
      exact spells

theorem spellsMarked_iff (text : Text) (bytes : List UInt8) :
    SpellsMarked text bytes ↔ Spells (dropMarker text) bytes := by
  constructor
  · exact SpellsMarked.dropMarker_spells
  · intro spells
    obtain ⟨marker, mark, split⟩ := exists_marker text
    rw [split]
    exact .behind mark spells

theorem stripped_of_spells {text : Text} {bytes : List UInt8}
    (spells : Spells (dropMarker text) bytes) : stripped text = text := by
  apply trim_eq_self
  intro character member
  unfold dropMarker at spells
  split at spells
  · rename_i marker
    obtain ⟨letter, digits, either, rfl⟩ := exists_of_hasMarker marker
    rcases List.mem_cons.mp member with rfl | behind
    · decide
    · rcases List.mem_cons.mp behind with rfl | digit
      · rcases either with rfl | rfl <;> decide
      · exact spells.isBlank digit
  · exact spells.isBlank member

/-- A spelling stands for its bytes, whether it has a marker or not. -/
theorem ofText_of_spells {text : Text} {bytes : List UInt8}
    (spells : Spells (dropMarker text) bytes) : Bytecode.ofText text = .ok bytes := by
  unfold Bytecode.ofText
  rw [stripped_of_spells spells, read_of_spells spells]

/-- Marked digits stand for the bytes they are the digits of. -/
theorem ofText_marked (bytes : List UInt8) :
    Bytecode.ofText (marked bytes) = .ok bytes :=
  ofText_of_spells (ofBytes_spells bytes)

/-! ### The length of a reading -/

private theorem readPairs_length {position : Nat} {text : Text} {bytes : List UInt8}
    (given : readPairs position text = .ok bytes) : 2 * bytes.length ≤ text.length := by
  fun_induction readPairs position text generalizing bytes with
  | case1 position =>
      cases given
      simp
  | case2 position high rest gap ih =>
      have later := ih given
      rw [List.length_cons]
      omega
  | case3 => cases given
  | case4 => cases given
  | case5 => cases given
  | case6 position high gap highValue low later isHigh lowValue isLow ih =>
      cases read : readPairs (position + 2) later with
      | error place =>
          rw [read] at given
          cases given
      | ok others =>
          rw [read] at given
          cases given
          have behind := ih read
          simp only [List.length_cons]
          omega

/-- Pairs that leave no character over are digits throughout. -/
private theorem all_isDigit_of_readPairs {position : Nat} {text : Text} {bytes : List UInt8}
    (given : readPairs position text = .ok bytes) (full : text.length ≤ 2 * bytes.length) :
    text.all isDigit = true := by
  fun_induction readPairs position text generalizing bytes with
  | case1 position => rfl
  | case2 position high rest gap ih =>
      have later := readPairs_length given
      rw [List.length_cons] at full
      omega
  | case3 => cases given
  | case4 => cases given
  | case5 => cases given
  | case6 position high gap highValue low later isHigh lowValue isLow ih =>
      cases read : readPairs (position + 2) later with
      | error place =>
          rw [read] at given
          cases given
      | ok others =>
          rw [read] at given
          cases given
          simp only [List.length_cons] at full
          have behind := ih read (by omega)
          simp only [List.all_cons, isDigit, isHigh, isLow, Option.isSome_some, behind,
            Bool.and_self]

theorem length_le_of_read {text : Text} {bytes : List UInt8}
    (given : read text = .ok bytes) : 2 * bytes.length ≤ text.length := by
  unfold read at given
  split at given
  · cases given
  · exact readPairs_length given

theorem all_isDigit_of_read {text : Text} {bytes : List UInt8}
    (given : read text = .ok bytes) (full : text.length ≤ 2 * bytes.length) :
    text.all isDigit = true := by
  unfold read at given
  split at given
  · cases given
  · exact all_isDigit_of_readPairs given full

theorem dropMarker_length_le (text : Text) : (dropMarker text).length ≤ text.length := by
  unfold dropMarker
  split
  · rw [List.length_drop]
    omega
  · exact Nat.le_refl _

private theorem stripped_length_le (text : Text) : (stripped text).length ≤ text.length := by
  unfold stripped trim trimEnd
  rw [List.length_reverse]
  refine Nat.le_trans (List.dropWhile_sublist _).length_le ?_
  rw [List.length_reverse]
  exact (List.dropWhile_sublist _).length_le

/-- A text has at least two characters for each byte that it stands for. -/
theorem length_le_of_ofText {text : Text} {content : List UInt8}
    (given : Bytecode.ofText text = .ok content) : 2 * content.length ≤ text.length := by
  unfold Bytecode.ofText at given
  have inside := dropMarker_length_le (stripped text)
  have whole := stripped_length_le text
  split at given
  · rename_i bytes same
    cases given
    have pairs := length_le_of_read same
    omega
  · cases given

end Hex
end ContractSurvey
