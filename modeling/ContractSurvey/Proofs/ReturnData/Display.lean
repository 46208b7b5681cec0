/-
What return data can show.

Whatever the data are, they show one of two fixed texts, a number that fits into a word, an
address, or a text whose bytes stand in the data and fit into a word.  A number has the most
characters of these, so nothing longer than the longest number is ever shown.
-/

import ContractSurvey.Proofs.Abi.Strict
import ContractSurvey.Proofs.Address.Canonical
import ContractSurvey.Proofs.Numeral
import ContractSurvey.Proofs.ReturnData.ErrorString

namespace ContractSurvey

theorem Address.IsCanonical.length_eq {text : Text} (canonical : Address.IsCanonical text) :
    text.length = 42 := by
  obtain ⟨bytes, twenty, rfl⟩ := canonical
  have digits := (dropMarker_checksummed_spells twenty).length_eq
  rw [twenty] at digits
  exact congrArg (· + 2) digits

namespace ReturnData

inductive CanShow (data : ReturnData) : Text → Prop
  | reverted : CanShow data reverted
  | undecoded : CanShow data undecoded
  | number {value : Nat} (bound : value < Nat.pow 2 256) :
      CanShow data (Nat.toDigits 10 value)
  | address {text : Text} (canonical : Address.IsCanonical text) (size : text.length = 42) :
      CanShow data text
  /-- The bytes of a text stand side by side in the bytes that the data spell. -/
  | slice {text : Text} {content : List UInt8}
      (payload : Hex.read (data.form.drop 2) = .ok content) (part : text.utf8 <:+: content)
      (short : text.utf8.length ≤ 32) : CanShow data text

theorem CanShow.length_le {data : ReturnData} {text : Text} (shown : data.CanShow text) :
    text.length ≤ 78 := by
  cases shown with
  | reverted => decide
  | undecoded => decide
  | number bound =>
      rw [← Numeral.ofNat_eq_toDigits, Numeral.ofNat_length_le_iff (by decide)]
      exact Nat.lt_trans bound (by decide)
  | address _ size => omega
  | slice _ _ short =>
      have characters := Text.length_le_utf8 text
      omega

theorem canShow_ofNat {data : ReturnData} {content : List UInt8} {position value : Nat}
    (read : Abi.readNumber content position = .ok value) :
    data.CanShow (Numeral.ofNat value) := by
  have bound := ((Abi.readNumber_eq_ok_iff ..).mp read).2
  have bytes : Nat.pow 256 Abi.wordSize = Nat.pow 2 256 := by decide
  rw [bytes] at bound
  rw [Numeral.ofNat_eq_toDigits]
  exact .number bound

/-! ### Readings -/

section Readings

variable {data : ReturnData} {content : List UInt8} {text : Text}

theorem canShow_of_readAddress? (read : readAddress? content = some text) :
    data.CanShow text := by
  unfold readAddress? at read
  split at read
  · rename_i bytes given
    cases read
    have canonical : Address.IsCanonical (Address.checksummed (Hex.ofBytes bytes)) :=
      ⟨bytes, Abi.length_of_readAddress given, rfl⟩
    exact .address canonical canonical.length_eq
  · cases read

theorem canShow_of_readWord? (read : readWord? content = some text) : data.CanShow text := by
  unfold readWord? at read
  split at read
  · exact canShow_of_readAddress? read
  · rename_i value given
    split at read
    · cases read
      cases found : readAddress? content with
      | none => exact canShow_ofNat given
      | some address => exact canShow_of_readAddress? found
    · cases read
      exact canShow_ofNat given

theorem canShow_of_readFirst? (read : readFirst? content = some text) : data.CanShow text := by
  unfold readFirst? at read
  split at read
  · rename_i first second given
    cases read
    obtain ⟨value, front, onward⟩ := exists_of_bind_eq_ok given
    obtain ⟨_, _, same⟩ := exists_of_bind_eq_ok onward
    cases same
    exact canShow_ofNat front
  · cases read

/-- In three words there is room for a text of one. -/
theorem canShow_of_readText? {behind : List UInt8}
    (payload : Hex.read (data.form.drop 2) = .ok content) (part : behind <:+: content)
    (short : behind.length ≤ 3 * Abi.wordSize) (read : readText? behind = some text) :
    data.CanShow text := by
  unfold readText? at read
  split at read
  · rename_i held given
    cases read
    have size := Abi.length_of_readText given
    have enough := Abi.le_roundedUp text.utf8.length
    refine .slice payload ((Abi.isInfix_of_readText given).trans part) ?_
    unfold Abi.wordSize at *
    omega
  · cases read

theorem length_le_of_string (string : data.rule = .string)
    (payload : Hex.read (data.form.drop 2) = .ok content) :
    content.length ≤ 3 * Abi.wordSize := by
  have size : data.form.length = 194 := by
    unfold rule Rule.ofLength at string
    grind
  have pairs := Hex.length_le_of_read payload
  rw [List.length_drop, size] at pairs
  unfold Abi.wordSize
  omega

theorem canShow_of_read? (payload : Hex.read (data.form.drop 2) = .ok content)
    (read : data.rule.read? content = some text) : data.CanShow text := by
  cases rule : data.rule with
  | empty =>
      rw [rule] at read
      cases read
      exact .reverted
  | word =>
      rw [rule] at read
      exact canShow_of_readWord? read
  | pair =>
      rw [rule] at read
      exact canShow_of_readFirst? read
  | string =>
      rw [rule] at read
      exact canShow_of_readText? payload (List.infix_refl content)
        (length_le_of_string rule payload) read
  | oversized =>
      rw [rule] at read
      cases read
      exact .undecoded
  | errorString =>
      rw [rule] at read
      change readErrorText? content = some text at read
      unfold readErrorText? at read
      split at read
      · cases read
        exact .reverted
      · exact canShow_of_readText? payload (List.drop_suffix 4 content).isInfix
          (Nat.le_of_lt (length_lt_of_errorString rule payload)) read

end Readings

theorem canShow_fallback (data : ReturnData) (rule : Rule) : data.CanShow rule.fallback := by
  cases rule with
  | oversized => exact .undecoded
  | _ => exact .reverted

/-- What data show is one of two fixed texts, a number, an address or a short text that stands
in them, and is never longer than the longest number. -/
theorem decode_canShow (data : ReturnData) :
    data.CanShow (decode data) ∧ (decode data).length ≤ 78 := by
  have shown : data.CanShow (decode data) := by
    unfold decode
    split
    · rename_i content payload
      cases read : data.rule.read? content with
      | none => exact canShow_fallback data data.rule
      | some text => exact canShow_of_read? payload read
    · exact canShow_fallback data data.rule
  exact ⟨shown, shown.length_le⟩

example : (decode (.raw (List.replicate 32 0xff))).length = 78 := by
  decide +kernel

end ReturnData
end ContractSurvey
