/-
Values that name accounts.

An account is named by its twenty bytes: as they are, as text that spells them behind a marker
or not, or as the number whose digits in base sixteen are theirs.  The values of these three
shapes are exactly the ones that are accepted as addresses, and each gives the checksummed form
of the bytes that it names.
-/

import ContractSurvey.Chain.Client
import ContractSurvey.Proofs.Address.Canonical
import ContractSurvey.Proofs.Numeral

namespace ContractSurvey

namespace Hex

/-- The digits of a number are small. -/
theorem map_smallAscii_ofNat (value : Nat) : (ofNat value).map Text.smallAscii = ofNat value := by
  fun_induction ofNat value with
  | case1 value small => rw [List.map_singleton, smallAscii_hexDigit small]
  | case2 value large ih =>
      rw [List.map_append, ih, List.map_singleton,
        smallAscii_hexDigit (Nat.mod_lt value (by decide))]

end Hex

namespace Address

/-- A value stands for the twenty bytes of an account. -/
inductive Names : Value → List UInt8 → Prop
  | text {text : Text} {bytes : List UInt8} (spells : Hex.SpellsMarked text bytes)
      (twenty : bytes.length = 20) : Names (.text text) bytes
  | bytes {bytes : List UInt8} (twenty : bytes.length = 20) : Names (.bytes bytes) bytes
  | number {number : Nat} {bytes : List UInt8}
      (digits : Nat.toDigits 16 number = Hex.ofBytes bytes) (twenty : bytes.length = 20) :
      Names (.int number) bytes

/-- A form is accepted when it is the marker and forty digits. -/
theorem ofForm_eq_ok_iff (value : Value) (form address : Text) :
    ofForm value form = .ok address ↔ ∃ digits, form = '0' :: 'x' :: digits ∧
      digits.length = digitCount ∧ digits.all Hex.isDigit = true ∧
      address = checksummed digits := by
  unfold ofForm
  split
  · rename_i digits
    constructor
    · intro given
      split at given
      · rename_i shape
        exact ⟨digits, rfl, shape.1, shape.2, (Except.ok.inj given).symm⟩
      · cases given
    · rintro ⟨others, same, forty, hexadecimal, rfl⟩
      cases same
      exact if_pos ⟨forty, hexadecimal⟩
  · rename_i unmarked
    constructor
    · intro given
      cases given
    · rintro ⟨digits, rfl, _⟩
      exact absurd rfl (unmarked digits)

/-- The digits of twenty bytes are accepted behind the marker. -/
theorem ofForm_ofBytes (value : Value) {bytes : List UInt8} (twenty : bytes.length = byteCount) :
    ofForm value ("0x".toList ++ Hex.ofBytes bytes) = .ok (checksummed (Hex.ofBytes bytes)) := by
  refine (ofForm_eq_ok_iff ..).mpr ⟨Hex.ofBytes bytes, rfl, ?_, ?_, rfl⟩
  · rw [Hex.ofBytes_length, twenty]
    rfl
  · rw [List.all_eq_true]
    intro character member
    exact (Hex.ofBytes_spells bytes).isDigit member

theorem Names.ofValue_eq {value : Value} {bytes : List UInt8} (names : Names value bytes) :
    ofValue value = .ok (checksummed (Hex.ofBytes bytes)) := by
  cases names with
  | text spells twenty => exact ofText_of_spells twenty spells.dropMarker_spells
  | bytes twenty => exact ofForm_ofBytes _ twenty
  | @number number bytes digits twenty =>
      change ofForm _ ("0x".toList ++ Hex.ofNat number) = _
      rw [Numeral.hexOfNat_eq_toDigits, digits]
      exact ofForm_ofBytes _ twenty

/-- Exactly the values that name an account are accepted. -/
theorem ofValue_eq_ok_iff (value : Value) (address : Text) :
    ofValue value = .ok address ↔
      ∃ bytes, Names value bytes ∧ address = checksummed (Hex.ofBytes bytes) := by
  constructor
  · intro given
    cases value with
    | text text =>
        obtain ⟨bytes, twenty, spells, same⟩ := exists_spells_of_ofText given
        exact ⟨bytes, .text ((Hex.spellsMarked_iff ..).mpr spells) twenty, same⟩
    | bytes bytes =>
        change ofForm _ (Hex.marked bytes) = _ at given
        obtain ⟨digits, form, forty, _, same⟩ := (ofForm_eq_ok_iff ..).mp given
        cases form
        rw [Hex.ofBytes_length] at forty
        exact ⟨bytes, .bytes (Nat.mul_left_cancel (by decide) forty), same⟩
    | int number =>
        change ofForm _ (numberForm number) = _ at given
        obtain ⟨digits, form, forty, hexadecimal, same⟩ := (ofForm_eq_ok_iff ..).mp given
        cases number with
        | negSucc less => cases form
        | ofNat number =>
            cases form
            obtain ⟨bytes, twenty, spells⟩ :=
              Hex.exists_spells_of_all_isDigit byteCount hexadecimal forty
            have written : Hex.ofNat number = Hex.ofBytes bytes := by
              rw [← Hex.map_smallAscii_ofNat]
              exact spells
            rw [written] at same
            rw [Numeral.hexOfNat_eq_toDigits] at written
            exact ⟨bytes, .number written twenty, same⟩
    | bool flag =>
        change ofForm _ (if flag then _ else _) = _ at given
        obtain ⟨digits, form, forty, _⟩ := (ofForm_eq_ok_iff ..).mp given
        cases flag <;> cases form <;> cases forty
    | null => cases given
    | float value => cases given
    | list items => cases given
    | object fields => cases given
    | codes points => cases given
    | codedObject fields => cases given
  · rintro ⟨bytes, names, rfl⟩
    exact names.ofValue_eq

end Address

end ContractSurvey
