/-
Addresses as they are typed.

A person types the forty digits of an address in any letter case, with or without a marker,
and with blanks around them.  Exactly the texts of this shape are accepted, and the answer is
the one checksummed form of the digits: the shape of the text, the case of its letters and a
checksum that they may carry do not show in it.  The answer has the shape itself and is
answered with itself.

What the checksum is plays no part here.  It decides the case of letters and nothing else.
-/

import Mathlib.Data.Bool.AllAny
import ContractSurvey.Proofs.Address.Canonical
import ContractSurvey.Proofs.Text.Trim

namespace ContractSurvey
namespace Address

/-- Blanks, a marker or none, forty digits in any letter case, and blanks. -/
inductive Types : Text → Text → Prop
  | typed {front marker digits behind : Text}
      (before : ∀ character ∈ front, Text.isBlank character = true)
      (mark : marker ∈ ["".toList, "0x".toList, "0X".toList])
      (forty : digits.length = 40)
      (hexadecimal : ∀ digit ∈ digits, digit ∈ "0123456789abcdefABCDEF".toList)
      (after : ∀ character ∈ behind, Text.isBlank character = true) :
      Types (front ++ (marker ++ digits) ++ behind) digits

/-- Two lists of digits differ in nothing but the case of their letters. -/
def SameDigits (first second : Text) : Prop :=
  first.map Text.smallAscii = second.map Text.smallAscii

/-! ### Marked digits -/

/-- The digits of an address are taken from behind a marker, and written small. -/
theorem digits?_eq_some_iff (text small : Text) :
    digits? text = some small ↔ ∃ marker digits,
      marker ∈ ["".toList, "0x".toList, "0X".toList] ∧ text = marker ++ digits ∧
      digits.length = 40 ∧ (∀ digit ∈ digits, Hex.isDigit digit = true) ∧
      digits.map Text.smallAscii = small := by
  unfold digits?
  constructor
  · intro given
    dsimp only at given
    split at given
    · rename_i shape
      obtain ⟨marker, mark, split⟩ := Hex.exists_marker text
      exact ⟨marker, _, mark, split, shape.1, List.all_eq_true.mp shape.2, Option.some.inj given⟩
    · cases given
  · rintro ⟨marker, digits, mark, rfl, forty, hexadecimal, rfl⟩
    rw [Hex.dropMarker_append mark hexadecimal]
    exact if_pos ⟨forty, List.all_eq_true.mpr hexadecimal⟩

/-! ### What is accepted -/

private theorem isTrimmed_of_digits {marker digits : Text}
    (mark : marker ∈ ["".toList, "0x".toList, "0X".toList])
    (hexadecimal : ∀ digit ∈ digits, digit ∈ "0123456789abcdefABCDEF".toList) :
    Text.IsTrimmed Text.isBlank (marker ++ digits) := by
  have kept : ∀ character ∈ marker ++ digits, Text.isBlank character = false := by
    have ofMarker : ∀ marker ∈ ["".toList, "0x".toList, "0X".toList],
        marker.all (fun character => Text.isBlank character = false) = true := by decide
    have ofDigit : ∀ digit ∈ "0123456789abcdefABCDEF".toList,
        Text.isBlank digit = false := List.all_iff_forall_prop.mp (by decide)
    intro character member
    rcases List.mem_append.mp member with inMarker | inDigits
    · exact List.all_iff_forall_prop.mp (ofMarker marker mark) character inMarker
    · exact ofDigit character (hexadecimal character inDigits)
  exact ⟨fun character first => kept character (List.mem_of_head? first),
    fun character last => kept character (List.mem_of_getLast? last)⟩

/-- A typed address is answered with the checksummed form of its digits. -/
theorem Types.validate?_eq {text digits : Text} (types : Types text digits) :
    validate? text = some (checksummed (digits.map Text.smallAscii)) := by
  cases types with
  | @typed front marker _ behind before mark forty hexadecimal after =>
      have stripped : Text.stripped (front ++ (marker ++ digits) ++ behind) = marker ++ digits := by
        rw [List.append_assoc]
        exact (isTrimmed_of_digits mark hexadecimal).trim_between before after
      have small : digits? (marker ++ digits) = some (digits.map Text.smallAscii) :=
        (digits?_eq_some_iff ..).mpr ⟨marker, digits, mark, rfl, forty,
          fun digit member => (Hex.isDigit_iff digit).mpr (hexadecimal digit member), rfl⟩
      rw [validate?, stripped, small]
      rfl

theorem exists_types_of_validate? {text address : Text}
    (valid : validate? text = some address) : ∃ digits, Types text digits := by
  obtain ⟨small, found, _⟩ := Option.map_eq_some_iff.mp valid
  obtain ⟨marker, digits, mark, shape, forty, hexadecimal, _⟩ :=
    (digits?_eq_some_iff ..).mp found
  obtain ⟨front, behind, split, before, after⟩ := Text.exists_trim_split Text.isBlank text
  have whole : text = front ++ (marker ++ digits) ++ behind := by
    rw [← shape, List.append_assoc]
    exact split
  rw [whole]
  exact ⟨digits, .typed before mark forty
    (fun digit member => (Hex.isDigit_iff digit).mp (hexadecimal digit member)) after⟩

/-- The checksummed form is the marker and the digits, in some letter case. -/
theorem Types.exists_checksummed {text digits : Text} (types : Types text digits) :
    ∃ cased, checksummed (digits.map Text.smallAscii) = "0x".toList ++ cased ∧
      SameDigits cased digits := by
  cases types with
  | typed before mark forty hexadecimal after =>
      have all : digits.all Hex.isDigit = true := by
        simpa [Hex.isDigit_iff] using hexadecimal
      obtain ⟨bytes, twenty, spells⟩ := Hex.exists_spells_of_all_isDigit byteCount all forty
      have written := dropMarker_checksummed_spells twenty
      rw [← spells] at written
      exact ⟨_, rfl, written.trans spells.symm⟩

/-- Exactly the typed addresses are accepted.  The answer is the marker and the digits in a
letter case that depends on nothing but the digits, and it is answered with itself. -/
theorem validation_isCanonical (text : Text) :
    ((validate? text).isSome = true ↔ ∃ digits, Types text digits) ∧
    (∀ digits, Types text digits →
      ∃ cased, validate? text = some ("0x".toList ++ cased) ∧ SameDigits cased digits) ∧
    (∀ digits other others, Types text digits → Types other others →
      SameDigits digits others → validate? text = validate? other) ∧
    (∀ address, validate? text = some address → validate? address = some address) := by
  refine ⟨⟨?_, ?_⟩, ?_, ?_, ?_⟩
  · intro accepted
    obtain ⟨address, valid⟩ := Option.isSome_iff_exists.mp accepted
    exact exists_types_of_validate? valid
  · rintro ⟨digits, types⟩
    rw [types.validate?_eq]
    rfl
  · intro digits types
    obtain ⟨cased, written, same⟩ := types.exists_checksummed
    exact ⟨cased, by rw [types.validate?_eq, written], same⟩
  · intro digits other others types again same
    rw [types.validate?_eq, again.validate?_eq, same]
  · intro address valid
    exact (validate?_isCanonical valid).validate?_eq

/-- The digits of one address as capitals behind a capital marker and with blanks around them,
and as bare small letters. -/
theorem validation_isCanonical_of_spellings :
    let capitals := (List.replicate 20 "AB".toList).flatten
    let smalls := (List.replicate 20 "ab".toList).flatten
    let spaced := "\u2003\n".toList ++ ("0X".toList ++ capitals) ++ " ".toList
    let address := "0xABaBaBaBABabABabAbAbABAbABabababaBaBABaB".toList
    Types spaced capitals ∧ Types smalls smalls ∧ SameDigits capitals smalls ∧
    validate? spaced = validate? smalls ∧ validate? smalls = some address ∧
    validate? address = some address := by
  intro capitals smalls spaced address
  have ofSpaced : Types spaced capitals :=
    .typed (List.all_iff_forall_prop.mp (by decide)) (by decide) (by decide)
      (List.all_iff_forall_prop.mp (by decide)) (List.all_iff_forall_prop.mp (by decide))
  have ofSmalls : Types ("".toList ++ ("".toList ++ smalls) ++ "".toList) smalls :=
    .typed (List.forall_mem_nil _) (by decide) (by decide)
      (List.all_iff_forall_prop.mp (by decide)) (List.forall_mem_nil _)
  have alike : SameDigits capitals smalls := by
    unfold SameDigits
    decide
  have valid : validate? smalls = some address := by decide +kernel
  obtain ⟨_, _, same, _⟩ := validation_isCanonical spaced
  obtain ⟨_, _, _, fixed⟩ := validation_isCanonical smalls
  exact ⟨ofSpaced, ofSmalls, alike, same capitals smalls smalls ofSpaced ofSmalls alike, valid,
    fixed address valid⟩

end Address
end ContractSurvey
