/-
Addresses that stand in words.

A word holds an address in its last twenty bytes, whatever stands in front of them and however
many bytes that are.  It may be handed over as bytes or as text, and text is as good as the
bytes that it spells.  Where there are fewer than twenty bytes, where the last twenty are zero,
and where text spells no bytes, there is no address.
-/

import ContractSurvey.Proofs.Address.Canonical
import ContractSurvey.Proofs.Bytecode
import ContractSurvey.Proofs.Text.Small

namespace ContractSurvey
namespace Address

/-! ### The checksummed form in small letters -/

theorem small_checksummed {bytes : List UInt8} (twenty : bytes.length = byteCount) :
    Text.small (checksummed (Hex.ofBytes bytes)) = "0x".toList ++ Hex.ofBytes bytes := by
  have spells := dropMarker_checksummed_spells twenty
  have shape : checksummed (Hex.ofBytes bytes) =
      '0' :: 'x' :: Hex.dropMarker (checksummed (Hex.ofBytes bytes)) := rfl
  have ascii : ∀ character ∈ checksummed (Hex.ofBytes bytes), character.toNat < 0x80 := by
    rw [shape]
    refine List.forall_mem_cons.mpr ⟨by decide, List.forall_mem_cons.mpr ⟨by decide, ?_⟩⟩
    intro character member
    exact spells.toNat_lt member
  rw [Text.small_of_ascii ascii, shape, List.map_cons, List.map_cons, spells]
  rfl

/-! ### Words of bytes -/

theorem ofWord?_eq_none_iff (word : List UInt8) :
    ofWord? word = none ↔
      word.length < byteCount ∨ ∀ byte ∈ word.drop (word.length - byteCount), byte = 0 := by
  unfold ofWord?
  by_cases short : word.length < byteCount
  · rw [if_pos short]
    exact iff_of_true rfl (Or.inl short)
  · rw [if_neg short, or_iff_right short]
    dsimp only
    have zeros : (word.drop (word.length - byteCount)).all (· == 0) = true ↔
        ∀ byte ∈ word.drop (word.length - byteCount), byte = 0 := by
      simp only [List.all_eq_true, beq_iff_eq]
    rw [← zeros]
    split
    · rename_i all
      exact iff_of_true rfl all
    · rename_i filled
      exact iff_of_false (fun impossible => nomatch impossible) filled

/-- The address in a word is that of its last twenty bytes. -/
theorem HoldsAddress.eq_checksummed {word : List UInt8} {address : Text}
    (holds : HoldsAddress word address) :
    (word.drop (word.length - byteCount)).length = byteCount ∧
      address = checksummed (Hex.ofBytes (word.drop (word.length - byteCount))) := by
  obtain ⟨front, low, rfl, twenty, _, same⟩ := holds
  have place : (front ++ low).length - byteCount = front.length := by
    rw [List.length_append]
    omega
  rw [place, List.drop_left]
  exact ⟨twenty, same⟩

/-! ### Words of text -/

theorem ofWordText?_of_apart {text : Text} {word : List UInt8}
    (apart : Hex.SpellsApart (Hex.dropMarker text) word) : ofWordText? text = ofWord? word := by
  unfold ofWordText?
  rw [(Hex.read_eq_ok_iff ..).mpr apart]

theorem ofWordText?_of_refused {text : Text}
    (refused : ¬∃ word, Hex.SpellsApart (Hex.dropMarker text) word) :
    ofWordText? text = none := by
  unfold ofWordText?
  split
  · rename_i word read
    exact absurd ⟨word, (Hex.read_eq_ok_iff ..).mp read⟩ refused
  · rfl

/-- What stands for half of a surrogate pair is not taken for a digit. -/
theorem not_apart_of_halved {points : List Nat} (halved : Text.ofCodes? points = none) :
    ¬∃ word, Hex.SpellsApart (Hex.dropMarker (Text.ofCodes points)) word := by
  rintro ⟨word, apart⟩
  have replaced := Text.replacement_mem_ofCodes halved
  generalize Text.ofCodes points = text at apart replaced
  have inside : Text.replacement ∈ Hex.dropMarker text := by
    unfold Hex.dropMarker
    split
    · rename_i marker
      obtain ⟨letter, digits, either, rfl⟩ := Hex.exists_of_hasMarker marker
      rcases List.mem_cons.mp replaced with impossible | behind
      · exact absurd impossible (by decide)
      · rcases List.mem_cons.mp behind with rfl | digit
        · rcases either with impossible | impossible <;> exact absurd impossible (by decide)
        · exact digit
    · exact replaced
  exact absurd (apart.toNat_lt _ inside) (by decide)

/-- The address in a word is read from its last twenty bytes: there is none when the word is
shorter or these bytes are zero, and otherwise it has them as its digits and is accepted as it
is.  A text gives the address in the word that it spells, white space between the bytes left
aside, and none when it spells no word. -/
theorem ofWordValue_reads_low_bytes (word : List UInt8) :
    (∀ text, Hex.SpellsMarked text word →
      ofWordValue (.text text) = ofWordValue (.bytes word)) ∧
    (ofWordValue (.bytes word) = .ok none ↔
      word.length < 20 ∨ ∀ byte ∈ word.drop (word.length - 20), byte = 0) ∧
    (ofWordValue (.bytes word) ≠ .ok none →
      ∃ address, ofWordValue (.bytes word) = .ok (some address) ∧
        Text.small address = "0x".toList ++ Hex.ofBytes (word.drop (word.length - 20)) ∧
        validate? address = some address) ∧
    (∀ text,
      (∀ other, Hex.SpellsApart (Hex.dropMarker text) other →
        ofWordValue (.text text) = ofWordValue (.bytes other)) ∧
      ((¬∃ other, Hex.SpellsApart (Hex.dropMarker text) other) →
        ofWordValue (.text text) = .ok none)) ∧
    (∀ points, Text.ofCodes? points = none → ofWordValue (.codes points) = .ok none) ∧
    ∀ padding low : List UInt8, low.length = 20 → (∃ byte ∈ low, byte ≠ 0) →
      ofWordValue (.bytes (padding ++ low)) = .ok (some (checksummed (Hex.ofBytes low))) := by
  refine ⟨?_, ?_, ?_, ?_, ?_, ?_⟩
  · intro text spells
    have read := Hex.read_of_spells spells.dropMarker_spells
    exact congrArg Except.ok (ofWordText?_of_apart ((Hex.read_eq_ok_iff ..).mp read))
  · change Except.ok (ofWord? word) = .ok none ↔ _
    rw [Except.ok.injEq]
    exact ofWord?_eq_none_iff word
  · intro present
    cases found : ofWord? word with
    | none => exact absurd (congrArg Except.ok found) present
    | some address =>
        have holds := (ofWord?_eq_some_iff word address).mp found
        obtain ⟨twenty, same⟩ := holds.eq_checksummed
        refine ⟨address, congrArg Except.ok found, ?_, holds.isCanonical.validate?_eq⟩
        rw [same]
        exact small_checksummed twenty
  · intro text
    exact ⟨fun other apart => congrArg Except.ok (ofWordText?_of_apart apart),
      fun refused => congrArg Except.ok (ofWordText?_of_refused refused)⟩
  · intro points halved
    exact congrArg Except.ok (ofWordText?_of_refused (not_apart_of_halved halved))
  · intro padding low twenty filled
    exact congrArg Except.ok
      ((ofWord?_eq_some_iff ..).mpr ⟨padding, low, rfl, twenty, filled, rfl⟩)

/-- A word of twenty-one bytes of which the first is not zero, in capital digits behind a
capital marker, the same digits without the last one, and a word of zeros. -/
theorem ofWordValue_reads_paddedAddress :
    let low : List UInt8 := List.replicate 20 0xab
    let digits := "FF".toList ++ (List.replicate 20 "AB".toList).flatten
    let address := "0xABaBaBaBABabABabAbAbABAbABabababaBaBABaB".toList
    Hex.SpellsMarked ("0X".toList ++ digits) (0xff :: low) ∧
    ofWordValue (.text ("0X".toList ++ digits)) = .ok (some address) ∧
    validate? address = some address ∧
    ofWordValue (.text digits.dropLast) = .ok none ∧
    ofWordValue (.bytes (List.replicate 32 0)) = .ok none := by
  intro low digits address
  have spells : Hex.SpellsMarked ("0X".toList ++ digits) (0xff :: low) :=
    .behind (by decide) (by decide)
  have written : checksummed (Hex.ofBytes low) = address := by decide +kernel
  obtain ⟨spelled, _, _, refused, _, padded⟩ := ofWordValue_reads_low_bytes (0xff :: low)
  obtain ⟨_, zeros, _⟩ := ofWordValue_reads_low_bytes (List.replicate 32 0)
  have given : ofWordValue (.bytes (0xff :: low)) = .ok (some address) := by
    rw [← written]
    exact padded [0xff] low rfl ⟨0xab, by decide, by decide⟩
  obtain ⟨_, _, present, _⟩ := ofWordValue_reads_low_bytes (0xff :: low)
  obtain ⟨found, same, _, fixed⟩ := present (by rw [given]; exact nofun)
  cases given.symm.trans same
  refine ⟨spells, (spelled _ spells).trans given, fixed, (refused _).2 ?_, zeros.mpr (Or.inr ?_)⟩
  · rintro ⟨word, apart⟩
    have unread : (Hex.read (Hex.dropMarker digits.dropLast)).toOption = none := by
      decide +kernel
    rw [(Hex.read_eq_ok_iff ..).mpr apart] at unread
    cases unread
  · exact List.all_iff_forall_prop.mp (by decide)

end Address
end ContractSurvey
