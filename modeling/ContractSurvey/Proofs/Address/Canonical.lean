/-
Canonical addresses.

The checksummed form of twenty bytes spells these bytes behind its marker, so reading it as
an address gives it back.  Every address that a survey works with has this form: the one
that a person typed, and the ones that stand in words of the chain.  Nothing about the
digest is used but its length.
-/

import ContractSurvey.Address
import ContractSurvey.Call.Batch
import ContractSurvey.Proofs.Hex.Spelling

namespace ContractSurvey
namespace Address

/-- A text is the checksummed form of twenty bytes. -/
def IsCanonical (text : Text) : Prop :=
  ∃ bytes : List UInt8, bytes.length = byteCount ∧ text = checksummed (Hex.ofBytes bytes)

/-! ### The checksummed form -/

private theorem nibbles_length (bytes : List UInt8) :
    (nibbles bytes).length = 2 * bytes.length := by
  induction bytes with
  | nil => rfl
  | cons byte rest ih =>
      unfold nibbles at ih ⊢
      rw [List.flatMap_cons, List.length_append, ih, List.length_cons]
      change 2 + 2 * rest.length = 2 * (rest.length + 1)
      omega

private theorem bytesOf_length (lane : Keccak.Lane) : (Keccak.bytesOf lane).length = 8 := by
  unfold Keccak.bytesOf
  rw [List.length_map, List.length_range]

theorem digest_length (message : List UInt8) :
    (Keccak.digest message).length = 32 := by
  unfold Keccak.digest
  simp only [List.flatMap_cons, List.flatMap_nil, List.length_append, bytesOf_length,
    List.length_nil]

theorem caseMarks_length (digits : Text) : (caseMarks digits).length = 64 := by
  unfold caseMarks
  rw [nibbles_length, digest_length]

private theorem map_smallAscii_zipWith (digits : Text) (marks : List Nat)
    (written : ∀ digit ∈ digits, ∃ value < 16, digit = Text.hexDigit value)
    (enough : digits.length ≤ marks.length) :
    (List.zipWith (fun digit mark => if 7 < mark then Text.capitalAscii digit else digit)
      digits marks).map Text.smallAscii = digits := by
  induction digits generalizing marks with
  | nil => rfl
  | cons digit rest ih =>
      cases marks with
      | nil => cases enough
      | cons mark later =>
          obtain ⟨value, bound, same⟩ := written digit (List.mem_cons_self ..)
          have onward := ih later
            (fun other member => written other (List.mem_cons_of_mem digit member))
            (Nat.le_of_succ_le_succ enough)
          rw [List.zipWith_cons_cons, List.map_cons, onward, same]
          split
          · rw [Hex.smallAscii_capitalAscii_hexDigit bound]
          · rw [Hex.smallAscii_hexDigit bound]

theorem dropMarker_checksummed_spells {bytes : List UInt8}
    (twenty : bytes.length = byteCount) :
    Hex.Spells (Hex.dropMarker (checksummed (Hex.ofBytes bytes))) bytes := by
  apply map_smallAscii_zipWith
  · intro digit member
    exact Hex.exists_hexDigit_of_mem member
  · rw [caseMarks_length, Hex.ofBytes_length, twenty]
    decide

theorem addressBytes_checksummed {bytes : List UInt8} (twenty : bytes.length = byteCount) :
    Call.Batch.addressBytes (checksummed (Hex.ofBytes bytes)) = bytes := by
  unfold Call.Batch.addressBytes
  rw [Hex.read_of_spells (dropMarker_checksummed_spells twenty)]

theorem checksummed_injective {first second : List UInt8}
    (twenty : first.length = byteCount) (same : second.length = byteCount)
    (equal : checksummed (Hex.ofBytes first) = checksummed (Hex.ofBytes second)) :
    first = second := by
  rw [← addressBytes_checksummed twenty, equal, addressBytes_checksummed same]

/-! ### Texts that are read as addresses -/

/-- Forty digits behind an optional marker are the address of the bytes they spell. -/
theorem ofText_of_spells {text : Text} {bytes : List UInt8}
    (twenty : bytes.length = byteCount)
    (spells : Hex.Spells (Hex.dropMarker text) bytes) :
    ofText text = .ok (checksummed (Hex.ofBytes bytes)) := by
  have digits : (Hex.dropMarker text).all Hex.isDigit = true := by
    rw [List.all_eq_true]
    intro character member
    exact spells.isDigit member
  have written : (Hex.ofBytes bytes).all Hex.isDigit = true := by
    rw [List.all_eq_true]
    intro character member
    exact (Hex.ofBytes_spells bytes).isDigit member
  have forty : (Hex.ofBytes bytes).length = digitCount := by
    rw [Hex.ofBytes_length, twenty]
    rfl
  unfold ofText
  rw [if_pos digits, spells]
  exact if_pos ⟨forty, written⟩

/-- A text that is read as an address spells its bytes. -/
theorem exists_spells_of_ofText {text address : Text} (given : ofText text = .ok address) :
    ∃ bytes : List UInt8, bytes.length = byteCount ∧ Hex.Spells (Hex.dropMarker text) bytes ∧
      address = checksummed (Hex.ofBytes bytes) := by
  unfold ofText at given
  by_cases digits : (Hex.dropMarker text).all Hex.isDigit = true
  · rw [if_pos digits] at given
    change (if _ ∧ _ then _ else _) = _ at given
    split at given
    · rename_i shape
      have forty : (Hex.dropMarker text).length = digitCount := by
        simpa using shape.1
      obtain ⟨bytes, twenty, spells⟩ := Hex.exists_spells_of_all_isDigit byteCount digits forty
      refine ⟨bytes, twenty, spells, ?_⟩
      rw [← Except.ok.inj given]
      exact congrArg checksummed spells
    · cases given
  · rw [if_neg digits] at given
    cases given

theorem IsCanonical.ofText_eq {text : Text} (canonical : IsCanonical text) :
    ofText text = .ok text := by
  obtain ⟨bytes, twenty, rfl⟩ := canonical
  exact ofText_of_spells twenty (dropMarker_checksummed_spells twenty)

/-- A canonical address that a person types is taken as it is. -/
theorem IsCanonical.validate?_eq {text : Text} (canonical : IsCanonical text) :
    validate? text = some text := by
  obtain ⟨bytes, twenty, rfl⟩ := canonical
  have spells := dropMarker_checksummed_spells twenty
  have digits : (Hex.dropMarker (checksummed (Hex.ofBytes bytes))).all Hex.isDigit = true := by
    simpa using fun character member => spells.isDigit member
  have forty : (Hex.dropMarker (checksummed (Hex.ofBytes bytes))).length = digitCount := by
    rw [spells.length_eq, twenty]
    rfl
  have whole : Text.stripped (checksummed (Hex.ofBytes bytes)) =
      checksummed (Hex.ofBytes bytes) := Hex.stripped_of_spells spells
  unfold validate? digits?
  rw [whole, if_pos ⟨forty, digits⟩, spells]
  rfl

/-! ### Where addresses come from -/

/-- An address that a person typed is the checksummed form of the twenty bytes that its
digits spell. -/
theorem exists_spells_of_validate? {text address : Text}
    (valid : validate? text = some address) :
    ∃ bytes : List UInt8, bytes.length = byteCount ∧
      Hex.Spells (Hex.dropMarker (Text.stripped text)) bytes ∧
      address = checksummed (Hex.ofBytes bytes) := by
  obtain ⟨small, spelled, rfl⟩ := Option.map_eq_some_iff.mp valid
  simp only [digits?] at spelled
  split at spelled
  · rename_i shape
    obtain ⟨bytes, twenty, spells⟩ :=
      Hex.exists_spells_of_all_isDigit byteCount shape.2 shape.1
    refine ⟨bytes, twenty, spells, ?_⟩
    rw [← Option.some.inj spelled]
    exact congrArg checksummed spells
  · cases spelled

theorem validate?_isCanonical {text address : Text}
    (valid : validate? text = some address) : IsCanonical address := by
  obtain ⟨bytes, twenty, _, same⟩ := exists_spells_of_validate? valid
  exact ⟨bytes, twenty, same⟩

/-- A word holds the address of its last twenty bytes, unless they are all zero. -/
def HoldsAddress (word : List UInt8) (address : Text) : Prop :=
  ∃ front low : List UInt8, word = front ++ low ∧ low.length = byteCount ∧
    (∃ byte ∈ low, byte ≠ 0) ∧ address = checksummed (Hex.ofBytes low)

theorem ofWord?_eq_some_iff (word : List UInt8) (address : Text) :
    ofWord? word = some address ↔ HoldsAddress word address := by
  unfold ofWord?
  constructor
  · intro found
    by_cases short : word.length < byteCount
    · rw [if_pos short] at found
      cases found
    · rw [if_neg short] at found
      dsimp only at found
      split at found
      · cases found
      · rename_i filled
        refine ⟨word.take (word.length - byteCount), word.drop (word.length - byteCount),
          (List.take_append_drop ..).symm, ?_, ?_, (Option.some.inj found).symm⟩
        · rw [List.length_drop]
          omega
        · simpa using filled
  · rintro ⟨front, low, rfl, twenty, ⟨byte, member, nonzero⟩, rfl⟩
    have long : ¬ (front ++ low).length < byteCount := by
      rw [List.length_append]
      omega
    have place : (front ++ low).length - byteCount = front.length := by
      rw [List.length_append]
      omega
    have filled : ¬ (low.all (· == 0)) = true := by
      simp only [List.all_eq_true, beq_iff_eq]
      intro zeros
      exact nonzero (zeros byte member)
    rw [if_neg long, place, List.drop_left]
    exact if_neg filled

theorem HoldsAddress.isCanonical {word : List UInt8} {address : Text}
    (holds : HoldsAddress word address) : IsCanonical address := by
  obtain ⟨_, low, _, twenty, _, same⟩ := holds
  exact ⟨low, twenty, same⟩

/-- No word holds the zero address. -/
theorem HoldsAddress.ne_zeroAddress {word : List UInt8} {address : Text}
    (holds : HoldsAddress word address) : address ≠ zeroAddress := by
  obtain ⟨_, low, _, twenty, ⟨byte, member, nonzero⟩, rfl⟩ := holds
  intro zero
  have bytes := addressBytes_checksummed twenty
  have zeros : Call.Batch.addressBytes zeroAddress = List.replicate byteCount 0 := by
    decide
  rw [zero, zeros] at bytes
  rw [← bytes] at member
  exact nonzero (List.eq_of_mem_replicate member)

theorem ofWord?_isCanonical {word : List UInt8} {address : Text}
    (found : ofWord? word = some address) : IsCanonical address :=
  ((ofWord?_eq_some_iff word address).mp found).isCanonical

private theorem ofWordText?_isCanonical {text address : Text}
    (found : ofWordText? text = some address) : IsCanonical address := by
  unfold ofWordText? at found
  split at found
  · exact ofWord?_isCanonical found
  · cases found

/-- An address in a word is canonical, whatever kind of value the word was handed over
as. -/
theorem ofWordValue_isCanonical {value : Value} {address : Text}
    (found : ofWordValue value = .ok (some address)) : IsCanonical address := by
  cases value with
  | text content => exact ofWordText?_isCanonical (Except.ok.inj found)
  | codes points => exact ofWordText?_isCanonical (Except.ok.inj found)
  | bytes word => exact ofWord?_isCanonical (Except.ok.inj found)
  | null => cases found
  | bool content => cases found
  | int content => cases found
  | float content => cases found
  | list items =>
      simp only [ofWordValue] at found
      split at found
      · cases found
      · split at found <;> cases found
  | object fields =>
      simp only [ofWordValue] at found
      split at found <;> cases found
  | codedObject fields =>
      simp only [ofWordValue] at found
      split at found <;> cases found

end Address
end ContractSurvey
