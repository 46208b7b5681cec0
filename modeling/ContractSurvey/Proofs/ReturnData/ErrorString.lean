/-
Return data behind a selector.

The rule for data behind a selector takes what no other rule takes, and that is never enough
for a message: the word that leads to a message, the word that counts its bytes and one word of
bytes make three, and the lengths that are left to the rule have no room for them behind the
selector.  So the rule shows a reverted call or the empty text, and an encoded message is too
long for it.
-/

import ContractSurvey.Proofs.Abi.Strict
import ContractSurvey.Proofs.ReturnData.Encoded

namespace ContractSurvey

namespace Abi

/-- The first word of data leads behind itself to a word of zeros. -/
def LeadsToZero (data : List UInt8) : Prop :=
  32 ≤ numberOf (data.take 32) ∧ numberOf (data.take 32) + 32 ≤ data.length ∧
    (data.drop (numberOf (data.take 32))).take 32 = List.replicate 32 0

instance (data : List UInt8) : Decidable (LeadsToZero data) :=
  inferInstanceAs (Decidable (_ ∧ _ ∧ _))

private theorem writeContent_nil : writeContent [] = List.replicate 32 0 := by
  decide

theorem length_eq_zero_of_roundedUp_lt {length : Nat} (small : roundedUp length < wordSize) :
    length = 0 := by
  unfold roundedUp wordSize at small
  omega

/-- The text in less than three words is empty. -/
theorem readText_eq_ok_iff_of_short {data : List UInt8} (short : data.length < 3 * wordSize)
    (text : Text) : readText data = .ok text ↔ text = [] ∧ LeadsToZero data := by
  constructor
  · intro given
    have size := length_of_readText given
    have none : text.utf8.length = 0 := length_eq_zero_of_roundedUp_lt (by omega)
    have empty : text = [] :=
      List.length_eq_zero_iff.mp (Nat.le_zero.mp (none ▸ Text.length_le_utf8 text))
    subst empty
    obtain ⟨place, found, written, _⟩ := (readText_eq_ok_iff ..).mp given
    obtain ⟨distance, first, fits, behindHead, _, rfl⟩ := (readPlace_eq_ok_iff ..).mp found
    have head : data.take 32 = word distance := by
      have taken := first.take_drop
      rwa [word_length, List.drop_zero] at taken
    have leads : numberOf (data.take 32) = distance := by
      rw [head]
      exact numberOf_bigEndian wordSize distance fits
    have inside := written.length_le
    have zeros := written.take_drop
    change _ + (writeContent []).length ≤ _ at inside
    change (data.drop _).take (writeContent []).length = writeContent [] at zeros
    rw [writeContent_nil, List.length_replicate, Nat.zero_add] at inside zeros
    refine ⟨rfl, ?_⟩
    unfold LeadsToZero
    rw [leads]
    exact ⟨behindHead, inside, zeros⟩
  · rintro ⟨rfl, behindHead, inside, zeros⟩
    have size : (data.take 32).length = wordSize := by
      rw [List.length_take, Nat.min_eq_left (by omega)]
      rfl
    have first : Holds data 0 (word (numberOf (data.take 32))) := by
      have written : word (numberOf (data.take 32)) = data.take 32 := bigEndian_numberOf size
      rw [written]
      exact holds_of_take_drop (Nat.zero_le _) (by rw [size]; rfl)
    have fits : numberOf (data.take 32) < Nat.pow 256 wordSize := by
      have bound := numberOf_lt (data.take 32)
      rwa [size] at bound
    have found : readPlace .tuple data 0 1 0 = .ok (0 + numberOf (data.take 32)) :=
      readPlace_of_holds first behindHead (by omega) fits
    have content : Holds data (0 + numberOf (data.take 32)) (writeContent []) := by
      rw [writeContent_nil]
      refine holds_of_take_drop (by omega) ?_
      rw [List.length_replicate, Nat.zero_add]
      exact zeros
    exact (readText_eq_ok_iff ..).mpr ⟨_, found, content, by decide⟩

end Abi

namespace ReturnData

theorem rule_eq_errorString_iff (data : ReturnData) :
    data.rule = .errorString ↔ 2 < data.form.length ∧ data.form.length ≤ 193 ∧
      data.form.length ≠ 66 ∧ data.form.length ≠ 130 := by
  unfold rule Rule.ofLength
  generalize data.form.length = length
  constructor
  · grind
  · rintro ⟨some, few, notWord, notPair⟩
    rw [if_neg (by omega), if_neg notWord, if_neg notPair, if_neg (by omega),
      if_neg (by omega)]

theorem length_lt_of_errorString {data : ReturnData} {content : List UInt8}
    (errorString : data.rule = .errorString)
    (payload : Hex.read (data.form.drop 2) = .ok content) :
    (content.drop 4).length < 3 * Abi.wordSize := by
  have bounds := (rule_eq_errorString_iff data).mp errorString
  have pairs := Hex.length_le_of_read payload
  rw [List.length_drop] at pairs ⊢
  unfold Abi.wordSize
  omega

theorem readErrorText?_cases {content : List UInt8}
    (short : (content.drop 4).length < 3 * Abi.wordSize) :
    readErrorText? content = some [] ∧ 4 < content.length ∧ Abi.LeadsToZero (content.drop 4) ∨
      (readErrorText? content).getD reverted = reverted ∧
        ¬(4 < content.length ∧ Abi.LeadsToZero (content.drop 4)) := by
  unfold readErrorText?
  by_cases long : 4 < content.length
  · rw [if_neg (Nat.not_le_of_lt long)]
    unfold readText?
    cases read : Abi.readText (content.drop 4) with
    | ok text =>
        obtain ⟨rfl, leads⟩ := (Abi.readText_eq_ok_iff_of_short short text).mp read
        exact .inl ⟨rfl, long, leads⟩
    | error fault =>
        refine .inr ⟨rfl, fun ⟨_, leads⟩ => ?_⟩
        rw [(Abi.readText_eq_ok_iff_of_short short []).mpr ⟨rfl, leads⟩] at read
        cases read
  · rw [if_pos (Nat.le_of_not_lt long)]
    exact .inr ⟨rfl, fun both => long both.1⟩

private theorem reverted_ne_nil : reverted ≠ [] := by
  decide

private theorem decode_payload {data : ReturnData} {content : List UInt8}
    (errorString : data.rule = .errorString)
    (payload : Hex.read (data.form.drop 2) = .ok content) :
    decode data = (readErrorText? content).getD reverted := by
  unfold decode
  rw [errorString, payload]
  rfl

theorem decode_of_errorString {data : ReturnData} (errorString : data.rule = .errorString) :
    (decode data = reverted ∨ decode data = []) ∧
      (decode data = [] ↔ ∃ content, Hex.read (data.form.drop 2) = .ok content ∧
        4 < content.length ∧ Abi.LeadsToZero (content.drop 4)) := by
  cases payload : Hex.read (data.form.drop 2) with
  | error position =>
      have shown : decode data = reverted := by
        unfold decode
        rw [errorString, payload]
        rfl
      rw [shown]
      refine ⟨.inl rfl, iff_of_false reverted_ne_nil ?_⟩
      rintro ⟨content, impossible, _⟩
      cases impossible
  | ok content =>
      rw [decode_payload errorString payload]
      rcases readErrorText?_cases (length_lt_of_errorString errorString payload) with
        ⟨empty, long, leads⟩ | ⟨fallback, not⟩
      · rw [empty]
        exact ⟨.inr rfl, iff_of_true rfl ⟨content, rfl, long, leads⟩⟩
      · rw [fallback]
        refine ⟨.inl rfl, iff_of_false reverted_ne_nil ?_⟩
        rintro ⟨other, same, leads⟩
        cases same
        exact not leads

/-- A selector and an encoded message are too long for every rule that reads. -/
theorem decode_message {data : ReturnData} {selector : List UInt8} {message : Text}
    (four : selector.length = 4) (nonempty : message ≠ [])
    (spells : data.Spells (selector ++ Abi.writeText message)) :
    data.rule = .oversized ∧ decode data = undecoded := by
  have positive : 0 < message.utf8.length :=
    Nat.lt_of_lt_of_le (List.length_pos_iff.mpr nonempty) (Text.length_le_utf8 message)
  have enough := Abi.le_roundedUp message.utf8.length
  have whole : ¬Abi.roundedUp message.utf8.length < Abi.wordSize := fun small =>
    Nat.ne_of_gt positive (Abi.length_eq_zero_of_roundedUp_lt small)
  have size : 100 ≤ (selector ++ Abi.writeText message).length := by
    rw [List.length_append, Abi.writeText_length, four]
    unfold Abi.wordSize at *
    omega
  have rule : Rule.ofLength (2 * (selector ++ Abi.writeText message).length + 2) =
      .oversized := by
    unfold Rule.ofLength
    rw [if_neg (by omega), if_neg (by omega), if_neg (by omega), if_neg (by omega),
      if_pos (by omega)]
  constructor
  · unfold ReturnData.rule
    rw [spells.form_length, rule]
  · rw [decode_of_spells spells, rule]
    rfl

/-- The rule for data behind a selector shows a reverted call or nothing, and nothing only for
data that hold the empty text.  A message behind a selector is never read: one fixed text is
shown for all of them, so what is shown is the message only where it is that text itself. -/
theorem decode_errorString :
    (∀ data : ReturnData, data.rule = .errorString ↔ 2 < data.form.length ∧
      data.form.length ≤ 193 ∧ data.form.length ≠ 66 ∧ data.form.length ≠ 130) ∧
    (∀ data : ReturnData, data.rule = .errorString →
      (decode data = reverted ∨ decode data = []) ∧
      (decode data = [] ↔ ∃ content, Hex.read (data.form.drop 2) = .ok content ∧
        4 < content.length ∧ Abi.LeadsToZero (content.drop 4))) ∧
    ∀ (data : ReturnData) (selector : List UInt8) (message : Text), selector.length = 4 →
      message ≠ [] → data.Spells (selector ++ Abi.writeText message) →
        data.rule = .oversized ∧ decode data = undecoded ∧
          (message ≠ undecoded → decode data ≠ message) := by
  refine ⟨rule_eq_errorString_iff, fun data => decode_of_errorString, ?_⟩
  intro data selector message four nonempty spells
  obtain ⟨rule, shown⟩ := decode_message four nonempty spells
  refine ⟨rule, shown, fun other same => other ?_⟩
  rw [← same, shown]

/-- Data whose first word leads past a gap to a word of zeros, and a message of one word. -/
theorem decode_errorString_around_a_message :
    let selector : List UInt8 := [0x08, 0xc3, 0x79, 0xa0]
    let silent := selector ++ (Abi.word 33 ++ List.replicate 33 0)
    let speaking := selector ++ Abi.writeText "no".toList
    (ReturnData.raw silent).rule = .errorString ∧ decode (.raw silent) = [] ∧
      (ReturnData.raw speaking).rule = .oversized ∧ decode (.raw speaking) = undecoded ∧
        decode (.raw speaking) ≠ "no".toList := by
  intro selector silent speaking
  have rule : (ReturnData.raw silent).rule = .errorString := by
    decide +kernel
  have payload : Hex.read ((ReturnData.raw silent).form.drop 2) = .ok silent :=
    Hex.read_of_spells (raw_spells silent)
  have shown := (decode_errorString.2.1 _ rule).2.mpr
    ⟨silent, payload, by decide, by decide⟩
  obtain ⟨oversized, fixed, other⟩ :=
    decode_errorString.2.2 _ selector "no".toList rfl (by decide) (raw_spells speaking)
  exact ⟨rule, shown, oversized, fixed, other (by decide)⟩

/-- The fixed text is a message too, and behind a selector it is shown as itself. -/
theorem decode_fixed_message :
    let selector : List UInt8 := [0x08, 0xc3, 0x79, 0xa0]
    let message := "could not decode the response".toList
    selector.length = 4 ∧ message ≠ [] ∧
      decode (.raw (selector ++ Abi.writeText message)) = message := by
  decide +kernel

end ReturnData
end ContractSurvey
