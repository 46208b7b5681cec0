/-
Return data that spells bytes.

Return data is handed over as bytes or as hexadecimal text, whose marker may be missing.
What it shows depends on the bytes it spells alone: their number chooses the rule, and the
rule reads them.
-/

import ContractSurvey.ReturnData
import ContractSurvey.Proofs.Hex.Spelling

namespace ContractSurvey
namespace ReturnData

/-- Behind the marker the form of the data is the digits of the bytes. -/
def Spells (data : ReturnData) (content : List UInt8) : Prop :=
  Hex.Spells (data.form.drop 2) content

instance (data : ReturnData) (content : List UInt8) : Decidable (data.Spells content) :=
  inferInstanceAs (Decidable (Hex.Spells _ _))

theorem raw_spells (content : List UInt8) : (ReturnData.raw content).Spells content :=
  Hex.ofBytes_spells content

private theorem two_le_of_hasMarker {text : Text} (marker : Hex.hasMarker text = true) :
    2 ≤ text.length := by
  unfold Hex.hasMarker at marker
  split at marker
  · simp
  · simp
  · cases marker

theorem form_of_hasMarker {text : Text} (marker : Hex.hasMarker text = true) :
    (ReturnData.spelled text).form = text :=
  if_pos marker

/-- Every form begins with a marker. -/
theorem two_le_form_length (data : ReturnData) : 2 ≤ data.form.length := by
  cases data with
  | absent => decide
  | raw content =>
      change 2 ≤ (Hex.marked content).length
      rw [Hex.marked_length]
      omega
  | spelled digits =>
      change 2 ≤ (if Hex.hasMarker digits then digits else '0' :: 'x' :: digits).length
      split
      · exact two_le_of_hasMarker ‹_›
      · simp

theorem Spells.form_length {data : ReturnData} {content : List UInt8}
    (spells : data.Spells content) : data.form.length = 2 * content.length + 2 := by
  have marker := data.two_le_form_length
  have digits := Hex.Spells.length_eq spells
  rw [List.length_drop] at digits
  omega

theorem decode_of_spells {data : ReturnData} {content : List UInt8}
    (spells : data.Spells content) :
    decode data = ((Rule.ofLength (2 * content.length + 2)).read? content).getD
      (Rule.ofLength (2 * content.length + 2)).fallback := by
  unfold decode rule
  rw [Hex.read_of_spells spells, spells.form_length]

/-- Two return data are read by the same rule and shown as the same text. -/
structure ReadsAlike (first second : ReturnData) : Prop where
  rule : first.rule = second.rule
  shown : first.decode = second.decode

theorem Spells.readsAlike {first second : ReturnData} {content : List UInt8}
    (spells : first.Spells content) (again : second.Spells content) : ReadsAlike first second where
  rule := by
    unfold rule
    rw [spells.form_length, again.form_length]
  shown := (decode_of_spells spells).trans (decode_of_spells again).symm

/-- Text that spells bytes behind a marker or without one is return data that spells them. -/
theorem spelled_spells {text : Text} {content : List UInt8}
    (spells : Hex.SpellsMarked text content) : (ReturnData.spelled text).Spells content := by
  have digits := spells.dropMarker_spells
  unfold Hex.dropMarker at digits
  unfold Spells form
  dsimp only
  split at digits
  · rename_i marker
    rw [if_pos marker]
    exact digits
  · rename_i unmarked
    rw [if_neg unmarked]
    exact digits

/-- The small digits of bytes behind the marker read as the bytes do. -/
theorem marked_readsAlike (content : List UInt8) :
    ReadsAlike (.spelled (Hex.marked content)) (.raw content) := by
  have small : Hex.SpellsMarked ("0x".toList ++ Hex.ofBytes content) content :=
    .behind (by decide) (Hex.ofBytes_spells content)
  exact (spelled_spells small).readsAlike (raw_spells content)

end ReturnData
end ContractSurvey
