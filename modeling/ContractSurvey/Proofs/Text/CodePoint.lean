/-
Code points of texts.

A text is determined by its code points, and what is shown for them is the text itself.  So
texts that are held by their code points are compared, cut and shown like the texts.
-/

import Mathlib.Data.List.Basic
import ContractSurvey.Text.CodePoint

namespace ContractSurvey
namespace Text

theorem character?_toNat (character : Char) : character? character.toNat = some character := by
  unfold character?
  have valid : character.toNat.isValidChar := character.valid
  rw [if_pos valid, Char.ofNat_toNat]

theorem toNat_of_character? {point : Nat} {character : Char}
    (single : character? point = some character) : character.toNat = point := by
  unfold character? at single
  split at single
  case isTrue valid =>
    obtain rfl := Option.some.inj single
    rw [Char.ofNat, dif_pos valid]
    rfl
  case isFalse => cases single

theorem ofCodes_cons (character : Char) (points : List Nat) :
    ofCodes (character.toNat :: points) = character :: ofCodes points := by
  unfold ofCodes
  rw [List.map_cons, character?_toNat]
  rfl

theorem ofCodes_append (front back : List Nat) :
    ofCodes (front ++ back) = ofCodes front ++ ofCodes back :=
  List.map_append ..

theorem ofCodes_codes (text : Text) : ofCodes (codes text) = text := by
  induction text with
  | nil => rfl
  | cons first rest ih =>
      change ofCodes (first.toNat :: codes rest) = _
      rw [ofCodes_cons, ih]

theorem codes_of_ofCodes? {points : List Nat} {text : Text}
    (characters : ofCodes? points = some text) : codes text = points := by
  induction points generalizing text with
  | nil =>
      obtain rfl := Option.some.inj characters
      rfl
  | cons point rest ih =>
      unfold ofCodes? at characters
      cases single : character? point with
      | none =>
          rw [single] at characters
          cases characters
      | some character =>
          rw [single] at characters
          obtain ⟨others, read, rfl⟩ := Option.map_eq_some_iff.mp characters
          change character.toNat :: codes others = _
          rw [ih read, toNat_of_character? single]

theorem codes_append (front back : Text) : codes (front ++ back) = codes front ++ codes back :=
  List.map_append ..

theorem isSuffixOf_codes (ending text : Text) :
    (codes ending).isSuffixOf (codes text) = finishesWith ending text := by
  unfold finishesWith
  rw [Bool.eq_iff_iff, List.isSuffixOf_iff_suffix, List.isSuffixOf_iff_suffix]
  exact List.suffix_map_iff_of_injective fun _ _ => Char.toNat_inj.mp

/-- What stands for half of a surrogate pair is found in its text. -/
theorem replacement_mem_ofCodes {points : List Nat} (halved : ofCodes? points = none) :
    replacement ∈ ofCodes points := by
  induction points with
  | nil => cases halved
  | cons point rest ih =>
      unfold ofCodes? at halved
      unfold ofCodes
      rw [List.map_cons]
      cases single : character? point with
      | none => exact List.mem_cons_self
      | some character =>
          rw [single] at halved
          exact List.mem_cons_of_mem _ (ih (Option.map_eq_none_iff.mp halved))

end Text
end ContractSurvey
