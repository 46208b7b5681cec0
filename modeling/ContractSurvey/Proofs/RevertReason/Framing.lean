/-
Reasons inside the texts of providers.

A provider writes the notice in some letter case, separators and payloads around the reason of a
contract.  Frames is the reverse of normalising: one reason has many framed texts, and each of
them is normalised to the same result.
-/

import ContractSurvey.Proofs.RevertReason.Parts

namespace ContractSurvey
namespace RevertReason

open Text

/-- A reason in which normalising finds nothing to remove. -/
structure IsReason (reason : Text) : Prop where
  filled : reason ≠ []
  trimmed : IsTrimmed isSeparator reason
  plain : ¬HasPayload reason
  bare : ¬BeginsWithNotice reason

/-- The texts in which a provider hands a reason over.  What stands between a payload and a text
behind it keeps the digits of the payload from running on. -/
inductive Frames (reason : Text) : Text → Prop
  | alone : Frames reason reason
  | noticed {before spelling gap after : Text}
      (blankBefore : ∀ character ∈ before, isBlank character = true)
      (spells : SpellsNotice spelling)
      (separates : ∀ character ∈ gap, isSeparator character = true)
      (blankAfter : ∀ character ∈ after, isBlank character = true) :
      Frames reason (before ++ spelling ++ gap ++ reason ++ after)
  | payloadBehindNotice {before spelling gap digits apart after : Text}
      (blankBefore : ∀ character ∈ before, isBlank character = true)
      (spells : SpellsNotice spelling)
      (separates : ∀ character ∈ gap, isSeparator character = true)
      (hexadecimal : ∀ character ∈ digits, Hex.isDigit character = true)
      (separatesApart : ∀ character ∈ apart, isSeparator character = true) (stops : apart ≠ [])
      (blankAfter : ∀ character ∈ after, isBlank character = true) :
      Frames reason
        (before ++ spelling ++ gap ++ "0x".toList ++ digits ++ apart ++ reason ++ after)
  | payloadInFront {before digits apart spelling gap after : Text}
      (blankBefore : ∀ character ∈ before, isBlank character = true)
      (hexadecimal : ∀ character ∈ digits, Hex.isDigit character = true)
      (blankApart : ∀ character ∈ apart, isBlank character = true) (stops : apart ≠ [])
      (spells : SpellsNotice spelling)
      (separates : ∀ character ∈ gap, isSeparator character = true)
      (blankAfter : ∀ character ∈ after, isBlank character = true) :
      Frames reason
        (before ++ "0x".toList ++ digits ++ apart ++ spelling ++ gap ++ reason ++ after)
  | payloadAtEnd {spelling gap apart digits : Text} (spells : SpellsNotice spelling)
      (separates : ∀ character ∈ gap, isSeparator character = true)
      (separatesApart : ∀ character ∈ apart, isSeparator character = true)
      (hexadecimal : ∀ character ∈ digits, Hex.isDigit character = true) :
      Frames reason (spelling ++ gap ++ reason ++ apart ++ "0x".toList ++ digits)

section Clearing

variable {reason before gap apart digits rest : Text}

theorem separator_ne_zero
    (separates : ∀ character ∈ gap, isSeparator character = true) :
    ∀ character ∈ gap, character ≠ '0' := by
  rintro _ member rfl
  exact absurd (separates '0' member) (by decide)

/-- The notice and the separators behind it are no part of a payload. -/
private theorem withoutPayloads_noticed {spelling : Text} (spells : SpellsNotice spelling)
    (separates : ∀ character ∈ gap, isSeparator character = true) (rest : Text) :
    withoutPayloads (spelling ++ (gap ++ rest)) = spelling ++ (gap ++ withoutPayloads rest) := by
  rw [withoutPayloads_append_of_ne spells.ne_zero,
    withoutPayloads_append_of_ne (separator_ne_zero separates)]

/-- A filled stretch of separators ends the digits of a payload. -/
private theorem withoutPayloads_payload
    (hexadecimal : ∀ character ∈ digits, Hex.isDigit character = true)
    (separates : ∀ character ∈ apart, isSeparator character = true) (stops : apart ≠ [])
    (rest : Text) :
    withoutPayloads ("0x".toList ++ (digits ++ (apart ++ rest))) =
      apart ++ withoutPayloads rest := by
  rw [withoutPayloads_marked hexadecimal,
    withoutPayloads_append_of_ne (separator_ne_zero separates)]
  intro character first
  cases apart with
  | nil => exact absurd rfl stops
  | cons separator others =>
      cases first
      exact not_isDigit_of_isSeparator (separates _ List.mem_cons_self)

/-- A reason stays in front of separators, with which it cannot make a marker. -/
private theorem withoutPayloads_reason (plain : ¬HasPayload reason)
    (separates : ∀ character ∈ apart, isSeparator character = true)
    (unmarked : rest.head? ≠ some 'x') :
    withoutPayloads (reason ++ (apart ++ rest)) = reason ++ (apart ++ withoutPayloads rest) := by
  rw [withoutPayloads_append plain,
    withoutPayloads_append_of_ne (separator_ne_zero separates)]
  intro _
  cases apart with
  | nil => exact unmarked
  | cons separator others =>
      rintro ⟨⟩
      exact absurd (separates 'x' List.mem_cons_self) (by decide)

/-- A reason stays in front of separators that end a text. -/
private theorem withoutPayloads_reason_last (plain : ¬HasPayload reason)
    (separates : ∀ character ∈ apart, isSeparator character = true) :
    withoutPayloads (reason ++ apart) = reason ++ apart := by
  have cleared : withoutPayloads (reason ++ (apart ++ [])) =
      reason ++ (apart ++ withoutPayloads []) := withoutPayloads_reason plain separates nofun
  rwa [List.append_nil, withoutPayloads, List.append_nil] at cleared

end Clearing

section Recovery

variable {reason text before spelling gap after : Text}

/-- What the separators behind the notice and the blanks at the end leave is the reason. -/
private theorem IsReason.core_of_cleared (isReason : IsReason reason)
    (cleared : withoutPayloads text = before ++ (spelling ++ (gap ++ (reason ++ after))))
    (blankBefore : ∀ character ∈ before, isBlank character = true)
    (spells : SpellsNotice spelling)
    (separates : ∀ character ∈ gap, isSeparator character = true)
    (separatesAfter : ∀ character ∈ after, isSeparator character = true) :
    core text = reason := by
  rw [core_of_noticed cleared blankBefore spells]
  exact isReason.trimmed.trim_between separates separatesAfter

theorem IsReason.core_eq (isReason : IsReason reason) : core reason = reason := by
  have stays : withoutPayloads reason = reason := withoutPayloads_of_plain isReason.plain
  have unblanked : stripped reason = reason :=
    (isReason.trimmed.mono fun _ => isSeparator_of_isBlank).trim_eq
  have bare : ¬BeginsWithNotice (stripped (withoutPayloads reason)) := by
    rw [stays, unblanked]
    exact isReason.bare
  rw [core_of_bare bare, stays, isReason.trimmed.trim_eq]

/-- Whatever the framing, the reason is left. -/
theorem IsReason.core_of_frames (isReason : IsReason reason) (framed : Frames reason text) :
    core text = reason := by
  cases framed with
  | alone => exact isReason.core_eq
  | noticed blankBefore spells separates blankAfter =>
      have separatesAfter := isSeparator_of_blanks blankAfter
      apply isReason.core_of_cleared _ blankBefore spells separates separatesAfter
      simp only [List.append_assoc]
      rw [withoutPayloads_append_of_ne (separator_ne_zero (isSeparator_of_blanks blankBefore)),
        withoutPayloads_noticed spells separates,
        withoutPayloads_reason_last isReason.plain separatesAfter]
  | payloadBehindNotice blankBefore spells separates hexadecimal separatesApart stops
      blankAfter =>
      have separatesAfter := isSeparator_of_blanks blankAfter
      apply isReason.core_of_cleared _ blankBefore spells
        (List.forall_mem_append.mpr ⟨separates, separatesApart⟩) separatesAfter
      simp only [List.append_assoc]
      rw [withoutPayloads_append_of_ne (separator_ne_zero (isSeparator_of_blanks blankBefore)),
        withoutPayloads_noticed spells separates,
        withoutPayloads_payload hexadecimal separatesApart stops,
        withoutPayloads_reason_last isReason.plain separatesAfter]
  | payloadInFront blankBefore hexadecimal blankApart stops spells separates blankAfter =>
      have separatesAfter := isSeparator_of_blanks blankAfter
      apply isReason.core_of_cleared _ (List.forall_mem_append.mpr ⟨blankBefore, blankApart⟩)
        spells separates separatesAfter
      simp only [List.append_assoc]
      rw [withoutPayloads_append_of_ne (separator_ne_zero (isSeparator_of_blanks blankBefore)),
        withoutPayloads_payload hexadecimal (isSeparator_of_blanks blankApart) stops,
        withoutPayloads_noticed spells separates,
        withoutPayloads_reason_last isReason.plain separatesAfter]
  | @payloadAtEnd spelling gap apart digits spells separates separatesApart hexadecimal =>
      have emptied : withoutPayloads ("0x".toList ++ (digits ++ [])) = withoutPayloads [] := by
        apply withoutPayloads_marked hexadecimal
        intro _ impossible
        cases impossible
      rw [List.append_nil, withoutPayloads] at emptied
      have unmarked : ("0x".toList ++ digits).head? ≠ some 'x' := by
        change some '0' ≠ some 'x'
        decide
      have cleared : withoutPayloads
          (spelling ++ gap ++ reason ++ apart ++ "0x".toList ++ digits) =
            [] ++ (spelling ++ (gap ++ (reason ++ apart))) := by
        simp only [List.append_assoc]
        rw [withoutPayloads_noticed spells separates,
          withoutPayloads_reason isReason.plain separatesApart unmarked, emptied, List.append_nil,
          List.nil_append]
      refine isReason.core_of_cleared cleared ?_ spells separates separatesApart
      intro _ impossible
      cases impossible

/-- Every framing of a reason is normalised to the reason, with the notice in front when it has
no more than ten characters. -/
theorem normalized_of_frames (isReason : IsReason reason) (framed : Frames reason text) :
    normalized (some text) =
      if 10 < reason.length then reason else notice ++ ": ".toList ++ reason := by
  change presented (core text) = _
  rw [isReason.core_of_frames framed, presented, if_neg isReason.filled]
  by_cases short : reason.length ≤ fragmentLength
  · rw [if_pos short]
    exact (if_neg (Nat.not_lt.mpr short)).symm
  · rw [if_neg short]
    exact (if_pos (Nat.not_le.mp short)).symm

end Recovery

/-- A short reason gets the notice back, and a long one stands alone, whatever the framing. -/
theorem normalized_framedReasons :
    normalized (some "\nEXECUTION Reverted: Paused ".toList) =
        "execution reverted: Paused".toList ∧
      normalized (some "execution reverted: 0x08c379a0: Paused".toList) =
        "execution reverted: Paused".toList ∧
      normalized (some "0xdead Execution Revertedcaller is not the owner\n".toList) =
        "caller is not the owner".toList ∧
      normalized (some "execution reverted: caller is not the owner: 0x".toList) =
        "caller is not the owner".toList := by
  have paused : IsReason "Paused".toList :=
    ⟨by decide +kernel, by decide +kernel, by decide +kernel, by decide +kernel⟩
  have caller : IsReason "caller is not the owner".toList :=
    ⟨by decide +kernel, by decide +kernel, by decide +kernel, by decide +kernel⟩
  have blanks {text : Text} (all : text.all isBlank = true) :
      ∀ character ∈ text, isBlank character = true := List.all_eq_true.mp all
  have separators {text : Text} (all : text.all isSeparator = true) :
      ∀ character ∈ text, isSeparator character = true := List.all_eq_true.mp all
  have hexadecimals {text : Text} (all : text.all Hex.isDigit = true) :
      ∀ character ∈ text, Hex.isDigit character = true := List.all_eq_true.mp all
  have noticed := normalized_of_frames paused (@Frames.noticed _ "\n".toList
    "EXECUTION Reverted".toList ": ".toList " ".toList
    (blanks rfl) (by decide +kernel) (separators rfl) (blanks rfl))
  have behind := normalized_of_frames paused (@Frames.payloadBehindNotice _ []
    "execution reverted".toList ": ".toList "08c379a0".toList ": ".toList []
    nofun (by decide +kernel) (separators rfl) (hexadecimals rfl) (separators rfl) nofun nofun)
  have inFront := normalized_of_frames caller (@Frames.payloadInFront _ []
    "dead".toList " ".toList "Execution Reverted".toList [] "\n".toList
    nofun (hexadecimals rfl) (blanks rfl) nofun (by decide +kernel) nofun (blanks rfl))
  have atEnd := normalized_of_frames caller (@Frames.payloadAtEnd _ "execution reverted".toList
    ": ".toList ": ".toList [] (by decide +kernel) (separators rfl) (separators rfl) nofun)
  exact ⟨noticed, behind, inFront, atEnd⟩

end RevertReason
end ContractSurvey
