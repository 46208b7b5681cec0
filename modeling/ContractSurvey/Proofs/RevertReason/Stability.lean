/-
Reasons that are normalised again.

Payloads are taken out in one pass and one notice is dropped, so what a result still carries is
removed when it is normalised again.  A result is stable exactly when it carries no payload, and
the notice only alone or in front of a fragment.
-/

import ContractSurvey.Proofs.RevertReason.Framing

namespace ContractSurvey
namespace RevertReason

open Text

/-- Nothing is left to remove: no payload, and no notice but a bare one or the one in front of
a fragment. -/
structure IsSettled (reason : Text) : Prop where
  plain : ¬HasPayload reason
  noticed : BeginsWithNotice reason → reason = notice ∨
    ∃ fragment, IsReason fragment ∧ fragment.length ≤ fragmentLength ∧
      reason = notice ++ ": ".toList ++ fragment

/-! ### The core of a text -/

theorem core_isTrimmed (text : Text) : IsTrimmed isSeparator (core text) :=
  trim_isTrimmed _ _

theorem withoutNotice_isInfix (text : Text) : withoutNotice text <:+: text := by
  unfold withoutNotice
  split
  · exact (List.drop_suffix _ _).isInfix
  · exact List.infix_rfl

theorem core_isInfix (text : Text) : core text <:+: withoutPayloads text := by
  have trimmed : core text <:+: withoutNotice (stripped (withoutPayloads text)) :=
    trim_isInfix _ _
  have unblanked : stripped (withoutPayloads text) <:+: withoutPayloads text :=
    trim_isInfix _ _
  exact trimmed.trans ((withoutNotice_isInfix _).trans unblanked)

theorem core_length_le (text : Text) : (core text).length ≤ (withoutPayloads text).length :=
  (core_isInfix text).length_le

theorem BeginsWithNotice.length_le {text : Text} (noticed : BeginsWithNotice text) :
    notice.length ≤ text.length := by
  obtain ⟨spelling, rest, spells, rfl⟩ := noticed
  rw [List.length_append, spells.length_eq]
  exact Nat.le_add_right ..

theorem not_beginsWithNotice_of_short {text : Text} (short : text.length ≤ fragmentLength) :
    ¬BeginsWithNotice text :=
  fun noticed => absurd (noticed.length_le.trans short) (by decide +kernel)

/-! ### The three forms of a result -/

/-- How a reason is presented: the notice alone, a fragment behind the notice, or a reason that
is long enough to stand for itself. -/
theorem presented_cases (reason : Text) :
    (reason = [] ∧ presented reason = notice) ∨
      (reason ≠ [] ∧ reason.length ≤ fragmentLength ∧
        presented reason = notice ++ ": ".toList ++ reason) ∨
      (fragmentLength < reason.length ∧ presented reason = reason) := by
  unfold presented
  split
  case isTrue empty => exact Or.inl ⟨empty, rfl⟩
  case isFalse filled =>
    split
    case isTrue short => exact Or.inr (Or.inl ⟨filled, short, rfl⟩)
    case isFalse long => exact Or.inr (Or.inr ⟨Nat.not_le.mp long, rfl⟩)

theorem notice_spells : SpellsNotice notice := by
  decide +kernel

private theorem mark_separates : ∀ character ∈ ": ".toList, isSeparator character = true :=
  List.all_eq_true.mp rfl

theorem normalized_notice : normalized (some notice) = notice := by
  decide +kernel

/-- A presented reason frames the reason. -/
theorem frames_presented {reason : Text} (filled : reason ≠ []) :
    Frames reason (presented reason) := by
  rcases presented_cases reason with ⟨empty, _⟩ | ⟨_, _, same⟩ | ⟨_, same⟩
  · exact absurd empty filled
  · have framed : Frames reason ([] ++ notice ++ ": ".toList ++ reason ++ []) :=
      .noticed nofun notice_spells mark_separates nofun
    rw [List.append_nil, List.nil_append] at framed
    rwa [same]
  · rw [same]
    exact .alone

theorem IsReason.normalized_presented {reason : Text} (isReason : IsReason reason) :
    normalized (some (presented reason)) = presented reason :=
  congrArg presented (isReason.core_of_frames (frames_presented isReason.filled))

/-! ### Stable texts -/

/-- A text that normalising returns carries no payload: without it the text is shorter, and only
a notice that was there before makes up for that. -/
theorem not_hasPayload_of_stable {text : Text} (stable : normalized (some text) = text) :
    ¬HasPayload text := by
  intro marked
  have shorter := withoutPayloads_length_lt marked
  change presented (core text) = text at stable
  rcases presented_cases (core text) with ⟨_, same⟩ | ⟨_, _, same⟩ | ⟨_, same⟩
  · rw [same] at stable
    rw [← stable] at marked
    exact absurd marked (by decide +kernel)
  · rw [same] at stable
    have noticed : withoutPayloads text =
        [] ++ (notice ++ (": ".toList ++ withoutPayloads (core text))) := by
      conv => lhs; rw [← stable]
      rw [List.append_assoc, withoutPayloads_append_of_ne notice_spells.ne_zero,
        withoutPayloads_append_of_ne (separator_ne_zero mark_separates), List.nil_append]
    have left := core_of_noticed noticed nofun notice_spells
    rw [trim_append_front mark_separates] at left
    have kept := (trim_isInfix isSeparator (withoutPayloads (core text))).length_le
    rw [← left] at kept
    have lengths := congrArg List.length stable
    rw [noticed] at shorter
    simp only [List.nil_append, List.length_append] at shorter lengths
    omega
  · rw [same] at stable
    have kept := core_length_le text
    rw [stable] at kept
    omega

theorem isSettled_of_stable {text : Text} (stable : normalized (some text) = text) :
    IsSettled text := by
  have plain := not_hasPayload_of_stable stable
  have cleared := withoutPayloads_of_plain plain
  refine ⟨plain, ?_⟩
  rintro ⟨spelling, rest, spells, begins⟩
  change presented (core text) = text at stable
  rcases presented_cases (core text) with ⟨_, same⟩ | ⟨filled, short, same⟩ | ⟨_, same⟩
  · exact Or.inl (stable.symm.trans same)
  · have isReason : IsReason (core text) := by
      refine ⟨filled, core_isTrimmed text, ?_, not_beginsWithNotice_of_short short⟩
      intro marked
      apply plain
      rw [← cleared]
      exact marked.trans (core_isInfix text)
    exact Or.inr ⟨core text, isReason, short, stable.symm.trans same⟩
  · -- A text that stands for itself would have lost the notice.
    have dropped : core text = trim isSeparator rest :=
      @core_of_noticed text [] spelling rest (cleared.trans begins) nofun spells
    have kept := (trim_isInfix isSeparator rest).length_le
    have filled : 0 < spelling.length := List.length_pos_iff.mpr spells.ne_nil
    rw [← dropped, ← same, stable, begins, List.length_append] at kept
    omega

theorem presented_of_fragment {reason : Text} (filled : reason ≠ [])
    (short : reason.length ≤ fragmentLength) :
    presented reason = notice ++ ": ".toList ++ reason := by
  rw [presented, if_neg filled, if_pos short]

theorem isInfix_presented (reason : Text) : reason <:+: presented reason := by
  rcases presented_cases reason with ⟨rfl, _⟩ | ⟨_, _, same⟩ | ⟨_, same⟩
  · exact List.nil_infix
  · rw [same]
    exact (List.suffix_append ..).isInfix
  · refine ⟨[], [], ?_⟩
    rw [same, List.append_nil, List.nil_append]

theorem stable_of_isSettled {reason : Text} (trimmed : IsTrimmed isSeparator reason)
    (settled : IsSettled (presented reason)) :
    normalized (some (presented reason)) = presented reason := by
  by_cases noticed : BeginsWithNotice reason
  · have long : fragmentLength < reason.length :=
      Nat.not_le.mp fun short => not_beginsWithNotice_of_short short noticed
    have same : presented reason = reason := by
      rw [presented, if_neg (List.ne_nil_of_length_pos (by omega)), if_neg (by omega)]
    rw [same] at settled ⊢
    rcases settled.noticed noticed with alone | ⟨fragment, isReason, short, shown⟩
    · rw [alone]
      exact normalized_notice
    · rw [shown, ← presented_of_fragment isReason.filled short]
      exact isReason.normalized_presented
  · by_cases filled : reason = []
    · rw [filled]
      exact normalized_notice
    · have plain : ¬HasPayload reason :=
        fun marked => settled.plain (marked.trans (isInfix_presented reason))
      exact IsReason.normalized_presented ⟨filled, trimmed, plain, noticed⟩

/-- Normalising a result again changes nothing exactly when the result is settled.  It changes
nothing whenever taking the payloads out makes no new one and no second notice follows the one
that is dropped. -/
theorem normalized_twice_iff (text : Text) :
    (normalized (some (normalized (some text))) = normalized (some text) ↔
      IsSettled (normalized (some text))) ∧
    (¬HasPayload (withoutPayloads text) → ¬BeginsWithNotice (core text) →
      normalized (some (normalized (some text))) = normalized (some text)) := by
  refine ⟨⟨isSettled_of_stable, stable_of_isSettled (core_isTrimmed text)⟩, ?_⟩
  intro unjoined bare
  have plain : ¬HasPayload (core text) :=
    fun marked => unjoined (marked.trans (core_isInfix text))
  change normalized (some (presented (core text))) = presented (core text)
  by_cases filled : core text = []
  · rw [filled]
    exact normalized_notice
  · exact IsReason.normalized_presented ⟨filled, core_isTrimmed text, plain, bare⟩

theorem normalized_twice_framed :
    ¬HasPayload (withoutPayloads "execution Reverted: 0x08c379a0 not owner".toList) ∧
      ¬BeginsWithNotice (core "execution Reverted: 0x08c379a0 not owner".toList) ∧
      normalized (some (normalized (some "execution Reverted: 0x08c379a0 not owner".toList))) =
        normalized (some "execution Reverted: 0x08c379a0 not owner".toList) := by
  have unjoined :
      ¬HasPayload (withoutPayloads "execution Reverted: 0x08c379a0 not owner".toList) := by
    decide +kernel
  have bare : ¬BeginsWithNotice (core "execution Reverted: 0x08c379a0 not owner".toList) := by
    decide +kernel
  exact ⟨unjoined, bare, (normalized_twice_iff _).2 unjoined bare⟩

/-- A second notice is left in front of the reason, and so is a payload that taking out another
one has made. -/
theorem normalized_twice_differs :
    normalized (some (normalized (some
        "execution reverted: execution reverted: insufficient balance".toList))) ≠
      normalized (some "execution reverted: execution reverted: insufficient balance".toList) ∧
    normalized (some (normalized (some "00xabx12".toList))) ≠
      normalized (some "00xabx12".toList) := by
  decide +kernel

end RevertReason
end ContractSurvey
