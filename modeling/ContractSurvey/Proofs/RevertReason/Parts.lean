/-
The parts that are taken out of a failure text.

A payload is the marker with all digits behind it.  Payloads are taken out in one pass: text
without the marker stays as it is, and a payload ends at the first character that is no digit.
The notice is recognised by its letters in any case and cut off by its length.
-/

import ContractSurvey.RevertReason
import ContractSurvey.Proofs.Hex.Spelling
import ContractSurvey.Proofs.Text.Small
import ContractSurvey.Proofs.Text.Trim

namespace ContractSurvey
namespace RevertReason

open Text

/-! ### Payloads -/

/-- The marker of a payload occurs in a text. -/
def HasPayload (text : Text) : Prop :=
  "0x".toList <:+: text

instance (text : Text) : Decidable (HasPayload text) :=
  inferInstanceAs (Decidable ("0x".toList <:+: text))

theorem hasPayload_cons_iff (first : Char) (rest : Text) :
    HasPayload (first :: rest) ↔ (first = '0' ∧ rest.head? = some 'x') ∨ HasPayload rest := by
  unfold HasPayload
  rw [List.infix_cons_iff]
  apply or_congr_left
  change ['0', 'x'] <+: first :: rest ↔ _
  rw [List.cons_prefix_cons, eq_comm]
  apply and_congr_right
  intro _
  cases rest with
  | nil => simp
  | cons second later => simp [List.cons_prefix_cons, eq_comm]

theorem withoutPayloads_cons {first : Char} {rest : Text}
    (unmarked : ¬(first = '0' ∧ rest.head? = some 'x')) :
    withoutPayloads (first :: rest) = first :: withoutPayloads rest := by
  apply withoutPayloads.eq_3
  rintro later rfl rfl
  exact unmarked ⟨rfl, rfl⟩

/-- A payload takes all the digits behind its marker with it, and nothing else. -/
theorem withoutPayloads_marked {digits rest : Text}
    (all : ∀ character ∈ digits, Hex.isDigit character = true)
    (ended : ∀ character, rest.head? = some character → Hex.isDigit character = false) :
    withoutPayloads ("0x".toList ++ (digits ++ rest)) = withoutPayloads rest := by
  have stops : rest.dropWhile Hex.isDigit = rest := by
    cases rest with
    | nil => rfl
    | cons first later =>
        apply List.dropWhile_cons_of_neg
        rw [ended first rfl]
        exact Bool.false_ne_true
  change withoutPayloads ('0' :: 'x' :: (digits ++ rest)) = _
  rw [withoutPayloads, List.dropWhile_append_of_pos all, stops]

/-- Text without a marker stays in front of what follows, as long as the two do not make a
marker where they meet. -/
theorem withoutPayloads_append {text rest : Text} (plain : ¬HasPayload text)
    (apart : text.getLast? = some '0' → rest.head? ≠ some 'x') :
    withoutPayloads (text ++ rest) = text ++ withoutPayloads rest := by
  induction text with
  | nil => rfl
  | cons first later ih =>
      rw [hasPayload_cons_iff, not_or] at plain
      have unmarked : ¬(first = '0' ∧ (later ++ rest).head? = some 'x') := by
        rintro ⟨rfl, second⟩
        cases later with
        | nil => exact apart rfl second
        | cons next others => exact plain.1 ⟨rfl, second⟩
      rw [List.cons_append, withoutPayloads_cons unmarked, ih plain.2, List.cons_append]
      intro last
      apply apart
      cases later with
      | nil => cases last
      | cons next others => exact last

theorem withoutPayloads_of_plain {text : Text} (plain : ¬HasPayload text) :
    withoutPayloads text = text := by
  have whole : withoutPayloads (text ++ []) = text ++ withoutPayloads [] :=
    withoutPayloads_append plain fun _ => nofun
  rwa [List.append_nil, withoutPayloads, List.append_nil] at whole

/-- Text without a zero stays whatever follows it. -/
theorem withoutPayloads_append_of_ne {text : Text}
    (zeroless : ∀ character ∈ text, character ≠ '0') (rest : Text) :
    withoutPayloads (text ++ rest) = text ++ withoutPayloads rest := by
  apply withoutPayloads_append
  · intro marked
    exact zeroless '0' (marked.subset (by decide)) rfl
  · intro last
    exact absurd rfl (zeroless '0' (List.mem_of_getLast? last))

theorem withoutPayloads_length_le (text : Text) :
    (withoutPayloads text).length ≤ text.length := by
  fun_induction withoutPayloads text with
  | case1 => exact Nat.le_refl _
  | case2 rest ih =>
      have dropped := (List.dropWhile_sublist Hex.isDigit (l := rest)).length_le
      simp only [List.length_cons]
      omega
  | case3 first rest _ ih => exact Nat.succ_le_succ ih

/-- Taking a payload out makes a text shorter. -/
theorem withoutPayloads_length_lt {text : Text} (marked : HasPayload text) :
    (withoutPayloads text).length < text.length := by
  fun_induction withoutPayloads text with
  | case1 => exact absurd marked (by decide)
  | case2 rest _ =>
      have dropped := (List.dropWhile_sublist Hex.isDigit (l := rest)).length_le
      have cleared := withoutPayloads_length_le (rest.dropWhile Hex.isDigit)
      simp only [List.length_cons]
      omega
  | case3 first rest unmarked ih =>
      rcases (hasPayload_cons_iff first rest).mp marked with ⟨rfl, second⟩ | later
      · obtain ⟨others, rfl⟩ := List.head?_eq_some_iff.mp second
        exact absurd rfl (unmarked others rfl)
      · exact Nat.succ_lt_succ (ih later)

/-! ### Separators -/

theorem isSeparator_of_isBlank {character : Char} (blank : isBlank character = true) :
    isSeparator character = true := by
  unfold isSeparator
  rw [blank, Bool.or_true]

theorem isSeparator_of_blanks {text : Text}
    (blank : ∀ character ∈ text, isBlank character = true) :
    ∀ character ∈ text, isSeparator character = true :=
  fun character member => isSeparator_of_isBlank (blank character member)

/-- No separator is a capital. -/
theorem smallAscii_of_isSeparator {character : Char} (separates : isSeparator character = true) :
    smallAscii character = character := by
  apply if_neg
  rintro ⟨low, high⟩
  replace low : 0x41 ≤ character.toNat := low
  replace high : character.toNat ≤ 0x5A := high
  rcases Bool.or_eq_true_iff.mp separates with colon | blank
  · rw [beq_iff_eq.mp colon] at low high
    exact absurd low (by decide)
  · simp only [isBlank, isBlankCode, Bool.or_eq_true, Bool.and_eq_true, decide_eq_true_eq,
      beq_iff_eq] at blank
    omega

theorem not_isSeparator_of_smallAscii {character : Char}
    (apart : isSeparator (smallAscii character) = false) : isSeparator character = false := by
  cases separates : isSeparator character with
  | false => rfl
  | true =>
      rw [smallAscii_of_isSeparator separates, separates] at apart
      cases apart

private theorem not_isSeparator_hexDigit :
    ∀ value < 16, isSeparator (hexDigit value) = false := by
  decide

/-- A separator ends the digits of a payload. -/
theorem not_isDigit_of_isSeparator {character : Char} (separates : isSeparator character = true) :
    Hex.isDigit character = false := by
  cases digit : Hex.isDigit character with
  | false => rfl
  | true =>
      obtain ⟨value, bound, same⟩ := Hex.exists_smallAscii_of_isDigit digit
      rw [smallAscii_of_isSeparator separates] at same
      rw [same, not_isSeparator_hexDigit value bound] at separates
      cases separates

/-! ### The notice -/

/-- A text spells the notice with its letters in any case. -/
def SpellsNotice (text : Text) : Prop :=
  text.map smallAscii = notice

instance (text : Text) : Decidable (SpellsNotice text) :=
  inferInstanceAs (Decidable (text.map smallAscii = notice))

/-- A spelling of the notice stands at the front of a text. -/
def BeginsWithNotice (text : Text) : Prop :=
  ∃ spelling rest, SpellsNotice spelling ∧ text = spelling ++ rest

theorem notice_isPlainMark : IsPlainMark notice where
  ascii character member := by
    have all : notice.all (fun letter => letter.toNat < 0x80) = true := by decide +kernel
    exact of_decide_eq_true (List.all_eq_true.mp all character member)
  noKelvin := by decide +kernel
  noDotted := by decide +kernel

/-- The notice is looked for in the small form of the whole text. -/
theorem withoutNotice_eq_small (text : Text) :
    withoutNotice text =
      if beginsWith notice (small text) then text.drop notice.length else text := by
  rw [notice_isPlainMark.beginsWith_small]
  rfl

theorem beginsWith_notice_iff (text : Text) :
    beginsWith notice (text.map smallAscii) = true ↔ BeginsWithNotice text := by
  unfold beginsWith
  rw [List.isPrefixOf_iff_prefix]
  constructor
  · rintro ⟨later, same⟩
    obtain ⟨spelling, rest, rfl, spells, _⟩ := List.map_eq_append_iff.mp same.symm
    exact ⟨spelling, rest, spells, rfl⟩
  · rintro ⟨spelling, rest, spells, rfl⟩
    rw [List.map_append, spells]
    exact List.prefix_append ..

instance (text : Text) : Decidable (BeginsWithNotice text) :=
  decidable_of_iff _ (beginsWith_notice_iff text)

section Spelling

variable {spelling : Text}

theorem SpellsNotice.length_eq (spells : SpellsNotice spelling) :
    spelling.length = notice.length := by
  rw [← spells, List.length_map]

theorem SpellsNotice.ne_nil (spells : SpellsNotice spelling) : spelling ≠ [] := by
  rintro rfl
  cases spells

/-- Neither the first nor the last letter of the notice is a separator. -/
theorem SpellsNotice.isTrimmed (spells : SpellsNotice spelling) :
    IsTrimmed isSeparator spelling where
  front character first := by
    have letter : notice.head? = some (smallAscii character) := by
      rw [← spells, List.head?_map, first]
      rfl
    apply not_isSeparator_of_smallAscii
    rw [← Option.some.inj letter]
    decide
  back character last := by
    have letter : notice.getLast? = some (smallAscii character) := by
      rw [← spells, List.getLast?_map, last]
      rfl
    apply not_isSeparator_of_smallAscii
    rw [← Option.some.inj letter]
    decide

theorem SpellsNotice.ne_zero (spells : SpellsNotice spelling) :
    ∀ character ∈ spelling, character ≠ '0' := by
  rintro _ member rfl
  have written : smallAscii '0' ∈ spelling.map smallAscii := List.mem_map_of_mem member
  rw [spells] at written
  exact absurd written (by decide)

/-- The cut by length takes exactly the spelling off, whatever the case of its letters. -/
theorem withoutNotice_spelled (spells : SpellsNotice spelling) (rest : Text) :
    withoutNotice (spelling ++ rest) = rest := by
  unfold withoutNotice
  rw [if_pos ((beginsWith_notice_iff _).mpr ⟨spelling, rest, spells, rfl⟩), ← spells.length_eq,
    List.drop_left]

end Spelling

theorem withoutNotice_of_bare {text : Text} (bare : ¬BeginsWithNotice text) :
    withoutNotice text = text := by
  unfold withoutNotice
  rw [if_neg (mt (beginsWith_notice_iff text).mp bare)]

/-! ### What is left -/

/-- Behind a notice with nothing but blanks in front, the rest is left without the separators
around it. -/
theorem core_of_noticed {text before spelling rest : Text}
    (cleared : withoutPayloads text = before ++ (spelling ++ rest))
    (blank : ∀ character ∈ before, isBlank character = true) (spells : SpellsNotice spelling) :
    core text = trim isSeparator rest := by
  have unblanked : IsTrimmed isBlank spelling :=
    spells.isTrimmed.mono fun _ => isSeparator_of_isBlank
  calc core text
      = trim isSeparator (withoutNotice (trim isBlank (before ++ (spelling ++ rest)))) := by
        rw [core, stripped, cleared]
    _ = trim isSeparator (withoutNotice (spelling ++ trimEnd isBlank rest)) := by
        rw [trim_append_front blank, unblanked.trim_append spells.ne_nil]
    _ = trim isSeparator (trimEnd isBlank rest) := by
        rw [withoutNotice_spelled spells]
    _ = trim isSeparator rest := trim_trimEnd rest fun _ => isSeparator_of_isBlank

/-- Without a notice behind the blanks, all but the separators at the ends is left. -/
theorem core_of_bare {text : Text}
    (bare : ¬BeginsWithNotice (stripped (withoutPayloads text))) :
    core text = trim isSeparator (withoutPayloads text) := by
  unfold core
  rw [withoutNotice_of_bare bare]
  exact trim_trim _ fun _ => isSeparator_of_isBlank

end RevertReason
end ContractSurvey
