/-
The form of a result.

Whatever text a failure comes with, the reason that is shown for it has more than ten characters
and no separator at its ends.  It is the notice alone, the notice in front of a fragment, or a
text that stands for itself.  What is shown of the failure text is what its payloads leave, cut at
the two ends only: in front separators or a notice with the separators behind it, and at the back
separators.
-/

import ContractSurvey.Proofs.RevertReason.Stability

namespace ContractSurvey
namespace RevertReason

open Text

/-! ### The rules -/

/-- The payloads of a text are taken out from the front on, each with all the digits behind its
marker. -/
inductive Clears : Text → Text → Prop
  | nil : Clears [] []
  | payload {digits rest cleared : Text}
      (hexadecimal : ∀ digit ∈ digits, digit ∈ "0123456789abcdefABCDEF".toList)
      (ended : ∀ next, rest.head? = some next → next ∉ "0123456789abcdefABCDEF".toList)
      (later : Clears rest cleared) : Clears ("0x".toList ++ (digits ++ rest)) cleared
  | kept {first : Char} {rest cleared : Text} (unmarked : ¬"0x".toList <+: first :: rest)
      (later : Clears rest cleared) : Clears (first :: rest) (first :: cleared)

/-- What may be cut off in front of a reason: separators, or a notice behind blanks with the
separators behind it. -/
inductive IsLead : Text → Prop
  | separators {gap : Text} (separates : ∀ character ∈ gap, isSeparator character = true) :
      IsLead gap
  | noticed {before spelling gap : Text}
      (blank : ∀ character ∈ before, isBlank character = true) (spells : SpellsNotice spelling)
      (separates : ∀ character ∈ gap, isSeparator character = true) :
      IsLead (before ++ (spelling ++ gap))

/-- A reason is left of a text when the text is cut at its two ends. -/
def IsCutFrom (cleared reason : Text) : Prop :=
  ∃ front back, cleared = front ++ (reason ++ back) ∧ IsLead front ∧
    ∀ character ∈ back, isSeparator character = true

/-- The forms of what is shown for a failure text, which may be absent. -/
inductive HasForm (source : Option Text) : Text → Prop
  | notice : HasForm source "execution reverted".toList
  | fragment {text cleared fragment : Text} (given : source = some text)
      (clears : Clears text cleared) (cut : IsCutFrom cleared fragment)
      (filled : 1 ≤ fragment.length) (short : fragment.length ≤ 10) :
      HasForm source ("execution reverted: ".toList ++ fragment)
  | whole {text cleared reason : Text} (given : source = some text)
      (clears : Clears text cleared) (cut : IsCutFrom cleared reason)
      (long : 10 < reason.length) : HasForm source reason

/-- A reason is fit to be shown for a failure text. -/
structure IsWellFormed (source : Option Text) (reason : Text) : Prop where
  filled : reason ≠ []
  long : 10 < reason.length
  trimmed : IsTrimmed isSeparator reason
  form : HasForm source reason

/-! ### What is left of a text -/

/-- There is one way to take the payloads out. -/
theorem clears_iff (text cleared : Text) :
    Clears text cleared ↔ cleared = withoutPayloads text := by
  constructor
  · intro clears
    induction clears with
    | nil => rw [withoutPayloads]
    | payload hexadecimal ended _ ih =>
        rw [ih]
        symm
        apply withoutPayloads_marked
        · exact fun digit member => (Hex.isDigit_iff digit).mpr (hexadecimal digit member)
        · intro next first
          exact Bool.eq_false_iff.mpr (mt (Hex.isDigit_iff next).mp (ended next first))
    | @kept first rest cleared unmarked _ ih =>
        rw [ih]
        symm
        apply withoutPayloads_cons
        rintro ⟨rfl, second⟩
        obtain ⟨others, rfl⟩ := List.head?_eq_some_iff.mp second
        exact unmarked (List.prefix_append ['0', 'x'] others)
  · rintro rfl
    fun_induction withoutPayloads text with
    | case1 => exact .nil
    | case2 rest ih =>
        have parts : rest.takeWhile Hex.isDigit ++ rest.dropWhile Hex.isDigit = rest :=
          List.takeWhile_append_dropWhile
        conv => arg 1; rw [← parts]
        refine .payload ?_ ?_ ih
        · exact fun digit member => (Hex.isDigit_iff digit).mp (List.mem_takeWhile_imp member)
        · intro next first digit
          have stops := List.head?_dropWhile_not Hex.isDigit rest
          rw [first] at stops
          exact absurd ((Hex.isDigit_iff next).mpr digit) (Bool.eq_false_iff.mp stops)
    | case3 first rest unmarked ih =>
        refine .kept ?_ ih
        intro marked
        obtain ⟨others, same⟩ := marked
        cases same
        exact unmarked others rfl rfl

/-- The core of a text is cut from what its payloads leave. -/
theorem core_isCutFrom (text : Text) : IsCutFrom (withoutPayloads text) (core text) := by
  by_cases noticed : BeginsWithNotice (stripped (withoutPayloads text))
  · obtain ⟨spelling, rest, spells, begins⟩ := noticed
    obtain ⟨before, after, split, blank, _⟩ := exists_trim_split isBlank (withoutPayloads text)
    change _ = before ++ (stripped (withoutPayloads text) ++ after) at split
    rw [begins, List.append_assoc] at split
    rw [core_of_noticed split blank spells]
    obtain ⟨gap, back, shape, separates, ofBack⟩ := exists_trim_split isSeparator (rest ++ after)
    refine ⟨before ++ (spelling ++ gap), back, ?_, .noticed blank spells separates, ofBack⟩
    conv => lhs; rw [split, shape]
    simp only [List.append_assoc]
  · rw [core_of_bare noticed]
    obtain ⟨front, back, split, ofFront, ofBack⟩ :=
      exists_trim_split isSeparator (withoutPayloads text)
    exact ⟨front, back, split, .separators ofFront, ofBack⟩

/-! ### What is shown -/

private theorem notice_marked : notice ++ ": ".toList = "execution reverted: ".toList := by
  decide +kernel

/-- Every failure text, and none, is presented in one of the three forms. -/
theorem normalized_isWellFormed (source : Option Text) :
    IsWellFormed source (normalized source) := by
  have bare : IsWellFormed source notice :=
    ⟨by decide +kernel, by decide +kernel, notice_spells.isTrimmed, .notice⟩
  cases source with
  | none => exact bare
  | some text =>
      change IsWellFormed _ (presented (core text))
      have clears : Clears text (withoutPayloads text) := (clears_iff ..).mpr rfl
      have cut := core_isCutFrom text
      have trimmed := core_isTrimmed text
      rcases presented_cases (core text) with ⟨_, same⟩ | ⟨filled, short, same⟩ | ⟨long, same⟩
      · rw [same]
        exact bare
      · have ends := notice_spells.isTrimmed.join trimmed notice_spells.ne_nil filled ": ".toList
        rw [← List.append_assoc, notice_marked] at ends
        have marked : 10 < "execution reverted: ".toList.length := by decide +kernel
        have form : HasForm (some text) ("execution reverted: ".toList ++ core text) :=
          .fragment rfl clears cut (List.length_pos_iff.mpr filled) short
        rw [same, notice_marked]
        refine ⟨?_, ?_, ends, form⟩
        · exact List.append_ne_nil_of_right_ne_nil _ filled
        · rw [List.length_append]
          exact Nat.lt_add_right _ marked
      · rw [same]
        exact ⟨List.ne_nil_of_length_pos (by omega), long, trimmed, .whole rfl clears cut long⟩

end RevertReason
end ContractSurvey
