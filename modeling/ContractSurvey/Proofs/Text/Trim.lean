/-
Trimmed texts.

Trimming takes the characters of a class off both ends of a text and leaves what stands
between them.  What is left is trimmed, and a text that is trimmed is left alone, so the
characters of the class around a trimmed text do not matter.
-/

import Mathlib.Data.List.DropRight
import ContractSurvey.Text.Basic

namespace ContractSurvey
namespace Text

variable {drop fewer : Char → Bool} {text front back : Text}

/-- No character of a class stands at either end of a text. -/
structure IsTrimmed (drop : Char → Bool) (text : Text) : Prop where
  front : ∀ character, text.head? = some character → drop character = false
  back : ∀ character, text.getLast? = some character → drop character = false

theorem isTrimmed_iff (drop : Char → Bool) (text : Text) :
    (text.head?.all (!drop ·) && text.getLast?.all (!drop ·)) = true ↔ IsTrimmed drop text := by
  rw [Bool.and_eq_true, Option.all_eq_true, Option.all_eq_true]
  simp only [Bool.not_eq_true']
  exact ⟨fun ends => ⟨ends.1, ends.2⟩, fun trimmed => ⟨trimmed.front, trimmed.back⟩⟩

instance (drop : Char → Bool) (text : Text) : Decidable (IsTrimmed drop text) :=
  decidable_of_iff _ (isTrimmed_iff drop text)

theorem IsTrimmed.mono (trimmed : IsTrimmed drop text)
    (weaker : ∀ character, fewer character = true → drop character = true) :
    IsTrimmed fewer text := by
  have kept : ∀ character, drop character = false → fewer character = false := by
    intro character kept
    cases dropped : fewer character with
    | false => rfl
    | true => exact (weaker character dropped).symm.trans kept
  exact ⟨fun character first => kept character (trimmed.front character first),
    fun character last => kept character (trimmed.back character last)⟩

/-! ### What is trimmed off -/

theorem trimEnd_append_of_all (text : Text) (all : ∀ character ∈ back, drop character = true) :
    trimEnd drop (text ++ back) = trimEnd drop text := by
  unfold trimEnd
  rw [List.reverse_append, List.dropWhile_append_of_pos]
  intro character member
  exact all character (List.mem_reverse.mp member)

theorem trimEnd_append_of_kept {Letter : Type} {drop : Letter → Bool} {front : List Letter}
    (kept : ∀ letter, front.getLast? = some letter → drop letter = false)
    (text : List Letter) : trimEnd drop (front ++ text) = front ++ trimEnd drop text := by
  have stays : front.reverse.dropWhile drop = front.reverse := by
    cases reversed : front.reverse with
    | nil => rfl
    | cons last others =>
        apply List.dropWhile_cons_of_neg
        rw [kept last]
        · exact Bool.false_ne_true
        · rw [← List.head?_reverse, reversed]
          rfl
  unfold trimEnd
  rw [List.reverse_append, List.dropWhile_append]
  split
  case isTrue emptied => rw [stays, List.isEmpty_iff.mp emptied, List.reverse_nil,
    List.append_nil, List.reverse_reverse]
  case isFalse => rw [List.reverse_append, List.reverse_reverse]

theorem trimEnd_cons_of_kept {Letter : Type} {drop : Letter → Bool} {first : Letter}
    (kept : drop first = false) (rest : List Letter) :
    trimEnd drop (first :: rest) = first :: trimEnd drop rest := by
  have lastKept : ∀ letter, [first].getLast? = some letter → drop letter = false := by
    rintro _ ⟨⟩
    exact kept
  exact trimEnd_append_of_kept lastKept rest

theorem trim_append_front (all : ∀ character ∈ front, drop character = true) (text : Text) :
    trim drop (front ++ text) = trim drop text := by
  unfold trim
  rw [List.dropWhile_append_of_pos all]

theorem trim_append_back (text : Text) (all : ∀ character ∈ back, drop character = true) :
    trim drop (text ++ back) = trim drop text := by
  unfold trim
  rw [List.dropWhile_append]
  split
  case isTrue emptied =>
    rw [List.isEmpty_iff.mp emptied, List.dropWhile_eq_nil_iff.mpr all]
  case isFalse => exact trimEnd_append_of_all _ all

/-- Trimming the end by a smaller class first changes nothing. -/
theorem trim_trimEnd (text : Text)
    (weaker : ∀ character, fewer character = true → drop character = true) :
    trim drop (trimEnd fewer text) = trim drop text := by
  have split : trimEnd fewer text ++ text.rtakeWhile fewer = text :=
    List.rdropWhile_append_rtakeWhile ..
  conv => rhs; rw [← split]
  rw [trim_append_back _ fun character member =>
    weaker character (List.mem_rtakeWhile_imp member)]

/-- What is trimmed off a text stands around what is left. -/
theorem exists_trim_split (drop : Char → Bool) (text : Text) :
    ∃ front back, text = front ++ (trim drop text ++ back) ∧
      (∀ character ∈ front, drop character = true) ∧
      ∀ character ∈ back, drop character = true := by
  refine ⟨text.takeWhile drop, (text.dropWhile drop).rtakeWhile drop, ?_, ?_, ?_⟩
  · calc text = text.takeWhile drop ++ text.dropWhile drop :=
          (List.takeWhile_append_dropWhile ..).symm
      _ = text.takeWhile drop ++ (trim drop text ++ (text.dropWhile drop).rtakeWhile drop) :=
          congrArg _ (List.rdropWhile_append_rtakeWhile ..).symm
  · exact fun character member => List.mem_takeWhile_imp member
  · exact fun character member => List.mem_rtakeWhile_imp member

theorem trim_isInfix (drop : Char → Bool) (text : Text) : trim drop text <:+: text := by
  obtain ⟨front, back, split, _⟩ := exists_trim_split drop text
  rw [← List.append_assoc] at split
  exact ⟨front, back, split.symm⟩

/-- Trimming a smaller class first changes nothing. -/
theorem trim_trim (text : Text)
    (weaker : ∀ character, fewer character = true → drop character = true) :
    trim drop (trim fewer text) = trim drop text := by
  obtain ⟨front, back, split, ofFront, ofBack⟩ := exists_trim_split fewer text
  conv => rhs; rw [split]
  rw [trim_append_front fun character member => weaker character (ofFront character member),
    trim_append_back _ fun character member => weaker character (ofBack character member)]

/-! ### What is left -/

theorem trim_isTrimmed (drop : Char → Bool) (text : Text) :
    IsTrimmed drop (trim drop text) where
  front character first := by
    have inside : trim drop text <+: text.dropWhile drop := List.rdropWhile_prefix _ _
    obtain ⟨rest, same⟩ := inside
    have outer : (text.dropWhile drop).head? = some character := by
      rw [← same, List.head?_append, first]
      rfl
    have kept := List.head?_dropWhile_not drop text
    rw [outer] at kept
    exact kept
  back character last := by
    have filled : trim drop text ≠ [] := by
      intro empty
      rw [empty] at last
      cases last
    rw [List.getLast?_eq_some_getLast filled] at last
    have kept := List.rdropWhile_last_not drop (text.dropWhile drop) filled
    rw [← Option.some.inj last]
    exact Bool.not_eq_true _ ▸ kept

/-- Trimmed texts keep what stands between them from being trimmed. -/
theorem IsTrimmed.join (ofFront : IsTrimmed drop front) (ofBack : IsTrimmed drop back)
    (filled : front ≠ []) (ended : back ≠ []) (between : Text) :
    IsTrimmed drop (front ++ (between ++ back)) where
  front character first := by
    rw [List.head?_append_of_ne_nil _ filled] at first
    exact ofFront.front character first
  back character last := by
    rw [List.getLast?_append_of_ne_nil _ (List.append_ne_nil_of_right_ne_nil between ended),
      List.getLast?_append_of_ne_nil _ ended] at last
    exact ofBack.back character last

/-- A trimmed text keeps what stands behind it from being trimmed in front. -/
theorem IsTrimmed.trim_append (trimmed : IsTrimmed drop front) (filled : front ≠ [])
    (text : Text) : trim drop (front ++ text) = front ++ trimEnd drop text := by
  cases front with
  | nil => exact absurd rfl filled
  | cons first rest =>
      have kept : ¬drop first = true := by
        rw [trimmed.front first rfl]
        exact Bool.false_ne_true
      unfold trim
      rw [List.cons_append, List.dropWhile_cons_of_neg kept, ← List.cons_append,
        trimEnd_append_of_kept trimmed.back]

theorem IsTrimmed.trim_eq (trimmed : IsTrimmed drop text) : trim drop text = text := by
  cases text with
  | nil => rfl
  | cons first rest =>
      have whole := trimmed.trim_append (List.cons_ne_nil first rest) []
      rwa [List.append_nil, show trimEnd drop [] = [] from rfl, List.append_nil] at whole

/-- Characters of a class around a trimmed text are all that is trimmed off. -/
theorem IsTrimmed.trim_between (trimmed : IsTrimmed drop text)
    (ofFront : ∀ character ∈ front, drop character = true)
    (ofBack : ∀ character ∈ back, drop character = true) :
    trim drop (front ++ (text ++ back)) = text := by
  rw [trim_append_front ofFront, trim_append_back text ofBack, trimmed.trim_eq]

end Text
end ContractSurvey
