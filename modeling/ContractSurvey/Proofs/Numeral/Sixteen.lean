/-
Numerals of base sixteen.

A numeral is a row of digits of any script, with at most one low line between two of them.  A
marker may stand in front of it, a sign in front of the marker, and blanks around the whole.
Exactly the texts of this form are read, and the number that is read is the one that the values
of the digits make up.
-/

import Mathlib.Data.Nat.Digits.Defs
import ContractSurvey.Numeral
import ContractSurvey.Proofs.Hex.Spelling
import ContractSurvey.Proofs.Text.Trim

namespace ContractSurvey
namespace Numeral

/-! ### Digits -/

/-- Digits of a base, with at most one low line between two of them, and their values in
order. -/
inductive Digits (base : Base) : Text → List Nat → Prop
  | last {digit : Char} {value : Nat} (valued : digit? base digit = some value) :
      Digits base [digit] [value]
  | next {digit : Char} {value : Nat} {rest : Text} {values : List Nat}
      (valued : digit? base digit = some value) (later : Digits base rest values) :
      Digits base (digit :: rest) (value :: values)
  | lined {digit : Char} {value : Nat} {rest : Text} {values : List Nat}
      (valued : digit? base digit = some value) (later : Digits base rest values) :
      Digits base (digit :: '_' :: rest) (value :: values)

variable {base : Base} {digits : Text} {values : List Nat}

theorem Digits.exists_first (written : Digits base digits values) :
    ∃ first rest value, digits = first :: rest ∧ digit? base first = some value := by
  cases written with
  | last valued => exact ⟨_, _, _, rfl, valued⟩
  | next valued _ => exact ⟨_, _, _, rfl, valued⟩
  | lined valued _ => exact ⟨_, _, _, rfl, valued⟩

theorem Digits.exists_last (written : Digits base digits values) :
    ∃ last value, digits.getLast? = some last ∧ digit? base last = some value := by
  induction written with
  | last valued => exact ⟨_, _, rfl, valued⟩
  | next valued later ih =>
      obtain ⟨last, value, ended, known⟩ := ih
      obtain ⟨first, rest, _, rfl, _⟩ := later.exists_first
      exact ⟨last, value, by rw [List.getLast?_cons_cons, ended], known⟩
  | lined valued later ih =>
      obtain ⟨last, value, ended, known⟩ := ih
      obtain ⟨first, rest, _, rfl, _⟩ := later.exists_first
      exact ⟨last, value, by rw [List.getLast?_cons_cons, List.getLast?_cons_cons, ended], known⟩

/-- A low line is no digit. -/
private theorem digit?_lowLine (base : Base) : digit? base '_' = none := by
  cases base <;> decide

theorem digits?_eq_some_iff (base : Base) (text : Text) (values : List Nat) :
    digits? base text = some values ↔ Digits base text values := by
  constructor
  · intro given
    fun_induction digits? base text generalizing values with
    | case1 => cases given
    | case2 => cases given
    | case3 first value valued =>
        cases given
        exact .last valued
    | case4 first value later valued ih =>
        obtain ⟨others, read, rfl⟩ := Option.map_eq_some_iff.mp given
        exact .lined valued (ih others read)
    | case5 first value next later apart valued ih =>
        obtain ⟨others, read, rfl⟩ := Option.map_eq_some_iff.mp given
        exact .next valued (ih others read)
  · intro written
    induction written with
    | last valued =>
        unfold digits?
        rw [valued]
    | @next digit value rest values valued later ih =>
        obtain ⟨first, behind, found, rfl, isDigit⟩ := later.exists_first
        have apart : first ≠ '_' := by
          rintro rfl
          rw [digit?_lowLine] at isDigit
          cases isDigit
        unfold digits?
        rw [valued]
        simp only [ih]
        rfl
    | lined valued later ih =>
        unfold digits?
        rw [valued]
        simp only [ih]
        rfl

/-- The number of digits, the highest first, is that of the same digits from the lowest on. -/
theorem valueOf_eq_ofDigits (base : Base) (values : List Nat) :
    valueOf base values = Nat.ofDigits base.size values.reverse := by
  rw [Nat.ofDigits_eq_foldr, List.foldr_reverse]
  unfold valueOf
  congr 1
  funext value digit
  rw [Nat.add_comm, Nat.mul_comm]
  rfl

/-! ### Markers -/

/-- The marker of base sixteen, a zero of any script and a letter, with a low line behind it or
not, or no marker at all. -/
inductive IsMark : Text → Prop
  | absent : IsMark []
  | letter {zero letter : Char} (nought : Text.decimalValue? zero = some 0)
      (either : letter = 'x' ∨ letter = 'X') : IsMark [zero, letter]
  | lined {zero letter : Char} (nought : Text.decimalValue? zero = some 0)
      (either : letter = 'x' ∨ letter = 'X') : IsMark [zero, letter, '_']

theorem Digits.mem (written : Digits base digits values) {character : Char}
    (member : character ∈ digits) :
    character = '_' ∨ ∃ value, digit? base character = some value := by
  induction written with
  | last valued =>
      rw [List.mem_singleton.mp member]
      exact .inr ⟨_, valued⟩
  | next valued later ih =>
      rcases List.mem_cons.mp member with rfl | inside
      · exact .inr ⟨_, valued⟩
      · exact ih inside
  | lined valued later ih =>
      rcases List.mem_cons.mp member with rfl | behind
      · exact .inr ⟨_, valued⟩
      · rcases List.mem_cons.mp behind with rfl | inside
        · exact .inl rfl
        · exact ih inside

/-- Digits do not begin with a marker: its letter is no digit. -/
theorem Digits.unmarked_eq (written : Digits .sixteen digits values) :
    unmarked .sixteen digits = digits := by
  unfold unmarked
  split
  · rename_i first second rest _
    refine if_neg fun marked => ?_
    have member : second ∈ first :: second :: rest := by simp
    rcases written.mem member with rfl | ⟨value, valued⟩
    · rcases marked.2 with same | same <;> cases same
    · rcases marked.2 with rfl | rfl <;> cases valued
  · rfl

theorem unmarked_append {mark : Text} (isMark : IsMark mark)
    (written : Digits .sixteen digits values) : unmarked .sixteen (mark ++ digits) = digits := by
  cases isMark with
  | absent => exact written.unmarked_eq
  | letter nought either =>
      obtain ⟨first, rest, value, rfl, valued⟩ := written.exists_first
      have apart : first ≠ '_' := by
        rintro rfl
        rw [digit?_lowLine] at valued
        cases valued
      change (if _ then _ else _) = _
      rw [if_pos ⟨nought, either⟩]
      split
      · rename_i same
        exact absurd (List.cons.inj same).1 apart
      · rfl
  | lined nought either => exact if_pos ⟨nought, either⟩

theorem exists_mark (text : Text) :
    ∃ mark, IsMark mark ∧ text = mark ++ unmarked .sixteen text := by
  unfold unmarked
  split
  · rename_i first second rest _
    by_cases marked : Text.decimalValue? first = some 0 ∧ (second = 'x' ∨ second = 'X')
    · rw [if_pos marked]
      split
      · exact ⟨_, .lined marked.1 marked.2, rfl⟩
      · exact ⟨_, .letter marked.1 marked.2, rfl⟩
    · rw [if_neg marked]
      exact ⟨[], .absent, rfl⟩
  · exact ⟨[], .absent, rfl⟩

theorem readUnsigned_eq_some_iff (text : Text) (number : Nat) :
    readUnsigned .sixteen text = some number ↔ ∃ mark digits values, text = mark ++ digits ∧
      IsMark mark ∧ Digits .sixteen digits values ∧ number = Nat.ofDigits 16 values.reverse := by
  unfold readUnsigned
  constructor
  · intro given
    obtain ⟨mark, isMark, split⟩ := exists_mark text
    cases read : digits? .sixteen (unmarked .sixteen text) with
    | none =>
        rw [read] at given
        cases given
    | some values =>
        rw [read] at given
        refine ⟨mark, _, values, split, isMark, (digits?_eq_some_iff ..).mp read, ?_⟩
        rw [← Option.some.inj given]
        exact valueOf_eq_ofDigits .sixteen values
  · rintro ⟨mark, digits, values, rfl, isMark, written, rfl⟩
    rw [unmarked_append isMark written, (digits?_eq_some_iff ..).mpr written]
    exact congrArg some (valueOf_eq_ofDigits .sixteen values)

/-! ### Whole numerals -/

/-- A text is a numeral of base sixteen: blanks, a sign or none, a marker or none, digits, and
blanks.  The information separators do not count as blanks. -/
inductive Denotes : Text → Int → Prop
  | numeral {front sign mark digits behind : Text} {factor : Int} {values : List Nat}
      (before : ∀ character ∈ front, isMargin character = true)
      (signed : (sign, factor) ∈ [([], 1), (['+'], 1), (['-'], -1)])
      (isMark : IsMark mark) (written : Digits .sixteen digits values)
      (after : ∀ character ∈ behind, isMargin character = true) :
      Denotes (front ++ ((sign ++ (mark ++ digits)) ++ behind))
        (factor * (Nat.ofDigits 16 values.reverse : Nat))

/-- A decimal digit lies in one of the runs of ten. -/
private theorem exists_zero_of_decimalValue? {digit : Char} {value : Nat}
    (valued : Text.decimalValue? digit = some value) :
    ∃ start ∈ Text.decimalZeros, ∃ offset < 10, digit = Char.ofNat (start + offset) := by
  obtain ⟨start, found, _⟩ := Option.map_eq_some_iff.mp valued
  have within := List.find?_some found
  simp only [Bool.and_eq_true, decide_eq_true_eq] at within
  refine ⟨start, List.mem_of_find?_eq_some found, digit.toNat - start, by omega, ?_⟩
  rw [Nat.add_sub_cancel' within.1, Char.ofNat_toNat]

private theorem isMargin_of_decimalZeros :
    ∀ start ∈ Text.decimalZeros, ∀ offset < 10, isMargin (Char.ofNat (start + offset)) = false := by
  decide +kernel

theorem isMargin_of_digit? {digit : Char} {value : Nat}
    (valued : digit? .sixteen digit = some value) : isMargin digit = false := by
  unfold digit? at valued
  split at valued
  · rename_i decimal
    obtain ⟨start, known, offset, bound, rfl⟩ := exists_zero_of_decimalValue? decimal
    exact isMargin_of_decimalZeros start known offset bound
  · have letter : Hex.isDigit digit = true := Option.isSome_iff_exists.mpr ⟨value, valued⟩
    have every : ∀ digit ∈ "0123456789abcdefABCDEF".toList, isMargin digit = false :=
      List.all_iff_forall_prop.mp (by decide)
    exact every digit ((Hex.isDigit_iff digit).mp letter)

theorem digit?_of_nought {zero : Char} (nought : Text.decimalValue? zero = some 0) :
    digit? .sixteen zero = some 0 := by
  unfold digit?
  rw [nought]

/-- What stands behind the sign begins with a digit. -/
theorem IsMark.exists_first {mark : Text} (isMark : IsMark mark)
    (written : Digits .sixteen digits values) :
    ∃ first rest value, mark ++ digits = first :: rest ∧ digit? .sixteen first = some value := by
  cases isMark with
  | absent => exact written.exists_first
  | letter nought _ => exact ⟨_, _, 0, rfl, digit?_of_nought nought⟩
  | lined nought _ => exact ⟨_, _, 0, rfl, digit?_of_nought nought⟩

private theorem isTrimmed_of_digits {sign mark : Text}
    (kept : ∀ character ∈ sign, isMargin character = false) (isMark : IsMark mark)
    (written : Digits .sixteen digits values) :
    Text.IsTrimmed isMargin (sign ++ (mark ++ digits)) where
  front character first := by
    cases sign with
    | nil =>
        obtain ⟨digit, rest, value, same, valued⟩ := isMark.exists_first written
        rw [List.nil_append, same] at first
        cases first
        exact isMargin_of_digit? valued
    | cons leading others =>
        cases first
        exact kept character (List.mem_cons_self ..)
  back character last := by
    obtain ⟨final, value, ended, valued⟩ := written.exists_last
    rw [List.getLast?_append, List.getLast?_append, ended] at last
    cases last
    exact isMargin_of_digit? valued

/-- What stands behind the sign has no sign of its own. -/
private theorem no_sign_of_digits {mark : Text} (isMark : IsMark mark)
    (written : Digits .sixteen digits values) {rest : Text} :
    mark ++ digits ≠ '+' :: rest ∧ mark ++ digits ≠ '-' :: rest := by
  obtain ⟨first, others, value, same, valued⟩ := isMark.exists_first written
  rw [same]
  constructor
  · rintro ⟨⟩
    cases valued
  · rintro ⟨⟩
    cases valued

/-- A sign in front of a row of digits decides what the number is multiplied by. -/
private theorem read_of_signed {text sign rest : Text} {factor : Int}
    (signed : (sign, factor) ∈ [([], 1), (['+'], 1), (['-'], -1)])
    (trimmed : Text.trim isMargin text = sign ++ rest)
    (plain : ∀ later, rest ≠ '+' :: later ∧ rest ≠ '-' :: later) :
    read .sixteen text = (readUnsigned .sixteen rest).map fun value : Nat => factor * value := by
  unfold read
  rw [trimmed]
  simp only [List.mem_cons, Prod.mk.injEq, List.not_mem_nil, or_false] at signed
  rcases signed with ⟨rfl, rfl⟩ | ⟨rfl, rfl⟩ | ⟨rfl, rfl⟩
  · simp only [one_mul]
    split
    · rename_i later same
      exact absurd same (plain later).1
    · rename_i later same
      exact absurd same (plain later).2
    · rfl
  · simp only [one_mul]
    rfl
  · simp only [neg_mul, one_mul]
    rfl

private theorem exists_sign (text : Text) : ∃ sign rest : Text, ∃ factor : Int,
    (sign, factor) ∈ [([], 1), (['+'], 1), (['-'], -1)] ∧
    Text.trim isMargin text = sign ++ rest ∧
    read .sixteen text = (readUnsigned .sixteen rest).map fun value : Nat => factor * value := by
  unfold read
  split
  · rename_i rest trimmed
    refine ⟨['+'], rest, 1, by decide, trimmed, ?_⟩
    simp only [one_mul]
    rfl
  · rename_i rest trimmed
    refine ⟨['-'], rest, -1, by decide, trimmed, ?_⟩
    simp only [neg_mul, one_mul]
    rfl
  · refine ⟨[], _, 1, by decide, rfl, ?_⟩
    simp only [one_mul]
    rfl

/-- The numerals are exactly what is read, and each as the number that it denotes. -/
theorem read_eq_some_iff (text : Text) (number : Int) :
    read .sixteen text = some number ↔ Denotes text number := by
  constructor
  · intro given
    obtain ⟨front, behind, split, before, after⟩ := Text.exists_trim_split isMargin text
    obtain ⟨sign, rest, factor, signed, trimmed, same⟩ := exists_sign text
    rw [same] at given
    obtain ⟨value, unsigned, rfl⟩ := Option.map_eq_some_iff.mp given
    obtain ⟨mark, digits, values, rfl, isMark, written, rfl⟩ :=
      (readUnsigned_eq_some_iff ..).mp unsigned
    rw [split, trimmed]
    exact .numeral before signed isMark written after
  · rintro ⟨before, signed, isMark, written, after⟩
    rename_i front sign mark digits behind factor values
    have kept : ∀ character ∈ sign, isMargin character = false := by
      simp only [List.mem_cons, Prod.mk.injEq, List.not_mem_nil, or_false] at signed
      rcases signed with ⟨rfl, _⟩ | ⟨rfl, _⟩ | ⟨rfl, _⟩ <;>
        exact List.all_iff_forall_prop.mp (by decide)
    have trimmed := (isTrimmed_of_digits kept isMark written).trim_between before after
    have unsigned : readUnsigned .sixteen (mark ++ digits) =
        some (Nat.ofDigits 16 values.reverse) :=
      (readUnsigned_eq_some_iff ..).mpr ⟨mark, digits, values, rfl, isMark, written, rfl⟩
    rw [read_of_signed signed trimmed fun _ => no_sign_of_digits isMark written, unsigned]
    rfl

example : read .sixteen "\n-0X_f_F ".toList = some (-255) := by
  decide +kernel

end Numeral
end ContractSurvey
