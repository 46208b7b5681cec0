/-
Small forms and marks.

The small form of a character beyond the ASCII range stays beyond it, but for the sign of
the Kelvin, whose small form is k, and the dotted capital I, whose small form is i with a
combining dot.  A mark that has no k and does not end in i is therefore found at the front of a
small text just when it is found there with the ASCII capitals alone made small.
-/

import ContractSurvey.Text.Small

namespace ContractSurvey
namespace Text

/-! ### The ASCII range -/

theorem smallForm_of_ascii {character : Char} (ascii : character.toNat < 0x80) :
    smallForm character = [smallAscii character] :=
  if_pos ascii

theorem ne_capitalSigma_of_ascii {character : Char} (ascii : character.toNat < 0x80) :
    character ≠ capitalSigma := by
  rintro rfl
  exact absurd ascii (by decide)

theorem smallBehind_cons_of_ascii {first : Char} (ascii : first.toNat < 0x80)
    (before rest : Text) :
    smallBehind before (first :: rest) =
      smallAscii first :: smallBehind (first :: before) rest := by
  rw [smallBehind, decide_eq_false (ne_capitalSigma_of_ascii ascii), Bool.false_and]
  change smallForm first ++ _ = _
  rw [smallForm_of_ascii ascii]
  rfl

private theorem smallBehind_of_ascii {before text : Text}
    (ascii : ∀ character ∈ text, character.toNat < 0x80) :
    smallBehind before text = text.map smallAscii := by
  induction text generalizing before with
  | nil => rfl
  | cons first rest ih =>
      rw [smallBehind_cons_of_ascii (ascii first List.mem_cons_self), List.map_cons,
        ih fun character member => ascii character (List.mem_cons_of_mem _ member)]

/-- In the ASCII range only capitals have another small form. -/
theorem small_of_ascii {text : Text} (ascii : ∀ character ∈ text, character.toNat < 0x80) :
    small text = text.map smallAscii :=
  smallBehind_of_ascii ascii

/-! ### Beyond the ASCII range -/

/-- The runs that lead to characters beyond the ASCII range. -/
private theorem capitalRuns_lead :
    ∀ run ∈ capitalRuns,
      (run.first = run.last ∧ run.first + run.distance = 0x6B) ∨
      (0x80 ≤ run.first + run.distance ∧ run.last + run.distance < 0xD800) ∨
      (0xE000 ≤ run.first + run.distance ∧ run.last + run.distance < 0x110000) := by
  decide +kernel

theorem smallForm_of_beyond {character : Char} (beyond : 0x80 ≤ character.toNat) :
    smallForm character = ['i', Char.ofNat 0x307] ∨ smallForm character = ['k'] ∨
      ∃ form, smallForm character = [form] ∧ 0x80 ≤ form.toNat := by
  unfold smallForm
  dsimp only
  rw [if_neg (Nat.not_lt.mpr beyond)]
  split
  case isTrue => exact Or.inl rfl
  case isFalse =>
    right
    split
    case h_1 run found =>
      have member := List.mem_of_find?_eq_some found
      have inside := List.find?_some found
      simp only [CapitalRun.contains, Bool.and_eq_true, decide_eq_true_eq] at inside
      obtain ⟨⟨above, below⟩, _⟩ := inside
      rcases capitalRuns_lead run member with ⟨single, kelvin⟩ | far
      · left
        have same : (character.toNat + run.distance).toNat = 0x6B := by omega
        rw [same]
      · have valid : (character.toNat + run.distance).toNat.isValidChar := by
          rcases far with ⟨_, upper⟩ | ⟨lower, upper⟩
          · exact Or.inl (by omega)
          · exact Or.inr ⟨by omega, by omega⟩
        have same : (Char.ofNat (character.toNat + run.distance).toNat).toNat =
            (character.toNat + run.distance).toNat := by
          rw [Char.ofNat, dif_pos valid]
          rfl
        refine Or.inr ⟨_, rfl, ?_⟩
        rw [same]
        omega
    case h_2 => exact Or.inr ⟨character, rfl, beyond⟩

/-! ### Marks at the front of a small text -/

/-- A mark is plain when no character beyond the ASCII range can take part in it. -/
structure IsPlainMark (mark : Text) : Prop where
  ascii : ∀ character ∈ mark, character.toNat < 0x80
  noKelvin : 'k' ∉ mark
  noDotted : mark.getLast? ≠ some 'i'

private theorem IsPlainMark.tail {first : Char} {rest : Text}
    (mark : IsPlainMark (first :: rest)) : IsPlainMark rest where
  ascii character member := mark.ascii character (List.mem_cons_of_mem _ member)
  noKelvin member := mark.noKelvin (List.mem_cons_of_mem _ member)
  noDotted last := by
    apply mark.noDotted
    rw [List.getLast?_cons, last]
    rfl

private theorem smallBehind_cons_of_beyond {first : Char} (beyond : 0x80 ≤ first.toNat)
    (before rest : Text) :
    ∃ form later, smallBehind before (first :: rest) = form ++ later ∧
      (form = ['i', Char.ofNat 0x307] ∨ form = ['k'] ∨
        ∃ single, form = [single] ∧ 0x80 ≤ single.toNat) := by
  rw [smallBehind]
  refine ⟨_, _, rfl, ?_⟩
  split
  case isTrue => exact Or.inr (Or.inr ⟨finalSigma, rfl, by decide⟩)
  case isFalse => exact smallForm_of_beyond beyond

/-- A plain mark never begins with the small form of a character beyond the ASCII range. -/
private theorem IsPlainMark.not_isPrefix {first second : Char} {mark rest : Text}
    (plain : IsPlainMark (second :: mark)) (beyond : 0x80 ≤ first.toNat) (before : Text) :
    ¬second :: mark <+: smallBehind before (first :: rest) := by
  obtain ⟨form, later, same, forms⟩ := smallBehind_cons_of_beyond beyond before rest
  rw [same]
  intro starts
  rcases forms with rfl | rfl | ⟨single, rfl, high⟩
  · obtain ⟨rfl, others⟩ := List.cons_prefix_cons.mp starts
    cases mark with
    | nil => exact plain.noDotted rfl
    | cons third fourth =>
        obtain ⟨rfl, _⟩ := List.cons_prefix_cons.mp others
        exact absurd (plain.tail.ascii _ List.mem_cons_self) (by decide)
  · obtain ⟨rfl, _⟩ := List.cons_prefix_cons.mp starts
    exact plain.noKelvin List.mem_cons_self
  · obtain ⟨rfl, _⟩ := List.cons_prefix_cons.mp starts
    exact absurd (plain.ascii _ List.mem_cons_self) (Nat.not_lt.mpr high)

theorem IsPlainMark.isPrefix_smallBehind_iff {mark : Text} (plain : IsPlainMark mark)
    (before text : Text) :
    mark <+: smallBehind before text ↔ mark <+: text.map smallAscii := by
  induction mark generalizing before text with
  | nil => exact iff_of_true List.nil_prefix List.nil_prefix
  | cons first others ih =>
      cases text with
      | nil => exact Iff.rfl
      | cons letter rest =>
          rw [List.map_cons]
          by_cases ascii : letter.toNat < 0x80
          · rw [smallBehind_cons_of_ascii ascii, List.cons_prefix_cons, List.cons_prefix_cons,
              ih plain.tail]
          · have beyond : 0x80 ≤ letter.toNat := Nat.not_lt.mp ascii
            refine iff_of_false (plain.not_isPrefix beyond before) ?_
            intro starts
            have kept : smallAscii letter = letter := by
              apply if_neg
              rintro ⟨_, high⟩
              replace high : letter.toNat ≤ 0x5A := high
              omega
            obtain ⟨rfl, _⟩ := List.cons_prefix_cons.mp starts
            have range := plain.ascii _ List.mem_cons_self
            rw [kept] at range
            exact ascii range

/-- For a plain mark the letters of the ASCII range are all that is to be made small. -/
theorem IsPlainMark.beginsWith_small {mark : Text} (plain : IsPlainMark mark) (text : Text) :
    beginsWith mark (small text) = beginsWith mark (text.map smallAscii) := by
  unfold beginsWith
  rw [Bool.eq_iff_iff, List.isPrefixOf_iff_prefix, List.isPrefixOf_iff_prefix]
  exact plain.isPrefix_smallBehind_iff [] text

end Text
end ContractSurvey
