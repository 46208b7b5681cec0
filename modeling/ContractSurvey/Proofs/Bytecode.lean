/-
Pairs of digits with gaps between them.

Bytecode that is handed over as text is a row of pairs of digits.  White space of the ASCII range
may stand before, between and behind the pairs, but not inside one.  What is taken off the text
beforehand are the blanks at its ends, of every script, and one marker.  A text is read exactly
when its body has this form, and then as the bytes of its pairs.  Every other text is refused as
malformed.
-/

import Mathlib.Data.Bool.AllAny
import ContractSurvey.Instruction.Basic
import ContractSurvey.Proofs.Hex.Spelling
import ContractSurvey.Proofs.Text.CodePoint
import ContractSurvey.Proofs.Text.Trim

namespace ContractSurvey
namespace Hex

open Text

/-! ### Pairs -/

/-- A text is the pairs of digits of a byte string, in any letter case and with white space of
the ASCII range anywhere but inside a pair. -/
inductive SpellsApart : Text → List UInt8 → Prop
  | nil : SpellsApart [] []
  | gap {character : Char} {rest : Text} {bytes : List UInt8}
      (white : character ∈ "\t\n\x0b\x0c\r ".toList) (later : SpellsApart rest bytes) :
      SpellsApart (character :: rest) bytes
  | pair {high low : Char} {rest : Text} {byte : UInt8} {bytes : List UInt8}
      (spells : Spells [high, low] [byte]) (later : SpellsApart rest bytes) :
      SpellsApart (high :: low :: rest) (byte :: bytes)

theorem isGap_iff (character : Char) :
    isGap character = true ↔ character ∈ "\t\n\x0b\x0c\r ".toList := by
  constructor
  · intro gap
    unfold isGap at gap
    rcases Bool.or_eq_true_iff.mp gap with space | between
    · rw [beq_iff_eq.mp space]
      decide
    · obtain ⟨above, below⟩ := Bool.and_eq_true_iff.mp between
      have lower : 9 ≤ character.toNat := of_decide_eq_true above
      have upper : character.toNat ≤ 13 := of_decide_eq_true below
      have named (offset : Nat) (bound : offset < 5) :
          Char.ofNat (9 + offset) ∈ "\t\n\x0b\x0c\r ".toList := by
        revert offset
        decide
      have found := named (character.toNat - 9) (by omega)
      rwa [Nat.add_sub_cancel' lower, Char.ofNat_toNat] at found
  · have every : ∀ white ∈ "\t\n\x0b\x0c\r ".toList, isGap white = true :=
      List.all_iff_forall_prop.mp (by decide)
    exact every character

theorem SpellsApart.toNat_lt {text : Text} {bytes : List UInt8} (apart : SpellsApart text bytes) :
    ∀ character ∈ text, character.toNat < 0x80 := by
  have whiteIsAscii : ∀ white ∈ "\t\n\x0b\x0c\r ".toList, white.toNat < 0x80 :=
    List.all_iff_forall_prop.mp (by decide)
  induction apart with
  | nil => exact List.forall_mem_nil _
  | gap white _ ih => exact List.forall_mem_cons.mpr ⟨whiteIsAscii _ white, ih⟩
  | pair spells _ ih =>
      have high := spells.toNat_lt List.mem_cons_self
      have low := spells.toNat_lt (List.mem_cons_of_mem _ List.mem_cons_self)
      exact List.forall_mem_cons.mpr ⟨high, List.forall_mem_cons.mpr ⟨low, ih⟩⟩

/-- A row of pairs is read wherever it is counted from, and nothing else is. -/
theorem readPairs_eq_ok_iff (position : Nat) (text : Text) (bytes : List UInt8) :
    readPairs position text = .ok bytes ↔ SpellsApart text bytes := by
  constructor
  · intro given
    fun_induction readPairs position text generalizing bytes with
    | case1 position =>
        cases given
        exact .nil
    | case2 position high rest gap ih => exact .gap ((isGap_iff high).mp gap) (ih bytes given)
    | case3 => cases given
    | case4 => cases given
    | case5 => cases given
    | case6 position high gap highValue low later isHigh lowValue isLow ih =>
        cases read : readPairs (position + 2) later with
        | error place =>
            rw [read] at given
            cases given
        | ok others =>
            rw [read] at given
            cases given
            exact .pair (spells_of_digitValues isHigh isLow) (ih others read)
  · intro apart
    induction apart generalizing position with
    | nil => rfl
    | gap white _ ih =>
        unfold readPairs
        rw [if_pos ((isGap_iff _).mpr white)]
        exact ih (position + 1)
    | pair spells _ ih =>
        rw [readPairs_pair spells, ih]
        rfl

theorem read_eq_ok_iff (text : Text) (bytes : List UInt8) :
    read text = .ok bytes ↔ SpellsApart text bytes := by
  unfold read
  constructor
  · intro given
    split at given
    · cases given
    · exact (readPairs_eq_ok_iff ..).mp given
  · intro apart
    have ascii : text.findIdx? (fun character => 0x80 ≤ character.toNat) = none := by
      rw [List.findIdx?_eq_none_iff]
      intro character member
      exact decide_eq_false (Nat.not_le_of_lt (apart.toNat_lt character member))
    rw [ascii]
    exact (readPairs_eq_ok_iff ..).mpr apart

end Hex

namespace Bytecode

open Hex Text

/-! ### Bodies -/

/-- The body of a text is what stands between the blanks at its ends, without a marker in
front. -/
inductive IsBodyOf : Text → Text → Prop
  | marked {front body behind : Text} {letter : Char}
      (before : ∀ character ∈ front, isBlank character = true) (mark : letter = 'x' ∨ letter = 'X')
      (trimmed : IsTrimmed isBlank ('0' :: letter :: body))
      (after : ∀ character ∈ behind, isBlank character = true) :
      IsBodyOf body (front ++ (('0' :: letter :: body) ++ behind))
  | bare {front body behind : Text}
      (before : ∀ character ∈ front, isBlank character = true)
      (unmarked : ∀ letter rest, body = '0' :: letter :: rest → letter ≠ 'x' ∧ letter ≠ 'X')
      (trimmed : IsTrimmed isBlank body)
      (after : ∀ character ∈ behind, isBlank character = true) :
      IsBodyOf body (front ++ (body ++ behind))

theorem isBodyOf_iff (body text : Text) :
    IsBodyOf body text ↔ body = dropMarker (stripped text) := by
  constructor
  · intro isBody
    cases isBody with
    | marked before mark trimmed after =>
        unfold stripped
        rw [trimmed.trim_between before after]
        rcases mark with rfl | rfl <;> rfl
    | bare before unmarked trimmed after =>
        unfold stripped
        rw [trimmed.trim_between before after, dropMarker, if_neg]
        intro marker
        obtain ⟨letter, rest, either, same⟩ := exists_of_hasMarker marker
        obtain ⟨notSmall, notCapital⟩ := unmarked letter rest same
        exact either.elim notSmall notCapital
  · rintro rfl
    obtain ⟨front, behind, split, before, after⟩ := exists_trim_split isBlank text
    have trimmed : IsTrimmed isBlank (stripped text) := trim_isTrimmed isBlank text
    change text = front ++ (stripped text ++ behind) at split
    generalize stripped text = inner at split trimmed
    subst split
    by_cases marker : hasMarker inner = true
    · obtain ⟨letter, digits, either, rfl⟩ := exists_of_hasMarker marker
      rw [dropMarker, if_pos marker]
      exact .marked before either trimmed after
    · rw [dropMarker, if_neg marker]
      refine .bare before ?_ trimmed after
      rintro letter rest rfl
      constructor
      · rintro rfl
        exact marker rfl
      · rintro rfl
        exact marker rfl

theorem ofText_eq_ok_iff {body text : Text} (isBody : IsBodyOf body text) (code : Bytecode) :
    ofText text = .ok code ↔ SpellsApart body code := by
  unfold ofText
  rw [← (isBodyOf_iff body text).mp isBody, ← read_eq_ok_iff]
  cases read body with
  | ok bytes => rw [Except.ok.injEq, Except.ok.injEq]
  | error position => constructor <;> intro impossible <;> cases impossible

theorem exists_malformed {text : Text} (refused : ¬∃ code, ofText text = .ok code) :
    ∃ position, ofText text = .error (.malformed position) := by
  unfold ofText at refused ⊢
  split
  · rename_i code read
    rw [read] at refused
    exact absurd ⟨code, rfl⟩ refused
  · exact ⟨_, rfl⟩

/-- Only blanks and the characters of a marker are taken off a text. -/
theorem IsBodyOf.mem {body text : Text} (isBody : IsBodyOf body text) {character : Char}
    (member : character ∈ text) (filled : isBlank character = false)
    (apart : character ∉ "0xX".toList) : character ∈ body := by
  have kept {blanks : Text} (all : ∀ other ∈ blanks, isBlank other = true) :
      character ∉ blanks := by
    intro inside
    rw [all character inside] at filled
    cases filled
  cases isBody with
  | marked before mark _ after =>
      simp only [List.mem_append, kept before, kept after, List.mem_cons, false_or, or_false]
        at member
      rcases member with rfl | rfl | inside
      · exact absurd (by decide) apart
      · rcases mark with rfl | rfl <;> exact absurd (by decide) apart
      · exact inside
  | bare before _ _ after =>
      simpa only [List.mem_append, kept before, kept after, false_or, or_false] using member

/-- A text with half of a surrogate pair is no bytecode. -/
theorem ofValue_halves {points : List Nat} (halved : ofCodes? points = none) :
    ∃ position, ofValue (.codes points) = .error (.malformed position) := by
  apply exists_malformed
  rintro ⟨code, given⟩
  have isBody := (isBodyOf_iff _ (ofCodes points)).mpr rfl
  have inside := isBody.mem (replacement_mem_ofCodes halved) (by decide) (by decide)
  have ascii := ((ofText_eq_ok_iff isBody code).mp given).toNat_lt replacement inside
  exact absurd ascii (by decide)

/-- A text has one body.  It is bytecode exactly when the body is a row of pairs, and then it is
as good as the bytes of these pairs, for its instructions and its selectors as well.  Otherwise
it is malformed, as is every text with half of a surrogate pair. -/
theorem ofText_reads_pairs (text : Text) :
    ∃ body, (∀ other, IsBodyOf other text ↔ other = body) ∧
      (∀ code, ofText text = .ok code ↔ SpellsApart body code) ∧
      ((¬∃ code, SpellsApart body code) →
        ∃ position, ofText text = .error (.malformed position)) ∧
      (∀ code, SpellsApart body code →
        ofValue (.text text) = ofValue (.bytes code) ∧
        (ofValue (.text text)).map Instruction.decode = .ok (Instruction.decode code) ∧
        (ofValue (.text text)).map selectors = .ok (selectors code)) ∧
      ∀ points, ofCodes? points = none →
        ∃ position, ofValue (.codes points) = .error (.malformed position) := by
  have isBody := (isBodyOf_iff _ text).mpr rfl
  refine ⟨_, fun other => isBodyOf_iff other text, ofText_eq_ok_iff isBody, ?_, ?_,
    fun points => ofValue_halves⟩
  · intro unspelled
    apply exists_malformed
    rintro ⟨code, given⟩
    exact unspelled ⟨code, (ofText_eq_ok_iff isBody code).mp given⟩
  · intro code apart
    have same : ofValue (.text text) = ofValue (.bytes code) :=
      (ofText_eq_ok_iff isBody code).mpr apart
    exact ⟨same, congrArg _ same, congrArg _ same⟩

/-- Blanks of two kinds at the ends, a capital marker, and white space around both pairs. -/
theorem ofText_reads_spacedPairs :
    let text := "\u2003\n0X aB\t\x0b01 \u001c".toList
    let body := " aB\t\x0b01".toList
    IsBodyOf body text ∧ SpellsApart body [0xab, 0x01] ∧
      ofValue (.text text) = .ok [0xab, 0x01] := by
  intro text body
  have isBody : IsBodyOf body text := (isBodyOf_iff body text).mpr (by decide)
  have apart : SpellsApart body [0xab, 0x01] :=
    .gap (by decide) (.pair (by decide) (.gap (by decide) (.gap (by decide)
      (.pair (by decide) .nil))))
  obtain ⟨found, unique, _, _, same, _⟩ := ofText_reads_pairs text
  cases (unique body).mp isBody
  exact ⟨isBody, apart, (same _ apart).1⟩

end Bytecode
end ContractSurvey
