/-
The text of a report.

The text begins with a title, and the blanks that are taken off its end never reach that far.
A text whose code points are all characters is printed as it is.
-/

import ContractSurvey.Report.Render
import ContractSurvey.Proofs.Text.CodePoint
import ContractSurvey.Proofs.Text.Trim

namespace ContractSurvey

namespace Text

theorem exists_joined_cons {Letter : Type} (separator : List Letter) (first : Letter)
    (line : List Letter) (others : List (List Letter)) :
    ∃ rest, joined separator ((first :: line) :: others) = first :: rest := by
  cases others with
  | nil => exact ⟨line, rfl⟩
  | cons next later => exact ⟨_, rfl⟩

end Text

namespace Report

/-- A report begins with the first letter of its title, that of a contract or of a proxy. -/
theorem exists_written (report : Report) :
    ∃ first : Char, ∃ rest, report.written = first.toNat :: rest ∧
      (first = 'C' ∨ first = 'P') := by
  unfold Report.written
  split
  · have titled : ∃ first : Char, ∃ line others,
        report.lines = (first.toNat :: line) :: others ∧ (first = 'C' ∨ first = 'P') := by
      unfold Report.lines Report.titleLines
      split
      · exact ⟨'P', _, _, rfl, Or.inr rfl⟩
      · exact ⟨'C', _, _, rfl, Or.inl rfl⟩
    obtain ⟨first, line, others, same, letter⟩ := titled
    obtain ⟨rest, joined⟩ :=
      Text.exists_joined_cons (Text.codes ['\n']) first.toNat line others
    have kept : Text.isBlankCode first.toNat = false := by
      rcases letter with rfl | rfl <;> decide
    rw [same, joined, Text.trimEnd_cons_of_kept kept]
    exact ⟨first, _, rfl, letter⟩
  · exact ⟨'C', _, rfl, Or.inl rfl⟩

theorem exists_render (report : Report) :
    ∃ first rest, report.render = first :: rest ∧ (first = 'C' ∨ first = 'P') := by
  obtain ⟨first, rest, written, letter⟩ := report.exists_written
  unfold Report.render
  rw [written, Text.ofCodes_cons]
  exact ⟨first, _, rfl, letter⟩

/-- A text without half of a surrogate pair is printed as it is written. -/
theorem codes_render {report : Report} {text : Text}
    (characters : Text.ofCodes? report.written = some text) :
    Text.codes report.render = report.written := by
  unfold Report.render
  rw [← Text.codes_of_ofCodes? characters, Text.ofCodes_codes]

end Report
end ContractSurvey
