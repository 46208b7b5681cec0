/-
Revert reasons.

The text of a failure is shortened to what a reader wants: hexadecimal payloads are
taken out, a leading notice of the revert is dropped with the separators around it,
and a fragment that is too short to stand alone gets the notice put back in front.
-/

import ContractSurvey.Hex
import ContractSurvey.Text.Blank

namespace ContractSurvey
namespace RevertReason

def notice : Text := "execution reverted".toList

/-- The length up to which a reason needs the notice in front. -/
def fragmentLength : Nat := 10

/-- Removes every marker together with the hexadecimal digits behind it. -/
def withoutPayloads : Text → Text
  | [] => []
  | '0' :: 'x' :: rest => withoutPayloads (rest.dropWhile Hex.isDigit)
  | first :: rest => first :: withoutPayloads rest
termination_by text => text.length
decreasing_by
  · have := (List.dropWhile_sublist Hex.isDigit (l := rest)).length_le
    simp only [List.length_cons]; omega
  · simp only [List.length_cons]; omega

/-- The characters that separate a reason from what stands around it. -/
def isSeparator (character : Char) : Bool :=
  character == ':' || Text.isBlank character

/-- Removes the notice at the front of a text, in any letter case. -/
def withoutNotice (text : Text) : Text :=
  if Text.beginsWith notice (text.map Text.smallAscii) then text.drop notice.length
  else text

/-- What is left of a failure text when payloads, notice and separators are gone. -/
def core (text : Text) : Text :=
  Text.trim isSeparator (withoutNotice (Text.stripped (withoutPayloads text)))

def presented (reason : Text) : Text :=
  if reason = [] then notice
  else if reason.length ≤ fragmentLength then notice ++ ": ".toList ++ reason
  else reason

/-- The reason shown for a failure text, which may be absent. -/
def normalized : Option Text → Text
  | none => notice
  | some text => presented (core text)

end RevertReason
end ContractSurvey
