/-
What the signature services give.

A service gives nothing for a selector, or a value: whatever stands in the place of the
signature in its reply, of any kind.  A reply of another shape, a page that reports an error
and an echo of the selector give nothing.  The first value that one of the services gives is
the one that is classified, and only a text can be.
-/

import ContractSurvey.Signature.Resolver
import ContractSurvey.Proofs.Analysis.Stage

namespace ContractSurvey
namespace Signature

open Dialogue

/-- The value that a service gives for a selector. -/
def Service.given? (service : Service) (selector : Text) (reply : Reply) : Option Value :=
  match reply with
  | .ok body => (service.readBody? selector body).filter (isHit selector)
  | .error _ => none

/-- The first value that the services give for a selector. -/
def firstGiven? (answers : Query → Reply) (selector : Text) : Option Value :=
  (Service.openChain.given? selector (answers (.page .openChain selector))).or
    (Service.fourByte.given? selector (answers (.page .fourByte selector)))

theorem isHit_echo (selector : Text) : isHit selector (.text selector) = false := by
  unfold isHit
  simp

theorem isHit_of_given? {service : Service} {selector : Text} {reply : Reply} {value : Value}
    (given : service.given? selector reply = some value) : isHit selector value = true := by
  cases reply with
  | ok body => exact (Option.filter_eq_some_iff.mp given).2
  | error fault => cases given

theorem isHit_of_firstGiven? {answers : Query → Reply} {selector : Text} {value : Value}
    (given : firstGiven? answers selector = some value) : isHit selector value = true := by
  rcases Option.or_eq_some_iff.mp given with first | ⟨_, second⟩
  · exact isHit_of_given? first
  · exact isHit_of_given? second

private theorem lookup_of_reply (service : Service) (selector : Text)
    (answers : Query → Reply) :
    (service.lookup selector).run.answeredBy answers =
      ((answers (.page service selector)).orElse .null).map fun body =>
        (service.readBody? selector body).getD (.text selector) := by
  unfold Service.lookup
  rw [answeredBy_bind]
  change ((answers (.page service selector)).orElse .null).bind _ = _
  cases (answers (.page service selector)).orElse .null <;> rfl

/-- A lookup answers with what its service gives, and with no hit when that is nothing. -/
theorem lookup_answeredBy {service : Service} {selector : Text} {answers : Query → Reply}
    (ordinary : (answers (.page service selector)).IsOrdinary) :
    ∃ answer, (service.lookup selector).run.answeredBy answers = .ok answer ∧
      service.given? selector (answers (.page service selector)) =
        (if isHit selector answer then some answer else none) := by
  rw [lookup_of_reply]
  cases replied : answers (.page service selector) with
  | error fault =>
      rw [replied] at ordinary
      have tolerated : fault.isFatal = false := ordinary fault rfl
      refine ⟨.text selector, ?_, ?_⟩
      · unfold Reply.orElse
        simp only [tolerated, Bool.false_eq_true, if_false]
        cases service <;> rfl
      · rw [isHit_echo]
        rfl
  | ok body =>
      refine ⟨(service.readBody? selector body).getD (.text selector), rfl, ?_⟩
      change (service.readBody? selector body).filter (isHit selector) = _
      cases service.readBody? selector body with
      | none =>
          change none = if isHit selector (.text selector) then _ else _
          rw [isHit_echo]
          rfl
      | some value => exact Option.filter_some

/-- A search among the services finds the first value that one of them gives. -/
theorem search_answeredBy {selector : Text} {answers : Query → Reply}
    (ordinary : ∀ query, (answers query).IsOrdinary) :
    (search selector defaultLookups).run.answeredBy answers =
      .ok ((firstGiven? answers selector).getD .null) := by
  obtain ⟨first, asked, givenFirst⟩ :=
    lookup_answeredBy (ordinary (.page .openChain selector))
  obtain ⟨second, askedNext, givenSecond⟩ :=
    lookup_answeredBy (ordinary (.page .fourByte selector))
  unfold firstGiven?
  rw [givenFirst, givenSecond]
  change (Dialogue.andThen _ _).answeredBy answers = _
  rw [answeredBy_andThen, asked]
  simp only
  by_cases hit : isHit selector first = true
  · rw [if_pos hit, if_pos hit]
    rfl
  · rw [if_neg hit, if_neg hit]
    change (Dialogue.andThen _ _).answeredBy answers = _
    rw [answeredBy_andThen, askedNext]
    simp only
    by_cases hitNext : isHit selector second = true
    · rw [if_pos hitNext, if_pos hitNext]
      rfl
    · rw [if_neg hitNext, if_neg hitNext]
      rfl

end Signature
end ContractSurvey
