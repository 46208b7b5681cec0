/-
Ways through the steps of a survey.

A step asks the chain or the signature sources, and a fault on the way takes the report as
it was filled so far with it.  The exchanges of a step are those of the dialogue behind it
under the names that the survey gives them.
-/

import ContractSurvey.Analysis
import ContractSurvey.Proofs.Dialogue.Path
import ContractSurvey.Proofs.Results

namespace ContractSurvey

/-! ### Replies -/

namespace Reply

/-- A reply that is bytes unless it is a fault. -/
def HoldsBytes (reply : Reply) : Prop :=
  ∀ value, reply = .ok value → ∃ bytes, value = .bytes bytes

/-- A reply that is no fatal fault. -/
def IsOrdinary (reply : Reply) : Prop :=
  ∀ fault, reply = .error fault → fault.isFatal = false

@[simp] theorem holdsBytes_bytes (content : List UInt8) :
    HoldsBytes (.ok (.bytes content)) := by
  intro value given
  exact ⟨content, (Except.ok.inj given).symm⟩

@[simp] theorem holdsBytes_error (fault : Fault) : HoldsBytes (.error fault) := by
  intro value given
  cases given

@[simp] theorem isOrdinary_ok (value : Value) : IsOrdinary (.ok value) := by
  intro fault failed
  cases failed

@[simp] theorem isOrdinary_error_iff (fault : Fault) :
    IsOrdinary (.error fault) ↔ fault.isFatal = false := by
  constructor
  · intro ordinary
    exact ordinary fault rfl
  · intro tolerated other failed
    rw [← Except.error.inj failed]
    exact tolerated

theorem orElse_of_isOrdinary (missing : Value) {reply : Reply}
    (ordinary : reply.IsOrdinary) :
    reply.orElse missing = .ok missing ∨ ∃ value, reply = .ok value ∧
      reply.orElse missing = .ok value := by
  cases reply with
  | ok value => exact Or.inr ⟨value, rfl, rfl⟩
  | error fault =>
      left
      exact if_neg (by rw [ordinary fault rfl]; exact Bool.false_ne_true)

theorem eq_ok_of_orElse {reply : Reply} {missing value : Value}
    (given : reply.orElse missing = .ok value) : reply = .ok value ∨ value = missing := by
  cases reply with
  | ok held =>
      left
      exact given
  | error fault =>
      right
      change (if fault.isFatal then _ else _) = _ at given
      split at given
      · cases given
      · exact (Except.ok.inj given).symm

end Reply

/-! ### Single questions -/

namespace Attempt

variable {Query Result : Type}

theorem path_question_iff (query : Query) (exchanges : List (Query × Reply))
    (outcome : Except Fault Value) :
    Dialogue.Path (question query).run exchanges outcome ↔
      exchanges = [(query, outcome)] :=
  Dialogue.path_question_iff query exchanges outcome

theorem path_questionOr_iff (missing : Value) (query : Query)
    (exchanges : List (Query × Reply)) (outcome : Except Fault Value) :
    Dialogue.Path (questionOr missing query).run exchanges outcome ↔
      ∃ reply, exchanges = [(query, reply)] ∧ outcome = reply.orElse missing := by
  change Dialogue.Path (.ask query fun reply => .done (reply.orElse missing)) _ _ ↔ _
  rw [Dialogue.path_ask_iff]
  constructor
  · rintro ⟨reply, onward, rfl, path⟩
    obtain ⟨rfl, rfl⟩ := (Dialogue.path_done_iff ..).mp path
    exact ⟨reply, rfl, rfl⟩
  · rintro ⟨reply, rfl, rfl⟩
    exact ⟨reply, [], rfl, .done _⟩

theorem path_ofExcept_iff (work : Except Fault Result) (exchanges : List (Query × Reply))
    (outcome : Except Fault Result) :
    Dialogue.Path (ofExcept work).run exchanges outcome ↔
      exchanges = [] ∧ outcome = work :=
  Dialogue.path_done_iff work outcome exchanges

end Attempt

/-! ### Steps of a survey -/

namespace Analysis
namespace Stage

variable {Result : Type}

theorem path_ofExcept_ok_iff (soFar : Report) (work : Except Fault Result)
    (exchanges : List (Query × Reply)) (result : Result) :
    Dialogue.Path (ofExcept soFar work).run exchanges (.ok result) ↔
      exchanges = [] ∧ work = .ok result := by
  change Dialogue.Path (.done _) _ _ ↔ _
  rw [Dialogue.path_done_iff, and_congr_right_iff]
  intro _
  exact eq_comm.trans (mapError_eq_ok_iff ..)

section Renamed

variable {Asked : Type} (rename : Asked → Query) (soFar : Report)
  (work : Dialogue Asked (Except Fault Result)) (exchanges : List (Query × Reply))

theorem path_via_iff (outcome : Except Interruption Result) :
    Dialogue.Path ((work.via fun query => Dialogue.question (rename query)).andThen
        fun ended => .done (ended.mapError fun fault => Interruption.mk fault soFar))
        exchanges outcome ↔
      ∃ inner ended, exchanges = inner.map (Prod.map rename id) ∧
        Dialogue.Path work inner ended ∧
        outcome = ended.mapError fun fault => ⟨fault, soFar⟩ := by
  rw [Dialogue.path_andThen_done_iff]
  constructor
  · rintro ⟨ended, path, rfl⟩
    obtain ⟨inner, rfl, own⟩ := (Dialogue.path_via_question_iff ..).mp path
    exact ⟨inner, ended, rfl, own, rfl⟩
  · rintro ⟨inner, ended, rfl, own, rfl⟩
    exact ⟨ended, (Dialogue.path_via_question_iff ..).mpr ⟨inner, rfl, own⟩, rfl⟩

theorem path_via_ok_iff (result : Result) :
    Dialogue.Path ((work.via fun query => Dialogue.question (rename query)).andThen
        fun ended => .done (ended.mapError fun fault => Interruption.mk fault soFar))
        exchanges (.ok result) ↔
      ∃ inner, exchanges = inner.map (Prod.map rename id) ∧
        Dialogue.Path work inner (.ok result) := by
  rw [path_via_iff]
  constructor
  · rintro ⟨inner, ended, rfl, path, same⟩
    rw [(mapError_eq_ok_iff ..).mp same.symm] at path
    exact ⟨inner, rfl, path⟩
  · rintro ⟨inner, rfl, path⟩
    exact ⟨inner, .ok result, rfl, path, rfl⟩

end Renamed

theorem path_ofChain_iff (soFar : Report) (work : Attempt Chain.Query Result)
    (exchanges : List (Query × Reply)) (outcome : Except Interruption Result) :
    Dialogue.Path (ofChain soFar work).run exchanges outcome ↔
      ∃ inner ended, exchanges = inner.map (Prod.map Query.chain id) ∧
        Dialogue.Path work.run inner ended ∧
        outcome = ended.mapError fun fault => ⟨fault, soFar⟩ :=
  path_via_iff Query.chain soFar work.run exchanges outcome

theorem path_ofChain_ok_iff (soFar : Report) (work : Attempt Chain.Query Result)
    (exchanges : List (Query × Reply)) (result : Result) :
    Dialogue.Path (ofChain soFar work).run exchanges (.ok result) ↔
      ∃ inner, exchanges = inner.map (Prod.map Query.chain id) ∧
        Dialogue.Path work.run inner (.ok result) :=
  path_via_ok_iff Query.chain soFar work.run exchanges result

theorem path_ofSources_iff (soFar : Report)
    (work : Dialogue Signature.Query (Except Fault Result))
    (exchanges : List (Query × Reply)) (outcome : Except Interruption Result) :
    Dialogue.Path (ofSources soFar work).run exchanges outcome ↔
      ∃ inner ended,
        exchanges = inner.map (Prod.map Query.signature id) ∧
        Dialogue.Path work inner ended ∧
        outcome = ended.mapError fun fault => ⟨fault, soFar⟩ :=
  path_via_iff Query.signature soFar work exchanges outcome

theorem path_ofSources_ok_iff (soFar : Report)
    (work : Dialogue Signature.Query (Except Fault Result))
    (exchanges : List (Query × Reply)) (result : Result) :
    Dialogue.Path (ofSources soFar work).run exchanges (.ok result) ↔
      ∃ inner, exchanges = inner.map (Prod.map Query.signature id) ∧
        Dialogue.Path work inner (.ok result) :=
  path_via_ok_iff Query.signature soFar work exchanges result

theorem ofChain_answeredBy (soFar : Report) (work : Attempt Chain.Query Result)
    (replies : Query → Reply) :
    (ofChain soFar work).run.answeredBy replies =
      (work.run.answeredBy fun query => replies (.chain query)).mapError
        fun fault => ⟨fault, soFar⟩ := by
  change (Dialogue.andThen _ _).answeredBy replies = _
  rw [Dialogue.answeredBy_andThen, Dialogue.answeredBy_via]
  rfl

theorem ofChain_asked (soFar : Report) (work : Attempt Chain.Query Result)
    (replies : Query → Reply) :
    (ofChain soFar work).run.asked replies =
      (work.run.asked fun query => replies (.chain query)).map Query.chain := by
  change (Dialogue.andThen _ _).asked replies = _
  rw [Dialogue.asked_andThen, Dialogue.asked_via_question]
  exact List.append_nil _

theorem ofSources_answeredBy (soFar : Report)
    (work : Dialogue Signature.Query (Except Fault Result)) (replies : Query → Reply) :
    (ofSources soFar work).run.answeredBy replies =
      (work.answeredBy fun query => replies (.signature query)).mapError
        fun fault => ⟨fault, soFar⟩ := by
  change (Dialogue.andThen _ _).answeredBy replies = _
  rw [Dialogue.answeredBy_andThen, Dialogue.answeredBy_via]
  rfl

theorem asksOnly_ofChain {holds : Query → Prop} {work : Attempt Chain.Query Result}
    (only : Dialogue.AsksOnly (fun query => holds (.chain query)) work.run)
    (soFar : Report) : Dialogue.AsksOnly holds (ofChain soFar work).run := by
  apply only.via_question.andThen
  intro exchanges outcome _
  exact Dialogue.asksOnly_done _

theorem asksOnly_ofSources {holds : Query → Prop}
    {work : Dialogue Signature.Query (Except Fault Result)}
    (only : Dialogue.AsksOnly (fun query => holds (.signature query)) work)
    (soFar : Report) : Dialogue.AsksOnly holds (ofSources soFar work).run := by
  apply only.via_question.andThen
  intro exchanges outcome _
  exact Dialogue.asksOnly_done _

end Stage

/-! ### Whole surveys -/

theorem survey_of_invalid (plan : Plan) {text : Text}
    (invalid : Address.validate? text = none) :
    survey plan (.text text) = .done (.error (.passedOn (.notAnAddress (.text text)))) := by
  have refused : Address.validateValue? (.text text) = none := invalid
  unfold survey
  rw [refused]

theorem survey_of_valid (plan : Plan) {text address : Text}
    (valid : Address.validate? text = some address) :
    survey plan (.text text) = (stages plan address).run.andThen fun outcome =>
      .done (outcome.mapError Interruption.failure) := by
  have accepted : Address.validateValue? (.text text) = some address := valid
  unfold survey
  rw [accepted]

theorem path_survey_ok {plan : Plan} {text : Text} {exchanges : List (Query × Reply)}
    {report : Report} (path : Dialogue.Path (survey plan (.text text)) exchanges (.ok report)) :
    ∃ address, Address.validate? text = some address ∧
      Dialogue.Path (stages plan address).run exchanges (.ok report) := by
  cases valid : Address.validate? text with
  | none =>
      rw [survey_of_invalid plan valid] at path
      obtain ⟨_, impossible⟩ := (Dialogue.path_done_iff ..).mp path
      cases impossible
  | some address =>
      rw [survey_of_valid plan valid] at path
      obtain ⟨outcome, taken, same⟩ := (Dialogue.path_andThen_done_iff ..).mp path
      rw [(mapError_eq_ok_iff ..).mp same.symm] at taken
      exact ⟨address, rfl, taken⟩

/-- The steps of a survey on a way that ends with a report. -/
theorem path_stages_ok {plan : Plan} {address : Text} {exchanges : List (Query × Reply)}
    {report : Report} (path : Dialogue.Path (stages plan address).run exchanges (.ok report)) :
    ∃ located code inspected outcomes first second third,
      exchanges = first ++ (second ++ third) ∧
      Dialogue.Path (locate plan.followsProxy address).run first (.ok (located, code)) ∧
      Dialogue.Path (inspect plan.lookups located code).run second (.ok inspected) ∧
      Dialogue.Path (invoke plan inspected (requests inspected)).run third (.ok outcomes) ∧
      report = conclude inspected outcomes := by
  obtain ⟨⟨located, code⟩, first, behind, rfl, found, onward⟩ :=
    (Dialogue.path_bind_ok_iff ..).mp path
  obtain ⟨inspected, second, last, rfl, described, rest⟩ :=
    (Dialogue.path_bind_ok_iff ..).mp onward
  obtain ⟨outcomes, third, none, rfl, made, ended⟩ := (Dialogue.path_bind_ok_iff ..).mp rest
  obtain ⟨rfl, same⟩ := (Dialogue.path_done_iff ..).mp ended
  cases same
  exact ⟨located, code, inspected, outcomes, first, second, third ++ [], rfl, found, described,
    by rwa [List.append_nil], rfl⟩

/-! ### Surveys with fixed replies -/

section Fixed

variable {plan : Plan} {address : Text} {replies : Query → Reply} {located report : Report}
  {code : Value}

theorem survey_asked (plan : Plan) {text : Text} (replies : Query → Reply)
    (valid : Address.validate? text = some address) :
    (survey plan (.text text)).asked replies = (stages plan address).run.asked replies := by
  rw [survey_of_valid plan valid, Dialogue.asked_andThen]
  exact List.append_nil _

theorem survey_answeredBy (plan : Plan) {text : Text} (replies : Query → Reply)
    (valid : Address.validate? text = some address) :
    (survey plan (.text text)).answeredBy replies =
      ((stages plan address).run.answeredBy replies).mapError Interruption.failure := by
  rw [survey_of_valid plan valid, Dialogue.answeredBy_andThen]
  rfl

end Fixed

end Analysis
end ContractSurvey
