/-
What interrupts a survey.

A survey ends early when the code of its target cannot be had, when a word of the chain is
of a kind that holds no address, or when a signature is of a kind that cannot be classified.
As long as the client gives code as bytes and the outside has no fatal fault, each of these
comes with the report as far as it was filled.
-/

import ContractSurvey.Proofs.Analysis.Inspection
import ContractSurvey.Proofs.Analysis.Invocation
import ContractSurvey.Proofs.Analysis.Location
import ContractSurvey.Proofs.Signature.Search

namespace ContractSurvey

open Dialogue

/-- A fault that a survey does not pass on as it is. -/
structure Fault.Interrupts (fault : Fault) : Prop where
  ordinary : fault.isFatal = false
  otherwise : fault.isInput = false

theorem Fault.misuse_interrupts (cause : Value.Misuse) : (Fault.misuse cause).Interrupts :=
  ⟨rfl, rfl⟩

theorem Fault.interrupts_of_ofMisuse {Result : Type} {attempt : Except Value.Misuse Result}
    {fault : Fault} (refused : Fault.ofMisuse attempt = .error fault) : fault.Interrupts := by
  obtain ⟨cause, rfl⟩ := exists_of_mapError_eq_error refused
  exact misuse_interrupts cause

/-- A question that takes a value for a fault stops at no fault that is not fatal. -/
theorem Attempt.stops_questionOr {Query : Type} (missing : Value) (query : Query)
    (holds : Fault → Prop) :
    Stops (fun _ reply => reply.IsOrdinary) (Attempt.questionOr missing query) holds := by
  intro exchanges fault tolerable path
  obtain ⟨reply, rfl, given⟩ := (Attempt.path_questionOr_iff ..).mp path
  have ordinary : reply.IsOrdinary := tolerable _ (List.mem_cons_self ..)
  rcases Reply.orElse_of_isOrdinary missing ordinary with absent | ⟨value, _, present⟩
  · rw [absent] at given
    cases given
  · rw [present] at given
    cases given

/-! ### Searching for an implementation -/

namespace Proxy

def Tolerable (_ : Chain.Query) (reply : Reply) : Prop :=
  reply.IsOrdinary

private theorem stops_ofExcept {Result : Type} {work : Except Fault Result}
    (refusals : ∀ fault, work = .error fault → fault.Interrupts) :
    Stops Tolerable (Attempt.ofExcept work) Fault.Interrupts := by
  intro exchanges fault _ path
  obtain ⟨_, same⟩ := (Attempt.path_ofExcept_iff ..).mp path
  exact refusals fault same.symm

private theorem stops_addressIn (query : Chain.Query) :
    Stops Tolerable (do
      let word ← Attempt.questionOr .null query
      Attempt.ofExcept (addressIn word) : Attempt Chain.Query (Option Text))
      Fault.Interrupts := by
  apply (Attempt.stops_questionOr .null query Fault.Interrupts).bind
  intro word
  exact stops_ofExcept fun fault refused => Fault.interrupts_of_ofMisuse refused

private theorem stops_withCode (candidate? : Option Text) :
    Stops Tolerable (withCode candidate?) Fault.Interrupts := by
  cases candidate? with
  | none => exact stops_pure
  | some candidate =>
      apply (Attempt.stops_questionOr (.bytes []) (Chain.Query.code candidate)
        Fault.Interrupts).bind
      intro code
      exact stops_pure

private theorem stops_throughBeacon (address : Text) :
    Stops Tolerable (throughBeacon address) Fault.Interrupts := by
  apply (stops_addressIn (.storage address beaconSlot)).bind
  intro beacon?
  cases beacon? with
  | none => exact stops_pure
  | some beacon =>
      exact (stops_addressIn (.call beacon implementationSelector none)).bind stops_withCode

private theorem stops_found (address implementation : Text) (code : Value)
    (viaBeacon : Bool) :
    Stops Tolerable (Attempt.ofExcept (found address implementation code viaBeacon))
      Fault.Interrupts := by
  apply stops_ofExcept
  intro fault refused
  rcases cases_of_bind_eq_error refused with spelling | ⟨digits, _, impossible⟩
  · exact Fault.interrupts_of_ofMisuse spelling
  · cases impossible

/-- A search for an implementation stops only at values of the wrong kind. -/
theorem stops_resolve (address : Text) :
    Stops Tolerable (resolve address) Fault.Interrupts := by
  apply (stops_addressIn (.storage address implementationSlot)).bind
  intro candidate?
  apply (stops_withCode candidate?).bind
  intro chosen?
  cases chosen? with
  | some pair => exact stops_found _ _ _ _
  | none =>
      apply (stops_throughBeacon address).bind
      intro beaconed?
      cases beaconed? with
      | none => exact stops_pure
      | some pair => exact stops_found _ _ _ _

end Proxy

/-! ### Searching for signatures -/

namespace Signature

/-- Lookups that have no fatal fault as long as the replies are allowed. -/
def AreTolerable (allowed : Query → Reply → Prop) (lookups : List Lookup) : Prop :=
  ∀ lookup ∈ lookups, ∀ selector,
    Stops allowed (lookup selector) fun fault => fault.isFatal = false

private theorem stops_lookup (service : Service) (selector : Text) :
    Stops (fun _ reply => reply.IsOrdinary) (service.lookup selector)
      fun fault => fault.isFatal = false :=
  (Attempt.stops_questionOr .null (Query.page service selector) _).bind fun _ => stops_pure

/-- The services stop no search as long as they have no fatal fault. -/
theorem defaultLookups_areTolerable :
    AreTolerable (fun _ reply => reply.IsOrdinary) defaultLookups := by
  intro lookup member selector
  rcases List.mem_pair.mp member with rfl | rfl
  · exact stops_lookup .openChain selector
  · exact stops_lookup .fourByte selector

theorem areTolerable_of_fixed {answers : Query → Reply} {lookups : List Lookup}
    (ordinary : ∀ lookup ∈ lookups, ∀ selector fault,
      (lookup selector).run.answeredBy answers = .error fault → fault.isFatal = false) :
    AreTolerable (fun query reply => reply = answers query) lookups := by
  intro lookup member selector exchanges fault fixed stopped
  exact ordinary lookup member selector fault (stopped.eq_answeredBy fixed).symm

private theorem AreTolerable.answerWith {allowed : Query → Reply → Prop}
    {lookups : List Lookup} (tolerable : AreTolerable allowed lookups) :
    AnswerWith (fun _ => True) allowed lookups := by
  intro lookup member selector exchanges outcome permitted path
  cases outcome with
  | ok answer => exact Or.inl ⟨answer, rfl, trivial⟩
  | error fault =>
      exact Or.inr ⟨fault, rfl, tolerable lookup member selector exchanges fault permitted path⟩

theorem resolve_answers {allowed : Query → Reply → Prop} {lookups : List Lookup}
    {cache later : Cache} {selector : Text} {exchanges : List (Query × Reply)}
    {outcome : Except Fault Value} (tolerable : AreTolerable allowed lookups)
    (permitted : ∀ exchange ∈ exchanges, allowed exchange.1 exchange.2)
    (path : Path (resolve lookups cache selector) exchanges (outcome, later)) :
    ∃ value, outcome = .ok value := by
  obtain ⟨⟨value, same, _⟩, _⟩ :=
    resolve_keeps tolerable.answerWith trivial (fun _ _ _ => trivial) permitted path
  exact ⟨value, same⟩

end Signature

/-! ### The steps of a survey -/

namespace Analysis

/-- What a client gives: code that is bytes or a fault that can interrupt, and anything but
a fatal fault otherwise. -/
structure IsGiven (query : Chain.Query) (reply : Reply) : Prop where
  ordinary : reply.IsOrdinary
  code : ∀ account, query = .code account →
    reply.HoldsBytes ∧ ∀ fault, reply = .error fault → fault.Interrupts

/-- Replies that a client may give and of which the sources of signatures allow their
own. -/
def Permits (allowed : Signature.Query → Reply → Prop) : Query → Reply → Prop
  | .chain query, reply => IsGiven query reply
  | .signature query, reply => allowed query reply

section Steps

variable {allowed : Signature.Query → Reply → Prop}

private theorem chain_permitted {inner : List (Chain.Query × Reply)}
    (permitted : ∀ exchange ∈ inner.map (Prod.map Query.chain id),
      Permits allowed exchange.1 exchange.2) :
    ∀ exchange ∈ inner, IsGiven exchange.1 exchange.2 :=
  fun exchange member => permitted _ (List.mem_map.mpr ⟨exchange, member, rfl⟩)

private theorem stops_code (soFar : Report) (address : Text) :
    Stops (Permits allowed) (Stage.ofChain soFar (Attempt.question (.code address)))
      fun stop => stop.fault.Interrupts := by
  intro exchanges stop permitted path
  obtain ⟨inner, ended, rfl, asked, same⟩ := (Stage.path_ofChain_iff ..).mp path
  have given := chain_permitted permitted
  rw [(Attempt.path_question_iff ..).mp asked] at given
  cases ended with
  | ok code => cases same
  | error fault =>
      cases same
      exact ((given _ (List.mem_cons_self ..)).code address rfl).2 fault rfl

private theorem stops_implementation (soFar : Report) (address : Text) :
    Stops (Permits allowed) (Stage.ofChain soFar (Proxy.resolve address))
      fun stop => stop.fault.Interrupts := by
  intro exchanges stop permitted path
  obtain ⟨inner, ended, rfl, searched, same⟩ := (Stage.path_ofChain_iff ..).mp path
  have given := chain_permitted permitted
  cases ended with
  | ok resolution => cases same
  | error fault =>
      cases same
      exact Proxy.stops_resolve address inner fault
        (fun exchange member => (given exchange member).ordinary) searched

private theorem stops_implementationCode (soFar : Report) (resolution : Proxy.Resolution) :
    Stops (Permits allowed) (Stage.ofExcept soFar (implementationCode resolution))
      fun stop => stop.fault.Interrupts := by
  intro exchanges stop _ path
  obtain ⟨_, same⟩ := (path_done_iff ..).mp path
  unfold implementationCode at same
  cases read : Hex.read (resolution.implementationBytecode.drop 2) with
  | ok code =>
      rw [read] at same
      cases same
  | error position =>
      rw [read] at same
      cases same
      exact ⟨rfl, rfl⟩

theorem stops_locate (followsProxy : Bool) (address : Text) :
    Stops (Permits allowed) (locate followsProxy address)
      fun stop => stop.fault.Interrupts := by
  cases followsProxy with
  | false => exact (stops_code _ address).bind fun code => stops_pure
  | true =>
      apply (stops_implementation _ address).bind
      intro resolution
      change Stops _ (if resolution.isProxy then _ else _) _
      split
      · exact (stops_implementationCode _ resolution).bind fun code => stops_pure
      · exact (stops_code _ address).bind fun code => stops_pure

theorem describe_interrupts {lookups : List Signature.Lookup} {cache : Signature.Cache}
    {selectors : List Text} {exchanges : List (Signature.Query × Reply)} {fault : Fault}
    (tolerable : Signature.AreTolerable allowed lookups)
    (permitted : ∀ exchange ∈ exchanges, allowed exchange.1 exchange.2)
    (path : Path (describe lookups cache selectors) exchanges (.error fault)) :
    fault.Interrupts := by
  induction selectors generalizing cache exchanges with
  | nil =>
      obtain ⟨_, impossible⟩ := (path_done_iff ..).mp path
      cases impossible
  | cons selector rest ih =>
      obtain ⟨front, behind, ⟨outcome, later⟩, rfl, resolved, onward⟩ :=
        (path_andThen_iff ..).mp path
      obtain ⟨ofFront, ofBehind⟩ := List.forall_mem_append.mp permitted
      obtain ⟨value, rfl⟩ := Signature.resolve_answers tolerable ofFront resolved
      simp only at onward
      cases classified : (Except.ok value).bind (Signature.classifyValue selector) with
      | error refused =>
          rw [classified] at onward
          obtain ⟨_, same⟩ := (path_done_iff ..).mp onward
          cases same
          obtain ⟨cause, rfl⟩ := Signature.classifyValue_error classified
          exact Fault.misuse_interrupts cause
      | ok info =>
          rw [classified] at onward
          obtain ⟨others, told, same⟩ := (path_andThen_done_iff ..).mp onward
          cases others with
          | ok others => cases same
          | error refused =>
              cases same
              exact ih ofBehind told

theorem stops_inspect {lookups : List Signature.Lookup}
    (tolerable : Signature.AreTolerable allowed lookups) (located : Report)
    (code : List UInt8) :
    Stops (Permits allowed) (inspect lookups located (.bytes code))
      fun stop => stop.fault.Interrupts := by
  cases code with
  | nil =>
      rw [inspect_nil]
      exact stops_pure
  | cons first rest =>
      rw [inspect_cons]
      refine Stops.bind ?_ fun infos => stops_pure
      intro exchanges stop permitted path
      obtain ⟨inner, ended, rfl, told, same⟩ := (Stage.path_ofSources_iff ..).mp path
      cases ended with
      | ok infos => cases same
      | error fault =>
          cases same
          exact describe_interrupts tolerable
            (fun exchange member => permitted _ (List.mem_map.mpr ⟨exchange, member, rfl⟩))
            told

theorem failure_of_interrupts {stop : Interruption}
    (interrupts : stop.fault.Interrupts) :
    stop.failure = .interrupted stop.fault stop.soFar := by
  unfold Interruption.failure
  rw [interrupts.ordinary, interrupts.otherwise]
  rfl

/-- A survey of a valid address that fails is interrupted, and the report so far comes with
the fault. -/
theorem survey_failure_isInterrupted {plan : Plan} {text address : Text}
    {exchanges : List (Query × Reply)} {failure : Failure}
    (valid : Address.validate? text = some address)
    (tolerable : Signature.AreTolerable allowed plan.lookups)
    (permitted : ∀ exchange ∈ exchanges, Permits allowed exchange.1 exchange.2)
    (path : Path (survey plan (.text text)) exchanges (.error failure)) :
    ∃ fault soFar, failure = .interrupted fault soFar := by
  rw [survey_of_valid plan valid] at path
  obtain ⟨outcome, steps, same⟩ := (path_andThen_done_iff ..).mp path
  cases outcome with
  | ok report => cases same
  | error stop =>
      cases same
      refine ⟨stop.fault, stop.soFar, failure_of_interrupts ?_⟩
      rcases (path_bind_iff ..).mp steps with
        ⟨early, equal, stopped⟩ | ⟨⟨located, value⟩, first, rest, rfl, found, onward⟩
      · cases equal
        exact stops_locate _ address exchanges stop permitted stopped
      · obtain ⟨ofFirst, ofRest⟩ := List.forall_mem_append.mp permitted
        -- Bytes are never refused as bytecode, which would be passed on as it is.
        have bytes : CodeIsBytes first := fun account reply member =>
          ((ofFirst _ member).code account rfl).1
        obtain ⟨code, rfl, _⟩ :=
          (locate_isLocated (Address.validate?_isCanonical valid) found).answered bytes
        rcases (path_bind_iff ..).mp onward with
          ⟨early, equal, stopped⟩ | ⟨report, second, third, rfl, _, calls⟩
        · cases equal
          exact stops_inspect tolerable located code rest stop ofRest stopped
        · have ofThird := (List.forall_mem_append.mp ofRest).2
          rcases (path_bind_iff ..).mp calls with
            ⟨early, equal, stopped⟩ | ⟨outcomes, fourth, fifth, rfl, _, ended⟩
          · have ordinary : ∀ exchange ∈ third,
                (∃ asked, exchange.1 = .chain asked) → exchange.2.IsOrdinary := by
              rintro ⟨query, reply⟩ member ⟨asked, rfl⟩
              exact (ofThird _ member).ordinary
            obtain ⟨outcomes, impossible, _⟩ := yields_invoke _ _ _ third _ ordinary stopped
            cases impossible
          · obtain ⟨_, impossible⟩ := (path_done_iff ..).mp ended
            cases impossible

end Steps

end Analysis
end ContractSurvey
