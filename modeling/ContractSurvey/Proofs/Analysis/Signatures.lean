/-
When the signature services stop a survey.

A survey whose chain gives the target's code depends on the signature services in one way
only.  When the first value that a service gives for a selector is a text, or nothing is
given, the selector is classified by it; a first value of any other kind interrupts the
survey.  No error of a service and no page without a value ever does, and neither does a text
with half of a surrogate pair.
-/

import ContractSurvey.Proofs.Analysis.Inspection
import ContractSurvey.Proofs.Analysis.Invocation
import ContractSurvey.Proofs.Analysis.Location
import ContractSurvey.Proofs.Signature.Services

namespace ContractSurvey
namespace Analysis

open Dialogue Signature

/-! ### One selector -/

theorem described_default {answers : Signature.Query → Reply} {selector : Text}
    (ordinary : ∀ query, (answers query).IsOrdinary) :
    described defaultLookups answers selector =
      classifyValue selector ((firstGiven? answers selector).getD .null) := by
  unfold described
  rw [search_answeredBy ordinary]
  rfl

/-- What was given for a selector is a text of some code points, or nothing. -/
inductive ReadsAs : Option Value → Option (List Nat) → Prop
  | nothing : ReadsAs none none
  | text {value : Value} {points : List Nat} (spelled : value.points? = some points) :
      ReadsAs (some value) (some points)

/-- A selector is classified exactly by a text, or by nothing. -/
theorem described_default_ok_iff {answers : Signature.Query → Reply} {selector : Text}
    {info : Info} (ordinary : ∀ query, (answers query).IsOrdinary) :
    described defaultLookups answers selector = .ok info ↔
      ∃ signature, ReadsAs (firstGiven? answers selector) signature ∧
        info = classify selector signature := by
  rw [described_default ordinary]
  cases given : firstGiven? answers selector with
  | none =>
      constructor
      · intro classified
        obtain rfl := Except.ok.inj classified
        exact ⟨none, .nothing, rfl⟩
      · rintro ⟨signature, read, rfl⟩
        cases read with
        | nothing => exact classifyValue_null selector
  | some value =>
      constructor
      · intro classified
        rcases classifyValue_cases classified with ⟨absent, _⟩ | ⟨points, spelled, rfl⟩
        · have hit := isHit_of_firstGiven? given
          change value = .null at absent
          rw [absent] at hit
          cases hit
        · exact ⟨some points, .text spelled, rfl⟩
      · rintro ⟨signature, read, rfl⟩
        cases read with
        | text spelled => exact classifyValue_of_points selector spelled

theorem described_default_error {answers : Signature.Query → Reply} {selector : Text}
    {fault : Fault} (ordinary : ∀ query, (answers query).IsOrdinary)
    (failed : described defaultLookups answers selector = .error fault) :
    ∃ cause, fault = .misuse cause := by
  rw [described_default ordinary] at failed
  exact classifyValue_error failed

/-! ### Whole surveys -/

/-- What the services make of a survey of code: it gives a report exactly when no service
comes first with anything but a text, and the report classifies each selector by what was
given for it.  Everything else interrupts the survey. -/
structure IsDecidedBy (answers : Signature.Query → Reply) (code : Bytecode)
    (result : Except Failure Report) : Prop where
  reports : (∃ report, result = .ok report) ↔ ∀ selector ∈ code.selectors,
    ∃ signature, ReadsAs (firstGiven? answers selector) signature
  keys : ∀ report, result = .ok report → report.signatures.keys = code.selectors
  signatures : ∀ report, result = .ok report → ∀ entry ∈ report.signatures,
    ∃ signature, ReadsAs (firstGiven? answers entry.1) signature ∧
      entry.2 = classify entry.1 signature
  unknown : ∀ report, result = .ok report → ∀ entry ∈ report.signatures,
    firstGiven? answers entry.1 = none →
      entry.2.signature = none ∧ entry.2.isCallable = true
  failures : ∀ failure, result = .error failure →
    ∃ cause soFar, failure = .interrupted (.misuse cause) soFar

/-- What was given for each of the selectors, and the classification by it. -/
private def Classified (answers : Signature.Query → Reply) (selector : Text) (info : Info) :
    Prop :=
  ∃ signature, ReadsAs (firstGiven? answers selector) signature ∧
    info = classify selector signature

private theorem Classified.selector_eq {answers : Signature.Query → Reply} {selector : Text}
    {info : Info} (classified : Classified answers selector info) :
    info.selector = selector := by
  obtain ⟨signature, _, rfl⟩ := classified
  rfl

private theorem classified_of_mem {answers : Signature.Query → Reply}
    {selectors : List Text} {infos : List Info}
    (placed : List.Forall₂ (Classified answers) selectors infos) :
    ∀ info ∈ infos, Classified answers info.selector info := by
  induction placed with
  | nil => exact List.forall_mem_nil _
  | cons first _ ih =>
      refine List.forall_mem_cons.mpr ⟨?_, ih⟩
      rw [first.selector_eq]
      exact first

private theorem exists_classified {answers : Signature.Query → Reply}
    {selectors : List Text} {infos : List Info}
    (placed : List.Forall₂ (Classified answers) selectors infos) :
    ∀ selector ∈ selectors, ∃ info, Classified answers selector info := by
  induction placed with
  | nil => exact List.forall_mem_nil _
  | @cons selector info _ _ first _ ih =>
      exact List.forall_mem_cons.mpr ⟨⟨info, first⟩, ih⟩

theorem isDecidedBy_of_report {answers : Signature.Query → Reply} {code : Bytecode}
    {infos : List Info} {report : Report} (ordinary : ∀ query, (answers query).IsOrdinary)
    (listed : code.selectors.mapM (described defaultLookups answers) = .ok infos)
    (entered : report.signatures = infos.map fun info => (info.selector, info)) :
    IsDecidedBy answers code (.ok report) := by
  have placed : List.Forall₂ (Classified answers) code.selectors infos :=
    ((mapM_eq_ok_iff ..).mp listed).imp fun _ _ => (described_default_ok_iff ordinary).mp
  constructor
  case reports =>
    constructor
    · intro _ selector member
      obtain ⟨info, signature, given, _⟩ := exists_classified placed selector member
      exact ⟨signature, given⟩
    · intro _
      exact ⟨report, rfl⟩
  case keys =>
    rintro _ ⟨⟩
    have same : List.Forall₂ (· = ·) code.selectors (infos.map (·.selector)) :=
      List.forall₂_map_right_iff.mpr (placed.imp fun _ _ first => first.selector_eq.symm)
    rw [List.forall₂_eq_eq_eq] at same
    unfold Register.keys
    rw [entered, List.map_map, same]
    rfl
  case signatures =>
    rintro _ ⟨⟩ entry member
    rw [entered] at member
    obtain ⟨info, present, rfl⟩ := List.mem_map.mp member
    exact classified_of_mem placed info present
  case unknown =>
    rintro _ ⟨⟩ entry member absent
    rw [entered] at member
    obtain ⟨info, present, rfl⟩ := List.mem_map.mp member
    obtain ⟨signature, given, same⟩ := classified_of_mem placed info present
    rw [absent] at given
    cases given
    rw [same]
    exact ⟨rfl, rfl⟩
  case failures =>
    intro failure impossible
    cases impossible

theorem isDecidedBy_of_interruption {answers : Signature.Query → Reply} {code : Bytecode}
    {fault : Fault} (soFar : Report) (ordinary : ∀ query, (answers query).IsOrdinary)
    (failed : code.selectors.mapM (described defaultLookups answers) = .error fault) :
    IsDecidedBy answers code (.error (Interruption.failure ⟨fault, soFar⟩)) := by
  obtain ⟨selector, member, refused⟩ := exists_of_mapM_eq_error failed
  obtain ⟨cause, rfl⟩ := described_default_error ordinary refused
  constructor
  case reports =>
    constructor
    · rintro ⟨report, impossible⟩
      cases impossible
    · intro texts
      obtain ⟨signature, given⟩ := texts selector member
      have classified := (described_default_ok_iff ordinary).mpr ⟨signature, given, rfl⟩
      rw [refused] at classified
      cases classified
  case keys =>
    intro report impossible
    cases impossible
  case signatures =>
    intro report impossible
    cases impossible
  case unknown =>
    intro report impossible
    cases impossible
  case failures =>
    intro failure same
    exact ⟨cause, soFar, (Except.error.inj same).symm⟩

private theorem onward_isDecidedBy {plan : Plan} {address target : Text}
    {proxy : Option Proxy.Resolution} {code : Bytecode} {exchanges : List (Query × Reply)}
    {outcome : Except Interruption Report} {answers : Signature.Query → Reply}
    (ordinary : ∀ query, (answers query).IsOrdinary)
    (fixed : ∀ query reply, (Query.signature query, reply) ∈ exchanges →
      reply = answers query)
    (allowed : ∀ query reply, (Query.chain query, reply) ∈ exchanges →
      Proxy.Allowed query reply)
    (path : Path (do
      let inspected ← inspect defaultLookups
        { address := address, targetAddress := target, proxy := proxy } (.bytes code)
      let outcomes ← invoke plan inspected (requests inspected)
      return conclude inspected outcomes : Stage Report).run exchanges outcome) :
    IsDecidedBy answers code (outcome.mapError Interruption.failure) := by
  rcases (path_bind_iff ..).mp path with
    ⟨stop, rfl, stopped⟩ | ⟨report, front, behind, rfl, inspecting, calls⟩
  · have failed := inspect_fixed fixed stopped
    cases listed : code.selectors.mapM (described defaultLookups answers) with
    | ok infos =>
        rw [listed] at failed
        cases failed
    | error fault =>
        rw [listed] at failed
        cases failed
        exact isDecidedBy_of_interruption _ ordinary listed
  · have given := inspect_fixed
      (fun query reply member => fixed query reply (List.mem_append_left behind member))
      inspecting
    cases listed : code.selectors.mapM (described defaultLookups answers) with
    | error fault =>
        rw [listed] at given
        cases given
    | ok infos =>
        rw [listed] at given
        cases given
        rcases (path_bind_iff ..).mp calls with
          ⟨stop, rfl, stopped⟩ | ⟨outcomes, third, none, rfl, _, ended⟩
        · have calm : ∀ exchange ∈ behind,
              (∃ asked, exchange.1 = .chain asked) → exchange.2.IsOrdinary := by
            rintro ⟨query, reply⟩ member ⟨asked, rfl⟩
            exact (allowed asked reply (List.mem_append_right front member)).2
          obtain ⟨outcomes, impossible, _⟩ := yields_invoke _ _ _ _ _ calm stopped
          cases impossible
        · obtain ⟨_, rfl⟩ := (path_done_iff ..).mp ended
          exact isDecidedBy_of_report ordinary listed rfl

/-- The services decide about a survey of a valid address when the chain gives the code of
the target and otherwise nothing but bytes and ordinary faults. -/
theorem survey_isDecidedBy_services {plan : Plan} {text address : Text}
    {exchanges : List (Query × Reply)} {result : Except Failure Report}
    {answers : Signature.Query → Reply} (standard : plan.lookups = defaultLookups)
    (valid : Address.validate? text = some address)
    (path : Path (survey plan (.text text)) exchanges result)
    (allowed : ∀ query reply, (Query.chain query, reply) ∈ exchanges →
      Proxy.Allowed query reply)
    (coded : TargetHasCode plan.followsProxy address exchanges)
    (fixed : ∀ query reply, (Query.signature query, reply) ∈ exchanges →
      reply = answers query)
    (ordinary : ∀ query, (answers query).IsOrdinary) :
    ∃ target code, IsTarget plan.followsProxy address exchanges target ∧
      (Query.chain (.code target), Except.ok (.bytes code)) ∈ exchanges ∧
      IsDecidedBy answers code result := by
  rw [survey_of_valid plan valid] at path
  obtain ⟨outcome, steps, rfl⟩ := (path_andThen_done_iff ..).mp path
  unfold stages at steps
  rw [standard] at steps
  rcases (path_bind_iff ..).mp steps with
    ⟨stop, rfl, stopped⟩ | ⟨⟨located, value⟩, first, rest, rfl, found, onward⟩
  · obtain ⟨located, code, impossible, _⟩ := locate_succeeds allowed coded stopped
    cases impossible
  · have foundAllowed : ∀ query reply, (Query.chain query, reply) ∈ first →
        Proxy.Allowed query reply :=
      fun query reply member => allowed query reply (List.mem_append_left rest member)
    obtain ⟨_, _, same, target⟩ := locate_succeeds foundAllowed coded.left found
    cases same
    have known := locate_isLocated (Address.validate?_isCanonical valid) found
    obtain ⟨code, rfl, answered⟩ := known.answered
      fun account reply member => (foundAllowed _ _ member).1
    refine ⟨located.targetAddress, code, target.left, List.mem_append_left rest answered, ?_⟩
    change Path (inspect defaultLookups located (.bytes code) >>= _).run _ _ at onward
    rw [known.blank] at onward
    exact onward_isDecidedBy ordinary
      (fun query reply member => fixed query reply (List.mem_append_right first member))
      (fun query reply member => allowed query reply (List.mem_append_right first member))
      onward

/-! ### A contract of one function -/

def oneFunction (openChain fourByte : Reply) : Query → Reply
  | .chain (.code _) => .ok (.bytes [0x63, 1, 2, 3, 4])
  | .chain _ => .ok (.bytes [])
  | .signature (.page .openChain _) => openChain
  | .signature (.page .fourByte _) => fourByte
  | .signature (.source _ _) => .error (.status 404)

def oneFunctionExchanges (openChain fourByte : Reply) (text : Text) :
    List (Query × Reply) :=
  ((survey {} (.text text)).asked (oneFunction openChain fourByte)).map fun query =>
    (query, oneFunction openChain fourByte query)

private theorem oneFunction_of_mem {openChain fourByte reply : Reply} {text : Text}
    {query : Query} (member : (query, reply) ∈ oneFunctionExchanges openChain fourByte text) :
    reply = oneFunction openChain fourByte query :=
  eq_reply_of_mem member

private theorem oneFunction_allowed (openChain fourByte : Reply) (query : Chain.Query) :
    Proxy.Allowed query (oneFunction openChain fourByte (.chain query)) := by
  constructor
  · intro value given
    cases query <;> exact ⟨_, (Except.ok.inj given).symm⟩
  · intro fault impossible
    cases query <;> cases impossible

private theorem oneFunction_hasCode (openChain fourByte : Reply) (text address : Text) :
    TargetHasCode false address (oneFunctionExchanges openChain fourByte text) := by
  intro target _ reply member
  exact ⟨_, oneFunction_of_mem member⟩

private theorem oneFunction_ordinary {openChain fourByte : Reply}
    (first : openChain.IsOrdinary) (second : fourByte.IsOrdinary) (query : Signature.Query) :
    (oneFunction openChain fourByte (.signature query)).IsOrdinary := by
  cases query with
  | page service selector =>
      cases service with
      | openChain => exact first
      | fourByte => exact second
  | source index selector =>
      rintro fault ⟨⟩
      rfl

def pageOf (body : String) : Reply :=
  Page.reply { status := 200, body := Text.utf8 body.toList }

private theorem pageOf_ordinary (body : String) : (pageOf body).IsOrdinary := by
  intro fault impossible
  change Except.ok _ = Except.error fault at impossible
  cases impossible

def oneFunctionAddress : Text :=
  "0xaAaAaAaaAaAaAaaAaAAAAAAAAaaaAaAaAaaAaaAa".toList

theorem survey_isDecidedBy_second_service :
    let first : Reply := .error (.status 503)
    let second := pageOf "\x7b\"results\": [\x7b\"text_signature\": \"total()\"\x7d]\x7d"
    let exchanges := oneFunctionExchanges first second oneFunctionAddress
    Address.validate? oneFunctionAddress = some oneFunctionAddress ∧
      TargetHasCode false oneFunctionAddress exchanges ∧
      ∃ code report, Path (survey {} (.text oneFunctionAddress)) exchanges (.ok report) ∧
        IsDecidedBy (fun query => oneFunction first second (.signature query)) code
          (.ok report) ∧
        report.signatures = [("0x01020304".toList,
          classify "0x01020304".toList (some (Text.codes "total()".toList)))] := by
  intro first second exchanges
  have valid : Address.validate? oneFunctionAddress = some oneFunctionAddress := by
    decide +kernel
  have coded : TargetHasCode false oneFunctionAddress exchanges :=
    oneFunction_hasCode first second oneFunctionAddress oneFunctionAddress
  have ordinary : ∀ query : Signature.Query,
      (oneFunction first second (.signature query)).IsOrdinary := by
    apply oneFunction_ordinary
    · intro fault same
      rw [← Except.error.inj same]
      rfl
    · exact pageOf_ordinary _
  have path := path_answeredBy (oneFunction first second)
    (survey {} (.text oneFunctionAddress))
  have shown : ((survey {} (.text oneFunctionAddress)).answeredBy
      (oneFunction first second)).toOption.map (·.signatures) =
        some [("0x01020304".toList,
          classify "0x01020304".toList (some (Text.codes "total()".toList)))] := by
    decide +kernel
  refine ⟨valid, coded, ?_⟩
  cases ended : (survey {} (.text oneFunctionAddress)).answeredBy
      (oneFunction first second) with
  | error failure =>
      rw [ended] at shown
      cases shown
  | ok report =>
      rw [ended] at shown path
      have allowed : ∀ query reply, (Query.chain query, reply) ∈ exchanges →
          Proxy.Allowed query reply := by
        intro query reply member
        rw [oneFunction_of_mem member]
        exact oneFunction_allowed first second query
      obtain ⟨target, code, _, _, decided⟩ := survey_isDecidedBy_services rfl valid path
        allowed coded (fun query reply member => oneFunction_of_mem member) ordinary
      exact ⟨code, report, path, decided, Option.some.inj shown⟩

/-- A number in the place of the signature interrupts a survey, although the chain gives
the code of the target and both services answer with pages. -/
theorem survey_interrupted_by_number :
    let first := pageOf
      "\x7b\"result\": \x7b\"function\": \x7b\"0x01020304\": [\x7b\"name\": 5\x7d]\x7d\x7d\x7d"
    let second := pageOf "\x7b\"results\": []\x7d"
    let exchanges := oneFunctionExchanges first second oneFunctionAddress
    Address.validate? oneFunctionAddress = some oneFunctionAddress ∧
      (∀ query reply, (Query.chain query, reply) ∈ exchanges →
        Proxy.Allowed query reply) ∧
      TargetHasCode false oneFunctionAddress exchanges ∧
      ∃ failure, Path (survey {} (.text oneFunctionAddress)) exchanges (.error failure) ∧
        failure.message = "Analysis of ".toList ++ oneFunctionAddress ++
          " failed: argument of type 'int' is not iterable".toList := by
  intro first second exchanges
  have path := path_answeredBy (oneFunction first second)
    (survey {} (.text oneFunctionAddress))
  have shown : (((survey {} (.text oneFunctionAddress)).answeredBy
      (oneFunction first second)).mapError Failure.message).map (fun _ => ()) =
        .error ("Analysis of ".toList ++ oneFunctionAddress ++
          " failed: argument of type 'int' is not iterable".toList) := by
    decide +kernel
  refine ⟨by decide +kernel, ?_, oneFunction_hasCode _ _ _ _, ?_⟩
  · intro query reply member
    rw [oneFunction_of_mem member]
    exact oneFunction_allowed first second query
  · cases ended : (survey {} (.text oneFunctionAddress)).answeredBy
        (oneFunction first second) with
    | ok report =>
        rw [ended] at shown
        cases shown
    | error failure =>
        rw [ended] at shown path
        exact ⟨failure, path, Except.error.inj shown⟩

end Analysis
end ContractSurvey
