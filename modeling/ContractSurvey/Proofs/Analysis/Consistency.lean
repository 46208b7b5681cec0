/-
What every report keeps to.

A report that a survey gives fits together: its parts speak about the same target, list the
same functions in the same order, and hold one outcome for each function that can be called
and one decoded text for each call that succeeded.  The outside may change its mind between
questions; only its replies about code have to be bytes or faults.
-/

import ContractSurvey.Proofs.Analysis.Invocation
import ContractSurvey.Proofs.Analysis.Location
import ContractSurvey.Proofs.Analysis.Requests

namespace ContractSurvey
namespace Analysis

open Dialogue

/-! ### Outcomes -/

/-- Outcomes under distinct selectors are entered as they are. -/
theorem conclude_of_nodup (report : Report) {outcomes : List Call.Outcome}
    (distinct : (outcomes.map (·.selector)).Nodup) :
    conclude report outcomes = { report with
      outcomes := outcomes.map fun outcome => (outcome.selector, outcome)
      decoded := (outcomes.filter (·.succeeded)).map fun outcome =>
        (outcome.selector, ReturnData.decode (.spelled outcome.returnData)) } := by
  unfold conclude
  rw [Register.ofEntries_of_nodup, Register.ofEntries_of_nodup]
  · rw [List.map_map]
    exact distinct.sublist (List.filter_sublist.map _)
  · rw [List.map_map]
    exact distinct

/-! ### Reports -/

/-- What holds of a report on a text, given the exchanges that led to it. -/
structure IsConsistent (text : Text) (exchanges : List (Query × Reply))
    (report : Report) : Prop where
  address : ∃ bytes : List UInt8, bytes.length = Address.byteCount ∧
    Hex.Spells (Hex.dropMarker (Text.stripped text)) bytes ∧
    report.address = Address.checksummed (Hex.ofBytes bytes)
  targetOfProxy : ∀ resolution, report.proxy = some resolution →
    resolution.isProxy = true → report.targetAddress = resolution.implementationAddress
  targetOtherwise : report.isProxy = false → report.targetAddress = report.address
  withoutCode : report.isContract = false →
    report.bytecodeSize = 0 ∧ report.selectorCount = 0 ∧ report.signatures = [] ∧
      report.outcomes = [] ∧ report.decoded = []
  withCode : report.isContract = true → ∃ code : Bytecode,
    (Query.chain (.code report.targetAddress), Except.ok (.bytes code)) ∈ exchanges ∧
      code ≠ [] ∧ report.bytecodeSize = code.length ∧
      report.signatures.keys = code.selectors
  signatures : ∀ entry ∈ report.signatures, entry.2.selector = entry.1
  selectorCount : report.selectorCount = report.signatures.length
  outcomeKeys : report.outcomes.keys =
    Register.keys (report.signatures.filter fun entry => entry.2.isCallable)
  outcomes : ∀ entry ∈ report.outcomes,
    entry.2.selector = entry.1 ∧ entry.2.IsConsistent
  decoded : report.decoded =
    (report.outcomes.filter fun entry => entry.2.succeeded).map fun entry =>
      (entry.1, ReturnData.decode (.spelled entry.2.returnData))

theorem isProxy_of_proxy {report : Report} {resolution : Proxy.Resolution}
    (held : report.proxy = some resolution) : report.isProxy = resolution.isProxy := by
  unfold Report.isProxy
  rw [held]

def concluded (located : Report) (code : Bytecode) (infos : List Signature.Info)
    (outcomes : List Call.Outcome) : Report :=
  { inspected located code infos with
    outcomes := outcomes.map fun outcome => (outcome.selector, outcome)
    decoded := (outcomes.filter (·.succeeded)).map fun outcome =>
      (outcome.selector, ReturnData.decode (.spelled outcome.returnData)) }

/-- A report fits together when its functions are those of the code that was found and its
outcomes stand under the selectors of the functions that can be called. -/
theorem concluded_isConsistent {text address : Text} {exchanges : List (Query × Reply)}
    {located : Report} {code : Bytecode} {infos : List Signature.Info}
    {outcomes : List Call.Outcome} (valid : Address.validate? text = some address)
    (known : IsLocated address exchanges located (.bytes code))
    (bytes : CodeIsBytes exchanges)
    (listed : infos.map (·.selector) = code.selectors)
    (answered : outcomes.map (·.selector) =
      (infos.filter (·.isCallable)).map (·.selector))
    (consistent : ∀ outcome ∈ outcomes, outcome.IsConsistent) :
    IsConsistent text exchanges (concluded located code infos outcomes) := by
  have named : located.address = address := congrArg Report.address known.blank
  have target := known.target
  have empty : code = [] → infos = [] ∧ outcomes = [] := by
    rintro rfl
    rw [Bytecode.selectors_nil] at listed
    have none := List.map_eq_nil_iff.mp listed
    rw [none] at answered
    exact ⟨none, List.map_eq_nil_iff.mp answered⟩
  constructor
  case address =>
    obtain ⟨bytes, twenty, spells, same⟩ := Address.exists_spells_of_validate? valid
    exact ⟨bytes, twenty, spells, named.trans same⟩
  case targetOfProxy =>
    intro resolution held proxied
    change located.proxy = some resolution at held
    rw [held] at target
    exact target.trans (if_pos proxied)
  case targetOtherwise =>
    intro plain
    change located.targetAddress = located.address
    rw [named]
    change located.isProxy = false at plain
    cases held : located.proxy with
    | none =>
        rw [held] at target
        exact target
    | some resolution =>
        rw [held] at target
        rw [isProxy_of_proxy held] at plain
        exact target.trans (if_neg (by rw [plain]; exact Bool.false_ne_true))
  case withoutCode =>
    intro absent
    change (!code.isEmpty) = false at absent
    have none : code = [] := by simpa using absent
    obtain ⟨noInfos, noOutcomes⟩ := empty none
    rw [none, noInfos, noOutcomes]
    refine ⟨rfl, ?_, rfl, rfl, rfl⟩
    change ((Bytecode.selectors []).length : Int) = 0
    rw [Bytecode.selectors_nil]
    rfl
  case withCode =>
    intro present
    change (!code.isEmpty) = true at present
    obtain ⟨content, same, asked⟩ := known.answered bytes
    cases same
    refine ⟨code, asked, by simpa using present, rfl, ?_⟩
    change (infos.map fun info => (info.selector, info)).map Prod.fst = _
    rw [List.map_map, ← listed]
    rfl
  case signatures =>
    intro entry member
    obtain ⟨info, _, rfl⟩ := List.mem_map.mp member
    rfl
  case selectorCount =>
    change (code.selectors.length : Int) = (infos.map _).length
    rw [← listed, List.length_map, List.length_map]
  case outcomeKeys =>
    change (outcomes.map fun outcome => (outcome.selector, outcome)).map Prod.fst =
      (((infos.map fun info => (info.selector, info)).filter _).map Prod.fst)
    rw [List.map_map, List.filter_map, List.map_map]
    exact answered
  case outcomes =>
    intro entry member
    obtain ⟨outcome, present, rfl⟩ := List.mem_map.mp member
    exact ⟨rfl, consistent outcome present⟩
  case decoded =>
    change (outcomes.filter _).map _ =
      ((outcomes.map fun outcome => (outcome.selector, outcome)).filter _).map _
    rw [List.filter_map, List.map_map]
    rfl

theorem survey_report_isConsistent {plan : Plan} {text : Text}
    {exchanges : List (Query × Reply)} {report : Report} (bytes : CodeIsBytes exchanges)
    (path : Path (survey plan (.text text)) exchanges (.ok report)) :
    IsConsistent text exchanges report := by
  obtain ⟨address, valid, steps⟩ := path_survey_ok path
  obtain ⟨located, value, found, outcomes, first, second, third, rfl, locating, inspecting,
    invoking, rfl⟩ := path_stages_ok steps
  have known := locate_isLocated (Address.validate?_isCanonical valid) locating
  obtain ⟨code, rfl, _⟩ := known.answered bytes.left
  rw [known.blank] at inspecting
  obtain ⟨infos, listed, rfl⟩ := inspect_ok inspecting
  have made := invoke_answered invoking
  have selectors := Call.map_selector_of_answered made
  rw [map_selector_requests rfl listed] at selectors
  have distinct : (outcomes.map (·.selector)).Nodup := by
    rw [selectors]
    exact nodup_callable listed
  rw [conclude_of_nodup _ distinct, ← known.blank]
  have everywhere : IsLocated address (first ++ (second ++ third)) located (.bytes code) :=
    known.left
  exact concluded_isConsistent valid everywhere bytes listed selectors
    (Call.isConsistent_of_answered made)

/-- A contract with two functions, one of which gives a number while the other reverts. -/
def twoFunctions : Query → Reply
  | .chain (.code _) => .ok (.bytes [0x63, 1, 2, 3, 4, 0x63, 10, 11, 12, 13])
  | .chain (.call _ data _) =>
      if data = "0x01020304".toList then .ok (.bytes (Abi.word 7))
      else
        .error (.reported {
          details := [.text "execution reverted: paused".toList]
          note := none
          isFatal := false })
  | _ => .error (.status 404)

theorem survey_twoFunctions_isConsistent :
    let dialogue := survey {} (.text ("0x".toList ++ List.replicate 40 'a'))
    let exchanges := (dialogue.asked twoFunctions).map fun query =>
      (query, twoFunctions query)
    CodeIsBytes exchanges ∧ ∃ report, Path dialogue exchanges (.ok report) ∧
      report.decoded = [("0x01020304".toList, "7".toList)] ∧
      IsConsistent ("0x".toList ++ List.replicate 40 'a') exchanges report := by
  intro dialogue exchanges
  have bytes : CodeIsBytes exchanges := by
    intro account reply member
    obtain ⟨query, _, same⟩ := List.mem_map.mp member
    cases same
    rintro value given
    exact ⟨_, (Except.ok.inj given).symm⟩
  have path := path_answeredBy twoFunctions dialogue
  have shown : (dialogue.answeredBy twoFunctions).toOption.map (·.decoded) =
      some [("0x01020304".toList, "7".toList)] := by
    decide +kernel
  refine ⟨bytes, ?_⟩
  cases ended : dialogue.answeredBy twoFunctions with
  | error failure =>
      rw [ended] at shown
      cases shown
  | ok report =>
      rw [ended] at shown path
      exact ⟨report, path, Option.some.inj shown, survey_report_isConsistent bytes path⟩

end Analysis
end ContractSurvey
