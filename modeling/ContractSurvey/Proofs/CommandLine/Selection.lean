/-
The network that the command chooses.

Without a server and without a name the command probes the networks and takes the first one
that has the code.  The survey that follows asks the same chain again, and with fixed replies
it finds what the probe has found: an account that is a proxy of the same implementation, or
none.  Where no network has the code nothing is asked behind the probe.
-/

import ContractSurvey.CommandLine.Command
import ContractSurvey.Proofs.Analysis.Completion
import ContractSurvey.Proofs.Network.Probe

namespace ContractSurvey
namespace CommandLine

open Dialogue

/-! ### The first network with code -/

theorem selectFound_of_absent {network : Network} {check : Network.Check}
    (absent : check.isContract = false) (followsProxy : Bool)
    (checked : List (Network × Network.Check)) :
    selectFound followsProxy ((network, check) :: checked) =
      selectFound followsProxy checked := by
  have passed : ¬check.isContract = true := by
    rw [absent]
    exact Bool.false_ne_true
  unfold selectFound
  rw [List.filter_cons, if_neg passed]

theorem selectFound_of_found (network : Network) {check : Network.Check}
    (found : check.isContract = true) (followsProxy : Bool)
    (checked : List (Network × Network.Check)) :
    ∃ others, selectFound followsProxy ((network, check) :: checked) =
      .chosen network (check.isProxy || followsProxy) (foundLines check others) := by
  unfold selectFound
  rw [List.filter_cons, if_pos found]
  exact ⟨_, rfl⟩

/-- The first network that has the code is chosen, and by its own check. -/
structure IsFirst (replies : Network.Query → Reply) (address : Text)
    (networks : List Network) (checks : List Network.Check) (before : List Network)
    (network : Network) (check : Network.Check) : Prop where
  split : ∃ after, networks = before ++ network :: after
  absent : ∀ other ∈ before, ¬other.HasCode replies address
  coded : network.HasCode replies address
  own : checks[before.length]? = some check
  tells : check.Tells replies address network

theorem IsFirst.mem {replies : Network.Query → Reply} {address : Text}
    {networks : List Network} {checks : List Network.Check} {before : List Network}
    {network : Network} {check : Network.Check}
    (first : IsFirst replies address networks checks before network check) :
    network ∈ networks := by
  obtain ⟨after, split⟩ := first.split
  rw [split]
  exact List.mem_append_right before (List.mem_cons_self ..)

theorem selectFound_cases {replies : Network.Query → Reply} {address : Text}
    {networks : List Network} {checks : List Network.Check}
    (placed : List.Forall₂ (Network.Check.Tells replies address) networks checks)
    (followsProxy : Bool) :
    ((∀ network ∈ networks, ¬network.HasCode replies address) ∧
        selectFound followsProxy (networks.zip checks) = .absent) ∨
      ∃ before network check others,
        IsFirst replies address networks checks before network check ∧
        selectFound followsProxy (networks.zip checks) =
          .chosen network (check.isProxy || followsProxy) (foundLines check others) := by
  -- Networks and checks are walked together: the head is chosen or passed over.
  induction placed with
  | nil => exact Or.inl ⟨List.forall_mem_nil _, rfl⟩
  | @cons network check networks checks tells _ ih =>
      rw [List.zip_cons_cons]
      cases found : check.isContract with
      | true =>
          obtain ⟨others, chosen⟩ :=
            selectFound_of_found network found followsProxy (networks.zip checks)
          refine Or.inr ⟨[], network, check, others, ?_, chosen⟩
          exact ⟨⟨networks, rfl⟩, List.forall_mem_nil _, tells.isContract.mp found, rfl, tells⟩
      | false =>
          have uncoded : ¬network.HasCode replies address := by
            intro coded
            rw [tells.isContract.mpr coded] at found
            cases found
          rw [selectFound_of_absent found]
          rcases ih with
            ⟨none, absent⟩ | ⟨before, chosen, own, others, first, selected⟩
          · exact Or.inl ⟨List.forall_mem_cons.mpr ⟨uncoded, none⟩, absent⟩
          · obtain ⟨⟨after, rfl⟩, absent, coded, stands, tellsOwn⟩ := first
            refine Or.inr ⟨network :: before, chosen, own, others, ?_, selected⟩
            exact ⟨⟨after, rfl⟩, List.forall_mem_cons.mpr ⟨uncoded, absent⟩, coded, stands,
              tellsOwn⟩

/-! ### The command by its parts -/

section Parts

variable {surroundings : Surroundings} {options : Options} {address : Text}
  {replies : Query → Reply}

/-- The probe of the command. -/
def probing (surroundings : Surroundings) (address : Text) :
    Attempt Network.Query (List Network.Check) :=
  Network.probe surroundings.settings.callLimit surroundings.probeSchedule address
    surroundings.networks

/-- The choice of the network is left to the probe. -/
structure LeavesChoice (surroundings : Surroundings) (options : Options) : Prop where
  server : given? options.server = none
  name : given? (options.network <|> surroundings.networkName) = none

theorem select_of_leavesChoice (leaves : LeavesChoice surroundings options) :
    select surroundings options address = (do
      let checks ← ExceptT.mk ((probing surroundings address).run.via fun query =>
        Dialogue.question (.ofProbe query))
      return selectFound options.followsProxy (surroundings.networks.zip checks)) := by
  unfold select
  rw [leaves.server, leaves.name]
  rfl

/-- What is chosen when the choice is left to the probe, and what is asked for that. -/
theorem select_answeredBy {checks : List Network.Check}
    (leaves : LeavesChoice surroundings options)
    (probed : (probing surroundings address).run.answeredBy
      (fun query => replies (.ofProbe query)) = .ok checks) :
    (select surroundings options address).run.answeredBy replies =
        .ok (selectFound options.followsProxy (surroundings.networks.zip checks)) ∧
      (select surroundings options address).run.asked replies =
        ((probing surroundings address).run.asked fun query =>
          replies (.ofProbe query)).map Query.ofProbe := by
  have through : (ExceptT.mk ((probing surroundings address).run.via fun query =>
      Dialogue.question (Query.ofProbe query))).run.answeredBy replies = .ok checks :=
    (answeredBy_via ..).trans probed
  rw [select_of_leavesChoice leaves]
  constructor
  · rw [answeredBy_bind, through]
    rfl
  · rw [asked_bind_of_ok through]
    exact (List.append_nil _).trans (asked_via_question ..)

private theorem surveyIn_answeredBy {network : Network} {followsProxy : Bool}
    {connected : Value} {report : Report}
    (connects : replies (.connect network) = .ok connected)
    (reported : (Analysis.survey (plan surroundings options network followsProxy)
      (.text address)).answeredBy (fun query => replies (.ofSurvey network query)) =
        .ok report) :
    (surveyIn surroundings options address network followsProxy).answeredBy replies =
        Outcome.ofReport options.document report ∧
      (surveyIn surroundings options address network followsProxy).asked replies =
        .connect network :: ((Analysis.survey (plan surroundings options network followsProxy)
          (.text address)).asked fun query =>
            replies (.ofSurvey network query)).map (Query.ofSurvey network) := by
  have through : ((Analysis.survey (plan surroundings options network followsProxy)
      (.text address)).via fun query =>
        Dialogue.question (Query.ofSurvey network query)).answeredBy replies = .ok report :=
    (answeredBy_via ..).trans reported
  unfold surveyIn
  constructor
  · rw [answeredBy, connects]
    simp only
    rw [answeredBy_andThen, through]
    rfl
  · rw [asked, connects]
    simp only
    rw [asked_andThen, through, asked_via_question]
    exact congrArg _ (List.append_nil _)

section Run

variable {arguments : List Text} {text : Text}

theorem run_of_survey (asks : read arguments = .survey text options)
    (valid : Address.validate? text = some address) :
    run surroundings arguments =
      (surveyValid surroundings options address).andThen fun outcome =>
        .done { outcome with
          log := if options.keepsLog then some surroundings.logName else none } := by
  unfold run conduct
  rw [asks]
  simp only
  rw [valid]

/-- Where no network is chosen, nothing is asked but for the choice. -/
theorem run_of_absent (asks : read arguments = .survey text options)
    (valid : Address.validate? text = some address)
    (selected : (select surroundings options address).run.answeredBy replies = .ok .absent) :
    ((run surroundings arguments).answeredBy replies).ending = .exited 1 ∧
      (run surroundings arguments).asked replies =
        (select surroundings options address).run.asked replies := by
  rw [run_of_survey asks valid]
  unfold surveyValid
  rw [answeredBy_andThen, asked_andThen, answeredBy_andThen, asked_andThen, selected]
  exact ⟨rfl, (List.append_nil _).trans (List.append_nil _)⟩

/-- A survey of a contract on the network that was chosen, which can be connected to. -/
theorem run_of_chosen {network : Network} {followsProxy : Bool} {lines : List Text}
    {connected : Value} {report : Report}
    (asks : read arguments = .survey text options)
    (valid : Address.validate? text = some address)
    (selected : (select surroundings options address).run.answeredBy replies =
      .ok (.chosen network followsProxy lines))
    (connects : replies (.connect network) = .ok connected)
    (reported : (Analysis.survey (plan surroundings options network followsProxy)
      (.text address)).answeredBy (fun query => replies (.ofSurvey network query)) =
        .ok report)
    (contract : report.isContract = true) :
    ((run surroundings arguments).answeredBy replies).ending = .exited 0 ∧
      ((run surroundings arguments).answeredBy replies).printed =
        Outcome.linesText lines ++ Outcome.linesText [report.render] ∧
      (run surroundings arguments).asked replies =
        (select surroundings options address).run.asked replies ++ .connect network ::
          ((Analysis.survey (plan surroundings options network followsProxy)
            (.text address)).asked fun query =>
              replies (.ofSurvey network query)).map (Query.ofSurvey network) := by
  obtain ⟨answered, asked⟩ := surveyIn_answeredBy connects reported
  have exited : (Outcome.ofReport options.document report).ending = .exited 0 := by
    unfold Outcome.ofReport
    rw [contract]
    rfl
  rw [run_of_survey asks valid]
  unfold surveyValid
  rw [answeredBy_andThen, asked_andThen, answeredBy_andThen, asked_andThen, selected]
  simp only
  rw [answeredBy_andThen, asked_andThen, answered, asked]
  exact ⟨exited, rfl, (List.append_nil _).trans (congrArg _ (List.append_nil _))⟩

end Run

end Parts

/-! ### What the probe found and what the survey finds -/

/-- A report that says about an account what a check of it has said. -/
structure Agrees (check : Network.Check) (address : Text) (report : Report) : Prop where
  isContract : report.isContract = true
  isProxy : report.isProxy = check.isProxy
  targetAddress : report.targetAddress =
    if check.isProxy then check.implementation else address

section Command

variable {surroundings : Surroundings} {options : Options} {address : Text}
  {replies : Query → Reply}

theorem survey_agrees (options : Options) {network : Network} {check : Network.Check}
    (canonical : Address.IsCanonical address)
    (usual : network.IsUsual fun query => replies (.ofProbe query))
    (textual : Signature.AnswerWith Signature.IsTextual
      (fun query reply => reply = replies (.signature query)) Signature.defaultLookups)
    (coded : network.HasCode (fun query => replies (.ofProbe query)) address)
    (tells : check.Tells (fun query => replies (.ofProbe query)) address network) :
    ∃ report, (Analysis.survey
        (plan surroundings options network (check.isProxy || options.followsProxy))
        (.text address)).answeredBy (fun query => replies (.ofSurvey network query)) =
          .ok report ∧ Agrees check address report := by
  obtain ⟨resolution, resolved, proxied, named⟩ :=
    tells.resolution (tells.isContract.mpr coded)
  obtain ⟨_, code, present, given⟩ := coded
  -- The survey follows a proxy even if it was not told to: the check has seen it.
  have follows : resolution.isProxy = true →
      (check.isProxy || options.followsProxy) = true := by
    intro proxy
    rw [proxied, proxy]
    rfl
  obtain ⟨report, reported, contract, proxy, target⟩ :=
    Analysis.survey_reports_resolution
      (plan surroundings options network (check.isProxy || options.followsProxy))
      (fun query => replies (.ofSurvey network query))
      canonical textual usual.chain resolved follows present given
  refine ⟨report, reported, contract, proxy.trans proxied.symm, ?_⟩
  rw [target, proxied, named]
  rfl

/-- Left to choose, the command surveys the first network that has the code, prints a report
that agrees with the check of that network, and asks nobody else behind the probe.  Where no
network has the code it ends behind the probe. -/
theorem run_agrees_with_probe {arguments : List Text} {text : Text}
    (asks : read arguments = .survey text options)
    (valid : Address.validate? text = some address)
    (leaves : LeavesChoice surroundings options)
    (usual : ∀ network ∈ surroundings.networks,
      network.IsUsual fun query => replies (.ofProbe query))
    (textual : Signature.AnswerWith Signature.IsTextual
      (fun query reply => reply = replies (.signature query)) Signature.defaultLookups) :
    let onNetworks : Network.Query → Reply := fun query => replies (.ofProbe query)
    let probed := ((probing surroundings address).run.asked onNetworks).map Query.ofProbe
    let ended := (run surroundings arguments).answeredBy replies
    ∃ checks, (probing surroundings address).run.answeredBy onNetworks = .ok checks ∧
      ((∃ network ∈ surroundings.networks, network.HasCode onNetworks address) →
        ∃ before network check others report,
          IsFirst onNetworks address surroundings.networks checks before network check ∧
          Agrees check address report ∧
          ended.ending = .exited 0 ∧
          ended.printed =
            Outcome.linesText (foundLines check others) ++ Outcome.linesText [report.render] ∧
          let survey := Analysis.survey
            (plan surroundings options network (check.isProxy || options.followsProxy))
            (.text address)
          let onNetwork := fun query => replies (.ofSurvey network query)
          survey.answeredBy onNetwork = .ok report ∧
            (run surroundings arguments).asked replies =
              probed ++ .connect network ::
                (survey.asked onNetwork).map (Query.ofSurvey network)) ∧
      ((∀ network ∈ surroundings.networks, ¬network.HasCode onNetworks address) →
        ended.ending = .exited 1 ∧ (run surroundings arguments).asked replies = probed) := by
  intro onNetworks probed ended
  obtain ⟨checks, found, placed⟩ := Network.probe_answeredBy
    surroundings.settings.callLimit surroundings.probeSchedule address usual
  obtain ⟨selected, asked⟩ := select_answeredBy leaves found
  refine ⟨checks, found, ?_⟩
  rcases selectFound_cases placed options.followsProxy with
    ⟨none, absent⟩ | ⟨before, network, check, others, first, chosen⟩
  · rw [absent] at selected
    obtain ⟨exited, askedAll⟩ := run_of_absent asks valid selected
    constructor
    · intro coded
      obtain ⟨network, member, coded⟩ := coded
      exact absurd coded (none network member)
    · intro _
      exact ⟨exited, askedAll.trans asked⟩
  · rw [chosen] at selected
    constructor
    · intro _
      obtain ⟨report, reported, agrees⟩ := survey_agrees options
        (Address.validate?_isCanonical valid) (usual network first.mem) textual first.coded
        first.tells
      obtain ⟨connected, connects⟩ := first.coded.1
      obtain ⟨exited, printed, askedAll⟩ :=
        run_of_chosen asks valid selected connects reported agrees.isContract
      rw [asked] at askedAll
      exact ⟨before, network, check, others, report, first, agrees, exited, printed, reported,
        askedAll⟩
    · intro none
      exact absurd first.coded (none network first.mem)

end Command

/-! ### Proxies behind a network that cannot be reached -/

/-- Networks of which one cannot be reached, and on whose chains every account is a proxy of
one implementation. -/
def proxiesWhereReached : Query → Reply
  | .connect network =>
      if network.chainNumber = 1 then .error (.unreachable network.serverUrl) else .ok .null
  | .chain _ (.storage _ _) => .ok (.bytes (List.replicate 32 0x33))
  | .chain _ (.code _) => .ok (.bytes [0x63, 1, 2, 3, 4])
  | .chain _ (.call _ _ _) => .error (.status 404)
  | .signature _ => .error (.status 404)

def twoNetworks : Surroundings :=
  { program := "survey".toList
    logName := "survey.log".toList
    networks := (Network.known []).take 2
    probeSchedule := [1, 0] }

private theorem proxiesWhereReached_isUsual (network : Network) :
    network.IsUsual fun query => proxiesWhereReached (.ofProbe query) := by
  constructor
  case connection =>
    change Reply.IsOrdinary (if network.chainNumber = 1 then _ else _)
    split
    · exact (Reply.isOrdinary_error_iff _).mpr rfl
    · exact Reply.isOrdinary_ok _
  case chain =>
    intro query
    change Proxy.Allowed query (proxiesWhereReached (.chain network query))
    cases query with
    | storage account slot => exact ⟨Reply.holdsBytes_bytes _, Reply.isOrdinary_ok _⟩
    | code account => exact ⟨Reply.holdsBytes_bytes _, Reply.isOrdinary_ok _⟩
    | call target data sender =>
        exact ⟨Reply.holdsBytes_error _, (Reply.isOrdinary_error_iff _).mpr rfl⟩

private theorem defaultLookups_isTextual :
    Signature.AnswerWith Signature.IsTextual
      (fun query reply => reply = proxiesWhereReached (.signature query))
      Signature.defaultLookups := by
  intro lookup member selector exchanges outcome fixed path
  have same : outcome = (lookup selector).run.answeredBy
      fun query => proxiesWhereReached (.signature query) := path.eq_answeredBy fixed
  rw [same]
  rcases List.mem_pair.mp member with rfl | rfl
  · exact Or.inl ⟨_, rfl, Or.inr ⟨selector, rfl⟩⟩
  · exact Or.inl ⟨_, rfl, Or.inr ⟨selector, rfl⟩⟩

theorem run_twoNetworks_agrees_with_probe :
    let account := "0x".toList ++ List.replicate 40 'a'
    let ended := (run twoNetworks [account, "--batch".toList]).answeredBy proxiesWhereReached
    ∃ check others report, check.network = "BSC".toList ∧ check.isProxy = true ∧
      check.implementation = "0x".toList ++ List.replicate 40 '3' ∧
      Agrees check (Address.checksummed (List.replicate 40 'a')) report ∧
      ended.ending = .exited 0 ∧
      ended.printed = Outcome.linesText (foundLines check others) ++
        Outcome.linesText [report.render] := by
  intro account ended
  let address := Address.checksummed (List.replicate 40 'a')
  have asks : read [account, "--batch".toList] = .survey account { usesBatch := true } := by
    decide +kernel
  have valid : Address.validate? account = some address := by
    decide +kernel
  have leaves : LeavesChoice twoNetworks { usesBatch := true } := ⟨rfl, rfl⟩
  obtain ⟨checks, found, chosen, _⟩ := run_agrees_with_probe asks valid leaves
    (fun network _ => proxiesWhereReached_isUsual network)
    defaultLookups_isTextual
  have shown : ((probing twoNetworks address).run.answeredBy fun query =>
      proxiesWhereReached (.ofProbe query)).toOption.map (fun checks =>
        checks.map fun check =>
          (check.isContract, check.network, check.isProxy, check.implementation)) =
      some [(false, "ETH".toList, false, Address.zeroAddress),
        (true, "BSC".toList, true, "0x".toList ++ List.replicate 40 '3')] := by
    decide +kernel
  rw [found] at shown
  have coded : ∃ network ∈ twoNetworks.networks, network.HasCode
      (fun query => proxiesWhereReached (.ofProbe query)) address := by
    refine ⟨_, List.mem_cons_of_mem _ (List.mem_singleton_self _), ⟨.null, rfl⟩, ?_⟩
    exact ⟨_, List.cons_ne_nil _ _, rfl⟩
  obtain ⟨before, network, check, others, report, first, agrees, exited, printed, _⟩ :=
    chosen coded
  have seen : (check.isContract, check.network, check.isProxy, check.implementation) ∈
      checks.map fun check =>
        (check.isContract, check.network, check.isProxy, check.implementation) :=
    List.mem_map_of_mem (List.mem_of_getElem? first.own)
  have listed : checks.map _ = _ := Option.some.inj shown
  rw [listed, first.tells.isContract.mpr first.coded] at seen
  obtain ⟨named, proxied, implemented⟩ : check.network = "BSC".toList ∧
      check.isProxy = true ∧ check.implementation = "0x".toList ++ List.replicate 40 '3' := by
    simpa using seen
  exact ⟨check, others, report, named, proxied, implemented, agrees, exited, printed⟩

end CommandLine
end ContractSurvey
