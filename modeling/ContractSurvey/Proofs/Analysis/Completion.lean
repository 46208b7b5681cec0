/-
When a survey is finished.

A survey of a valid address whose lookups answer with texts has one way to fail: no
implementation was found behind the address, and the address' own code cannot be read.  A
slot, a beacon, a called function and the aggregator may give anything that bytes can be or
report an ordinary fault, and the survey still ends with a report.
-/

import ContractSurvey.Proofs.Analysis.Interruption
import ContractSurvey.Proofs.Analysis.Requests

namespace ContractSurvey

/-- A reply that is bytes, or a fault that a survey does not pass on as it is. -/
structure Reply.IsPlain (reply : Reply) : Prop where
  bytes : reply.HoldsBytes
  interrupts : ∀ fault, reply = .error fault → fault.Interrupts

theorem Reply.IsPlain.isOrdinary {reply : Reply} (plain : reply.IsPlain) :
    reply.IsOrdinary :=
  fun fault failed => (plain.interrupts fault failed).ordinary

theorem Reply.isPlain_bytes (content : List UInt8) : Reply.IsPlain (.ok (.bytes content)) :=
  ⟨holdsBytes_bytes content, nofun⟩

theorem Reply.isPlain_error {fault : Fault} (interrupts : fault.Interrupts) :
    Reply.IsPlain (.error fault) := by
  refine ⟨holdsBytes_error fault, ?_⟩
  intro other same
  rw [← Except.error.inj same]
  exact interrupts

namespace Analysis

open Dialogue

/-- Replies of chains that have a property, and replies that the sources of signatures
allow. -/
def Admits (onChain : Reply → Prop) (allowed : Signature.Query → Reply → Prop) :
    Query → Reply → Prop
  | .chain _, reply => onChain reply
  | .signature query, reply => allowed query reply

theorem Admits.mono {first second : Reply → Prop} {allowed : Signature.Query → Reply → Prop}
    (weaker : ∀ reply, first reply → second reply) {query : Query} {reply : Reply}
    (admitted : Admits first allowed query reply) : Admits second allowed query reply := by
  cases query with
  | chain query => exact weaker reply admitted
  | signature query => exact admitted

section Onward

variable {allowed : Signature.Query → Reply → Prop} {lookups : List Signature.Lookup}

theorem describe_succeeds {cache : Signature.Cache} {selectors : List Text}
    {exchanges : List (Signature.Query × Reply)}
    {outcome : Except Fault (List Signature.Info)}
    (textual : Signature.AnswerWith Signature.IsTextual allowed lookups)
    (keeps : cache.Keeps Signature.IsTextual)
    (permitted : ∀ exchange ∈ exchanges, allowed exchange.1 exchange.2)
    (path : Path (describe lookups cache selectors) exchanges outcome) :
    ∃ infos, outcome = .ok infos := by
  induction selectors generalizing cache exchanges outcome with
  | nil =>
      obtain ⟨_, rfl⟩ := (path_done_iff ..).mp path
      exact ⟨[], rfl⟩
  | cons selector rest ih =>
      obtain ⟨front, behind, ⟨ended, later⟩, rfl, resolved, onward⟩ :=
        (path_andThen_iff ..).mp path
      obtain ⟨ofFront, ofBehind⟩ := List.forall_mem_append.mp permitted
      obtain ⟨⟨signature, rfl, text⟩, stillKeeps⟩ :=
        Signature.resolve_keeps textual Signature.isTextual_null keeps ofFront resolved
      obtain ⟨info, classified⟩ := text.exists_info selector
      have described : (Except.ok signature).bind (Signature.classifyValue selector) =
          .ok info := classified
      simp only at onward
      rw [described] at onward
      obtain ⟨others, told, rfl⟩ := (path_andThen_done_iff ..).mp onward
      obtain ⟨infos, rfl⟩ := ih stillKeeps ofBehind told
      exact ⟨info :: infos, rfl⟩

theorem yields_inspect
    (textual : Signature.AnswerWith Signature.IsTextual allowed lookups)
    (address target : Text) (proxy : Option Proxy.Resolution) (code : List UInt8) :
    let located : Report := { address := address, targetAddress := target, proxy := proxy }
    Yields (Admits Reply.IsOrdinary allowed) (inspect lookups located (.bytes code))
      fun report => ∃ infos, report = inspected located code infos := by
  intro located exchanges outcome permitted path
  have succeeds : ∃ report, outcome = .ok report := by
    cases code with
    | nil =>
        rw [inspect_nil] at path
        obtain ⟨_, rfl⟩ := (path_done_iff ..).mp path
        exact ⟨_, rfl⟩
    | cons first rest =>
        rw [inspect_cons] at path
        rcases (path_bind_iff ..).mp path with
          ⟨stop, _, stopped⟩ | ⟨infos, front, behind, _, _, ended⟩
        · obtain ⟨inner, told, rfl, described, same⟩ :=
            (Stage.path_ofSources_iff ..).mp stopped
          obtain ⟨infos, rfl⟩ := describe_succeeds textual Signature.Cache.keeps_empty
            (fun exchange member => permitted _ (List.mem_map.mpr ⟨exchange, member, rfl⟩))
            described
          cases same
        · obtain ⟨_, rfl⟩ := (path_done_iff ..).mp ended
          exact ⟨_, rfl⟩
  obtain ⟨report, rfl⟩ := succeeds
  obtain ⟨infos, _, same⟩ := inspect_ok path
  exact ⟨report, rfl, infos, same⟩

/-- Once its code is found, a survey whose lookups answer with texts ends with a report. -/
theorem yields_onward {plan : Plan}
    (textual : Signature.AnswerWith Signature.IsTextual allowed plan.lookups)
    (address target : Text) (proxy : Option Proxy.Resolution) (code : List UInt8) :
    let located : Report := { address := address, targetAddress := target, proxy := proxy }
    Yields (Admits Reply.IsOrdinary allowed) (onward plan located (.bytes code))
      fun report => ∃ infos outcomes,
        report = conclude (inspected located code infos) outcomes := by
  intro located
  apply (yields_inspect textual address target proxy code).bind
  rintro report ⟨infos, rfl⟩
  have ordinary : Yields (Admits Reply.IsOrdinary allowed)
      (invoke plan (inspected located code infos) (requests (inspected located code infos)))
      fun _ => True := by
    apply (yields_invoke plan _ _).of_allowed
    rintro _ reply admitted ⟨asked, rfl⟩
    exact admitted
  apply ordinary.bind
  intro outcomes _
  exact yields_pure ⟨infos, outcomes, rfl⟩

end Onward

/-! ### Whole surveys -/

/-- With fixed replies a survey of an account with code, which follows a proxy if the account
is one, ends with a report about what the resolution of the account names. -/
theorem survey_reports_resolution (plan : Plan) {address : Text} (replies : Query → Reply)
    {resolution : Proxy.Resolution} {code : List UInt8}
    (canonical : Address.IsCanonical address)
    (textual : Signature.AnswerWith Signature.IsTextual
      (fun query reply => reply = replies (.signature query)) plan.lookups)
    (allowed : ∀ query, Proxy.Allowed query (replies (.chain query)))
    (resolved : (Proxy.resolve address).run.answeredBy (fun query => replies (.chain query)) =
      .ok resolution)
    (follows : resolution.isProxy = true → plan.followsProxy = true) (present : code ≠ [])
    (given : replies (.chain (.code address)) = .ok (.bytes code)) :
    ∃ report, (survey plan (.text address)).answeredBy replies = .ok report ∧
      report.isContract = true ∧ report.isProxy = resolution.isProxy ∧
      report.targetAddress = targetOf address resolution := by
  obtain ⟨proxy, content, filled, found, proxied⟩ :=
    locate_resolved allowed resolved follows present given
  let located : Report :=
    { address := address, targetAddress := targetOf address resolution, proxy := proxy }
  have admitted : ∀ query, Admits Reply.IsOrdinary
      (fun query reply => reply = replies (.signature query)) query (replies query) := by
    intro query
    cases query with
    | chain query => exact (allowed query).2
    | signature query => rfl
  obtain ⟨report, ended, infos, outcomes, rfl⟩ :=
    (yields_onward textual address _ proxy content).answeredBy admitted
  have reported : (survey plan (.text address)).answeredBy replies =
      .ok (conclude (inspected located content infos) outcomes) := by
    rw [survey_answeredBy_of_located canonical.validate?_eq found, ended]
    rfl
  have contract : (!content.isEmpty) = true := by
    rw [List.isEmpty_eq_false_iff.mpr filled]
    rfl
  refine ⟨_, reported, contract, ?_, rfl⟩
  rw [← proxied]
  cases proxy <;> rfl

section Surveys

variable {allowed : Signature.Query → Reply → Prop}

/-- A survey of a valid address fails exactly where no implementation was found and the
question about the code of the address failed.  That question is then its last one, and the
survey is interrupted by its fault. -/
theorem survey_fails_iff_codeIsMissing {plan : Plan} {text address : Text}
    {exchanges : List (Query × Reply)} {result : Except Failure Report}
    (valid : Address.validate? text = some address)
    (textual : Signature.AnswerWith Signature.IsTextual allowed plan.lookups)
    (permitted : ∀ exchange ∈ exchanges, Admits Reply.IsPlain allowed exchange.1 exchange.2)
    (path : Path (survey plan (.text text)) exchanges result) :
    ((∃ failure, result = .error failure) ↔
        CodeIsMissing plan.followsProxy address exchanges) ∧
      (∀ failure, result = .error failure → ∃ search fault soFar,
        failure = .interrupted fault soFar ∧
          IsFruitless plan.followsProxy address search ∧
          exchanges = search ++ [(.chain (.code address), .error fault)]) ∧
      (¬CodeIsMissing plan.followsProxy address exchanges →
        ∃ report, result = .ok report) := by
  rw [survey_of_valid plan valid] at path
  obtain ⟨outcome, steps, rfl⟩ := (path_andThen_done_iff ..).mp path
  have plain : ∀ query reply, (Query.chain query, reply) ∈ exchanges → reply.IsPlain :=
    fun query reply member => permitted _ member
  have usual : ∀ query reply, (Query.chain query, reply) ∈ exchanges →
      Proxy.Allowed query reply :=
    fun query reply member =>
      ⟨(plain query reply member).bytes, (plain query reply member).isOrdinary⟩
  rcases (path_bind_iff ..).mp steps with
    ⟨stop, rfl, stopped⟩ | ⟨⟨located, value⟩, first, rest, rfl, found, behind⟩
  · -- The search for the code has stopped, so the code of the address is missing.
    rcases locate_cases usual stopped with
      ⟨located, code, impossible, _⟩ | ⟨search, same, equal, fruitless, rfl⟩
    · cases impossible
    · cases equal
      have missing : CodeIsMissing plan.followsProxy address
          (search ++ [(.chain (.code address), .error stop.fault)]) :=
        ⟨search, stop.fault, [], fruitless, rfl⟩
      have interrupts := (plain _ _
        (List.mem_append_right search (List.mem_singleton_self _))).interrupts stop.fault rfl
      refine ⟨iff_of_true ⟨_, rfl⟩ missing, ?_, fun present => absurd missing present⟩
      intro failure failed
      cases failed
      exact ⟨search, stop.fault, stop.soFar, failure_of_interrupts interrupts, fruitless, rfl⟩
  · -- The code was found, and nothing behind it can fail.
    have present : ¬CodeIsMissing plan.followsProxy address (first ++ rest) := by
      intro missing
      obtain ⟨stop, impossible⟩ := locate_of_codeIsMissing found missing
      cases impossible
    have known := locate_isLocated (Address.validate?_isCanonical valid) found
    obtain ⟨code, rfl, _⟩ := known.answered fun account reply member =>
      (plain (.code account) reply (List.mem_append_left rest member)).bytes
    change Path (onward plan located (.bytes code)).run rest outcome at behind
    rw [known.blank] at behind
    obtain ⟨report, rfl, _⟩ := yields_onward textual _ _ _ code rest outcome
      (fun exchange member => (permitted exchange
        (List.mem_append_right first member)).mono fun reply => Reply.IsPlain.isOrdinary)
      behind
    refine ⟨iff_of_false ?_ present, ?_, fun _ => ⟨report, rfl⟩⟩
    · intro failed
      obtain ⟨failure, impossible⟩ := failed
      cases impossible
    · intro failure impossible
      cases impossible

end Surveys

/-! ### A chain that gives garbage -/

/-- A chain that gives a single byte wherever it is not asked for code, and a source that
names every function. -/
def garbled (code : Reply) : Query → Reply
  | .chain (.code _) => code
  | .chain _ => .ok (.bytes [0xff])
  | .signature _ => .ok (.text "total()".toList)

def IsNamed (_ : Signature.Query) (reply : Reply) : Prop :=
  reply = .ok (.text "total()".toList)

def batchedPlan : Plan :=
  { lookups := [Signature.sourceLookup 0], followsProxy := true, usesBatch := true }

def garbledExchanges (code : Reply) (text : Text) : List (Query × Reply) :=
  ((survey batchedPlan (.text text)).asked (garbled code)).map fun query =>
    (query, garbled code query)

private theorem garbled_of_mem {code reply : Reply} {text : Text} {query : Query}
    (member : (query, reply) ∈ garbledExchanges code text) : reply = garbled code query :=
  eq_reply_of_mem member

private theorem batchedPlan_isTextual :
    Signature.AnswerWith Signature.IsTextual IsNamed batchedPlan.lookups :=
  Signature.sourceLookup_answerWith
    (fun _ _ named => Or.inl ⟨_, named, Or.inr ⟨_, rfl⟩⟩) 0

private theorem garbled_admitted {code : Reply} {text : Text} (plain : code.IsPlain) :
    ∀ exchange ∈ garbledExchanges code text,
      Admits Reply.IsPlain IsNamed exchange.1 exchange.2 := by
  intro exchange member
  obtain ⟨query, reply⟩ := exchange
  rw [garbled_of_mem member]
  have garbage : Reply.IsPlain (.ok (.bytes [0xff])) := ⟨Reply.holdsBytes_bytes _, nofun⟩
  cases query with
  | signature query => rfl
  | chain query =>
      cases query with
      | code account => exact plain
      | storage account slot => exact garbage
      | call target data sender => exact garbage

/-- Garbage in every slot and from the aggregator leaves a report in which the calls have
failed, and a missing code interrupts the survey. -/
theorem survey_garbledChain_fails_iff_codeIsMissing :
    let text := "0x".toList ++ List.replicate 40 'a'
    let surveyed (code : Reply) :=
      (survey batchedPlan (.text text)).answeredBy (garbled code)
    (∃ report, surveyed (.ok (.bytes [0x63, 1, 2, 3, 4])) = .ok report ∧
        report.outcomes.map (fun entry => (entry.1, entry.2.succeeded)) =
          [("0x01020304".toList, false)]) ∧
      ∃ soFar, surveyed (.error (.status 503)) = .error (.interrupted (.status 503) soFar) := by
  intro text surveyed
  have valid : Address.validate? text =
      some (Address.checksummed (List.replicate 40 'a')) := by
    decide +kernel
  have path : ∀ code : Reply, Path (survey batchedPlan (.text text))
      (garbledExchanges code text) (surveyed code) :=
    fun code => path_answeredBy (garbled code) _
  constructor
  · have plain : Reply.IsPlain (.ok (.bytes [0x63, 1, 2, 3, 4])) :=
      ⟨Reply.holdsBytes_bytes _, nofun⟩
    obtain ⟨_, _, reports⟩ := survey_fails_iff_codeIsMissing valid batchedPlan_isTextual
      (garbled_admitted plain) (path _)
    obtain ⟨report, ended⟩ : ∃ report, surveyed (.ok (.bytes [0x63, 1, 2, 3, 4])) =
        .ok report := by
      apply reports
      intro missing
      obtain ⟨fault, failed⟩ := missing.exists_mem
      cases garbled_of_mem failed
    have shown : (surveyed (.ok (.bytes [0x63, 1, 2, 3, 4]))).toOption.map (fun report =>
        report.outcomes.map fun entry => (entry.1, entry.2.succeeded)) =
          some [("0x01020304".toList, false)] := by
      decide +kernel
    rw [ended] at shown
    exact ⟨report, ended, Option.some.inj shown⟩
  · have plain : Reply.IsPlain (.error (.status 503)) := by
      refine ⟨Reply.holdsBytes_error _, ?_⟩
      intro fault same
      cases same
      exact ⟨rfl, rfl⟩
    obtain ⟨_, failures, _⟩ := survey_fails_iff_codeIsMissing valid batchedPlan_isTextual
      (garbled_admitted plain) (path _)
    have shown : (surveyed (.error (.status 503))).toOption = none := by
      decide +kernel
    cases ended : surveyed (.error (.status 503)) with
    | ok report =>
        rw [ended] at shown
        cases shown
    | error failure =>
        obtain ⟨search, fault, soFar, rfl, _, same⟩ := failures failure ended
        have asked : (Query.chain (.code (Address.checksummed (List.replicate 40 'a'))),
            Except.error fault) ∈ garbledExchanges (.error (.status 503)) text := by
          rw [same]
          exact List.mem_append_right search (List.mem_singleton_self _)
        cases garbled_of_mem asked
        exact ⟨soFar, rfl⟩

end Analysis
end ContractSurvey
