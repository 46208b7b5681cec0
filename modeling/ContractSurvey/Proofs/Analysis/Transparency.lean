/-
Surveys through a proxy.

A survey that follows a proxy and a survey that is sent to its implementation take the same
steps once the code is found.  The one has the code from the search for the implementation,
where it was kept as a text, and the other asks for it.  From then on both ask about the
implementation only, and their results differ in nothing but the account that the survey was
asked for and what it says about the proxy.
-/

import ContractSurvey.Proofs.Analysis.Interruption
import ContractSurvey.Proofs.Analysis.Requests

namespace ContractSurvey

/-- A report under the address of a proxy, with the resolution that led to the target. -/
def Report.seenFrom (address : Text) (resolution : Proxy.Resolution) (report : Report) :
    Report :=
  { report with
    address := address
    proxy := some resolution }

/-- The report of a survey that has been sent to an account and knows nothing yet. -/
def Report.unfilled (account : Text) : Report :=
  { address := account, targetAddress := account }

namespace Analysis

open Dialogue

def Interruption.seenFrom (address : Text) (resolution : Proxy.Resolution)
    (stop : Interruption) : Interruption :=
  { stop with soFar := stop.soFar.seenFrom address resolution }

def Failure.seenFrom (address : Text) (resolution : Proxy.Resolution) : Failure → Failure
  | .passedOn fault => .passedOn fault
  | .interrupted fault soFar => .interrupted fault (soFar.seenFrom address resolution)

/-- What a survey came to, as it is seen from a proxy. -/
def outcomeFrom (address : Text) (resolution : Proxy.Resolution)
    (outcome : Except Failure Report) : Except Failure Report :=
  (outcome.map (Report.seenFrom address resolution)).mapError
    (Failure.seenFrom address resolution)

def Plan.following (plan : Plan) (schedule : Pool.Schedule) : Plan :=
  { plan with
    followsProxy := true
    schedule := schedule }

def Plan.direct (plan : Plan) (schedule : Pool.Schedule) : Plan :=
  { plan with
    followsProxy := false
    schedule := schedule }

section Steps

variable (address : Text) (resolution : Proxy.Resolution) (replies : Query → Reply)

theorem failure_seenFrom (stop : Interruption) :
    (stop.seenFrom address resolution).failure =
      stop.failure.seenFrom address resolution := by
  unfold Interruption.failure
  change (if (stop.fault.isInput || stop.fault.isFatal) = true then _ else _) = _
  by_cases passed : (stop.fault.isInput || stop.fault.isFatal) = true
  · rw [if_pos passed, if_pos passed]
    rfl
  · rw [if_neg passed, if_neg passed]
    rfl

theorem outcomeFrom_failure (outcome : Except Interruption Report) :
    outcomeFrom address resolution (outcome.mapError Interruption.failure) =
      ((outcome.map (Report.seenFrom address resolution)).mapError
        (Interruption.seenFrom address resolution)).mapError Interruption.failure := by
  cases outcome with
  | error stop => exact congrArg Except.error (failure_seenFrom address resolution stop).symm
  | ok report => rfl

theorem inspect_seenFrom (lookups : List Signature.Lookup) (located : Report)
    (code : List UInt8) :
    (inspect lookups (located.seenFrom address resolution) (.bytes code)).run.answeredBy
        replies =
      (((inspect lookups located (.bytes code)).run.answeredBy replies).map
        (Report.seenFrom address resolution)).mapError
          (Interruption.seenFrom address resolution) := by
  cases code with
  | nil => rfl
  | cons first rest =>
      rw [inspect_cons, inspect_cons, answeredBy_bind, answeredBy_bind,
        Stage.ofSources_answeredBy, Stage.ofSources_answeredBy]
      cases (describe lookups [] (Bytecode.selectors (first :: rest))).answeredBy
          fun query => replies (.signature query) with
      | error fault => rfl
      | ok infos => rfl

theorem invoke_seenFrom (plan : Plan) (early late : Pool.Schedule) (report : Report)
    (calls : List Call.Request) :
    (invoke (plan.following early) (report.seenFrom address resolution) calls).run.answeredBy
        replies =
      ((invoke (plan.direct late) report calls).run.answeredBy replies).mapError
        (Interruption.seenFrom address resolution) := by
  rw [invoke_answeredBy, invoke_answeredBy]
  change (made plan _ calls).mapError _ = ((made plan _ calls).mapError _).mapError _
  cases made plan (fun query => replies (.chain query)) calls with
  | error fault => rfl
  | ok outcomes => rfl

theorem onward_seenFrom (plan : Plan) (early late : Pool.Schedule) (located : Report)
    (code : List UInt8) :
    (onward (plan.following early) (located.seenFrom address resolution)
        (.bytes code)).run.answeredBy replies =
      (((onward (plan.direct late) located (.bytes code)).run.answeredBy replies).map
        (Report.seenFrom address resolution)).mapError
          (Interruption.seenFrom address resolution) := by
  unfold onward
  rw [answeredBy_bind, answeredBy_bind]
  change ((inspect plan.lookups _ _).run.answeredBy replies).bind _ =
    ((((inspect plan.lookups located _).run.answeredBy replies).bind _).map _).mapError _
  rw [inspect_seenFrom]
  cases (inspect plan.lookups located (.bytes code)).run.answeredBy replies with
  | error stop => rfl
  | ok report =>
      -- The proxy plays no part in the calls that a report asks for.
      have same : requests (report.seenFrom address resolution) = requests report := rfl
      simp only [Except.map, Except.mapError, Except.bind]
      rw [answeredBy_bind, answeredBy_bind, same, invoke_seenFrom _ _ _ plan early late]
      cases (invoke (plan.direct late) report (requests report)).run.answeredBy replies with
      | error stop => rfl
      | ok outcomes => rfl

end Steps

/-! ### Surveys -/

section Surveys

variable {plan : Plan} {text address : Text} {resolution : Proxy.Resolution}
  {replies : Query → Reply}

/-- Sent to an account that has code, a survey asks for the code and then about nothing but
the account. -/
theorem asks_of_direct {code : List UInt8} {schedule : Pool.Schedule} {query : Query}
    (canonical : Address.IsCanonical address)
    (given : replies (.chain (.code address)) = .ok (.bytes code))
    (asked : query ∈ (survey (plan.direct schedule) (.text address)).asked replies) :
    query = .chain (.code address) ∨ AsksAbout (plan.direct schedule) address query := by
  obtain ⟨found, first⟩ := locate_direct given
  rw [survey_asked_of_located canonical.validate?_eq found] at asked
  rcases List.mem_append.mp asked with coded | behind
  · change query ∈ (locate false address).run.asked replies at coded
    rw [first, List.mem_singleton] at coded
    exact Or.inl coded
  · exact Or.inr ((asksOnly_onward code canonical rfl).of_mem_asked behind)

/-- Sent to an account that has code, a survey with ordinary lookups fails in no other way
than by an interruption. -/
theorem survey_direct_isInterrupted {code : List UInt8} {failure : Failure}
    (schedule : Pool.Schedule) (canonical : Address.IsCanonical address)
    (ordinary : ∀ query, (replies (.chain query)).IsOrdinary)
    (given : replies (.chain (.code address)) = .ok (.bytes code))
    (tolerable : ∀ lookup ∈ plan.lookups, ∀ selector fault, (lookup selector).run.answeredBy
      (fun query => replies (.signature query)) = .error fault → fault.isFatal = false)
    (failed : (survey (plan.direct schedule) (.text address)).answeredBy replies =
      .error failure) :
    ∃ fault soFar, failure = .interrupted fault soFar := by
  have path := path_answeredBy replies (survey (plan.direct schedule) (.text address))
  rw [failed] at path
  have permitted : ∀ exchange ∈ ((survey (plan.direct schedule) (.text address)).asked
      replies).map fun query => (query, replies query),
      Permits (fun query reply => reply = replies (.signature query)) exchange.1
        exchange.2 := by
    intro exchange member
    obtain ⟨query, asked, rfl⟩ := List.mem_map.mp member
    rcases asks_of_direct canonical given asked with rfl | about
    · refine ⟨ordinary _, fun account _ => ?_⟩
      simp [given]
    · cases about with
      | signature query => rfl
      | alone data single => exact ⟨ordinary _, fun _ => nofun⟩
      | together calls batched toAccount => exact ⟨ordinary _, fun _ => nofun⟩
  refine survey_failure_isInterrupted canonical.validate?_eq ?_ permitted path
  exact Signature.areTolerable_of_fixed tolerable

/-- Through a proxy a survey comes to what it comes to at the implementation, seen from the
proxy, and behind the search for the implementation it asks about the implementation only. -/
theorem survey_proxied_transparent (early late : Pool.Schedule)
    (valid : Address.validate? text = some address)
    (allowed : ∀ query, Proxy.Allowed query (replies (.chain query)))
    (resolved : (Proxy.resolve address).run.answeredBy (fun query => replies (.chain query)) =
      .ok resolution)
    (proxied : resolution.isProxy = true) :
    let implementation := resolution.implementationAddress
    let direct := (survey (plan.direct late) (.text implementation)).answeredBy replies
    (survey (plan.following early) (.text text)).answeredBy replies =
        outcomeFrom address resolution direct ∧
      ((∀ lookup ∈ plan.lookups, ∀ selector fault, (lookup selector).run.answeredBy
          (fun query => replies (.signature query)) = .error fault → fault.isFatal = false) →
        ∀ failure, direct = .error failure →
          ∃ fault soFar, failure = .interrupted fault soFar) ∧
      ∃ behind, (survey (plan.following early) (.text text)).asked replies =
          ((Proxy.resolve address).run.asked fun query => replies (.chain query)).map
            Query.chain ++ behind ∧
        (∀ query ∈ behind, AsksAbout (plan.following early) implementation query) ∧
        ∀ data sender, .chain (.call address data sender) ∈ behind →
          address = implementation ∨ plan.usesBatch = true ∧ address = plan.aggregator := by
  intro implementation direct
  obtain ⟨code, canonical, given, found, searched⟩ := locate_proxied allowed resolved proxied
  let located := (Report.unfilled implementation).seenFrom address resolution
  have asked : (survey (plan.following early) (.text text)).asked replies =
      _ ++ (onward (plan.following early) located (.bytes code)).run.asked replies :=
    survey_asked_of_located valid found
  have about : AsksOnly (AsksAbout (plan.following early) implementation)
      (onward (plan.following early) located (.bytes code)).run :=
    asksOnly_onward code canonical rfl
  constructor
  · have sent := (locate_direct given).1
    calc (survey (plan.following early) (.text text)).answeredBy replies
        = ((onward (plan.following early) located (.bytes code)).run.answeredBy
            replies).mapError Interruption.failure := survey_answeredBy_of_located valid found
      _ = outcomeFrom address resolution (((onward (plan.direct late)
            (Report.unfilled implementation) (.bytes code)).run.answeredBy replies).mapError
              Interruption.failure) := by
          rw [onward_seenFrom _ _ _ plan early late, outcomeFrom_failure]
      _ = outcomeFrom address resolution direct :=
          congrArg _ (survey_answeredBy_of_located canonical.validate?_eq sent).symm
  constructor
  · intro tolerable failure failed
    exact survey_direct_isInterrupted late canonical (fun query => (allowed query).2) given
      tolerable failed
  · refine ⟨_, asked.trans (congrArg (· ++ _) searched), ?_, ?_⟩
    · intro query member
      exact about.of_mem_asked member
    · intro data sender member
      exact (about.of_mem_asked member).of_call

end Surveys

/-- A proxy whose implementation has one function, which gives a number. -/
def proxiedFunction : Query → Reply
  | .chain (.storage _ _) => .ok (.bytes (List.replicate 32 0x33))
  | .chain (.code account) =>
      .ok (.bytes (if account = "0x".toList ++ List.replicate 40 '3' then [0x63, 1, 2, 3, 4]
        else [0x60, 0x00]))
  | .chain (.call target _ _) =>
      if target = "0x".toList ++ List.replicate 40 '3' then .ok (.bytes (Abi.word 7))
      else .error (.status 404)
  | .signature _ => .error (.status 404)

private theorem proxiedFunction_allowed (query : Chain.Query) :
    Proxy.Allowed query (proxiedFunction (.chain query)) := by
  unfold Proxy.Allowed
  cases query with
  | storage account slot => simp [proxiedFunction]
  | code account => simp [proxiedFunction]
  | call target data sender =>
      simp only [proxiedFunction]
      by_cases called : target = "0x".toList ++ List.replicate 40 '3'
      · rw [if_pos called]
        simp
      · rw [if_neg called]
        simp [Fault.isFatal]

theorem survey_proxiedFunction_transparent :
    let text := "0x".toList ++ List.replicate 40 'a'
    let implementation := "0x".toList ++ List.replicate 40 '3'
    let followed := (survey (Plan.following {} [1]) (.text text)).answeredBy proxiedFunction
    let direct := (survey (Plan.direct {} []) (.text implementation)).answeredBy
      proxiedFunction
    (∀ query, Proxy.Allowed query (proxiedFunction (.chain query))) ∧
      ∃ resolution, resolution.isProxy = true ∧
        resolution.implementationAddress = implementation ∧
        followed = outcomeFrom (Address.checksummed (List.replicate 40 'a')) resolution direct ∧
        followed.toOption.map (·.decoded) = some [("0x01020304".toList, "7".toList)] := by
  intro text implementation followed direct
  have valid : Address.validate? text =
      some (Address.checksummed (List.replicate 40 'a')) := by
    decide +kernel
  have shown : ((Proxy.resolve (Address.checksummed (List.replicate 40 'a'))).run.answeredBy
      fun query => proxiedFunction (.chain query)).toOption.map
        (fun resolution => (resolution.isProxy, resolution.implementationAddress)) =
      some (true, implementation) := by
    decide +kernel
  refine ⟨proxiedFunction_allowed, ?_⟩
  cases resolved : (Proxy.resolve (Address.checksummed (List.replicate 40 'a'))).run.answeredBy
      fun query => proxiedFunction (.chain query) with
  | error fault =>
      rw [resolved] at shown
      cases shown
  | ok resolution =>
      rw [resolved] at shown
      obtain ⟨proxied, named⟩ := Prod.mk.inj (Option.some.inj shown)
      have transparent : followed = _ := (survey_proxied_transparent [1] [] valid
        proxiedFunction_allowed resolved proxied).1
      rw [named] at transparent
      exact ⟨resolution, proxied, named, transparent, by decide +kernel⟩

/-- A proxy that is the aggregator itself is called behind the search, although it is not its
own implementation. -/
theorem survey_calls_proxied_aggregator :
    let plan : Plan := { usesBatch := true }
    let address := plan.aggregator
    (∀ query, Proxy.Allowed query (proxiedFunction (.chain query))) ∧
      Address.validate? address = some address ∧
      ∃ resolution, (Proxy.resolve address).run.answeredBy
          (fun query => proxiedFunction (.chain query)) = .ok resolution ∧
        resolution.isProxy = true ∧ address ≠ resolution.implementationAddress ∧
        ∃ behind data, (survey (plan.following []) (.text address)).asked proxiedFunction =
            ((Proxy.resolve address).run.asked fun query => proxiedFunction (.chain query)).map
              Query.chain ++ behind ∧
          .chain (.call address data none) ∈ behind := by
  intro plan address
  have shown : ((Proxy.resolve address).run.answeredBy
      fun query => proxiedFunction (.chain query)).toOption.map
        (fun resolution => (resolution.isProxy, resolution.implementationAddress)) =
      some (true, "0x".toList ++ List.replicate 40 '3') := by
    decide +kernel
  refine ⟨proxiedFunction_allowed, by decide +kernel, ?_⟩
  cases resolved : (Proxy.resolve address).run.answeredBy
      fun query => proxiedFunction (.chain query) with
  | error fault =>
      rw [resolved] at shown
      cases shown
  | ok resolution =>
      rw [resolved] at shown
      obtain ⟨proxied, named⟩ := Prod.mk.inj (Option.some.inj shown)
      -- The round trip carries one call, of the one function to the implementation.
      let data := Call.Batch.aggregateSelector ++
        Hex.ofBytes (Abi.writeCalls false [(List.replicate 20 0x33, [1, 2, 3, 4])])
      let selector := "0x01020304".toList
      refine ⟨resolution, rfl, proxied, ?_, [.signature (.page .openChain selector),
        .signature (.page .fourByte selector), .chain (.call address data none)], data, ?_, ?_⟩
      · rw [named]
        decide
      · decide +kernel
      · exact List.mem_cons_of_mem _ (List.mem_cons_of_mem _ List.mem_cons_self)

end Analysis
end ContractSurvey
