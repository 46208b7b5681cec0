/-
What a survey asks once it has the code.

Selectors go to the signature sources, and the functions that can be called go to the target:
one call for each of them, or a single call in which the aggregator carries all of them.  No
code and no storage is read any more, and no other account is called.
-/

import ContractSurvey.Proofs.Analysis.Inspection
import ContractSurvey.Proofs.Call.Batch

namespace ContractSurvey
namespace Analysis

open Dialogue

/-! ### Calls to the target -/

theorem requests_of_signatures {report : Report} {infos : List Signature.Info}
    (signatures : report.signatures = infos.map fun info => (info.selector, info)) :
    requests report = (infos.filter (·.isCallable)).map fun info =>
      ⟨report.targetAddress, info.selector⟩ := by
  unfold requests
  rw [signatures, List.filter_map, List.map_map]
  rfl

theorem map_selector_requests {report : Report} {code : Bytecode}
    {infos : List Signature.Info}
    (signatures : report.signatures = infos.map fun info => (info.selector, info))
    (listed : infos.map (·.selector) = code.selectors) :
    (requests report).map (·.selector) =
      (infos.filter (·.isCallable)).map (·.selector) := by
  rw [requests_of_signatures signatures, List.map_map]
  apply List.map_congr_left
  intro info member
  have present : info.selector ∈ code.selectors := by
    rw [← listed]
    exact List.mem_map_of_mem (List.mem_of_mem_filter member)
  obtain ⟨bytes, four, same⟩ := Bytecode.exists_marked_of_mem_selectors present
  change Call.Request.selector ⟨_, info.selector⟩ = _
  rw [same]
  exact Call.Request.selector_of_marked _ four

theorem nodup_callable {code : Bytecode} {infos : List Signature.Info}
    (listed : infos.map (·.selector) = code.selectors) :
    ((infos.filter (·.isCallable)).map (·.selector)).Nodup := by
  have distinct := code.selectors_nodup
  rw [← listed] at distinct
  exact distinct.sublist (List.filter_sublist.map _)

theorem exists_contents_of_marked {selectors : List Text}
    (marked : ∀ selector ∈ selectors, ∃ bytes, selector = Hex.marked bytes) :
    ∃ contents : List (List UInt8), selectors = contents.map Hex.marked := by
  induction selectors with
  | nil => exact ⟨[], rfl⟩
  | cons selector rest ih =>
      obtain ⟨⟨bytes, rfl⟩, later⟩ := List.forall_mem_cons.mp marked
      obtain ⟨contents, same⟩ := ih later
      exact ⟨bytes :: contents, by rw [same]; rfl⟩

theorem exists_contents {code : Bytecode} {infos : List Signature.Info}
    (listed : infos.map (·.selector) = code.selectors) :
    ∃ contents : List (List UInt8),
      (infos.filter (·.isCallable)).map (·.selector) = contents.map Hex.marked := by
  apply exists_contents_of_marked
  intro selector member
  obtain ⟨info, callable, rfl⟩ := List.mem_map.mp member
  have present : info.selector ∈ code.selectors := by
    rw [← listed]
    exact List.mem_map_of_mem (List.mem_of_mem_filter callable)
  obtain ⟨bytes, _, same⟩ := Bytecode.exists_marked_of_mem_selectors present
  exact ⟨bytes, same⟩

/-- The calls of a survey are calls to the account of twenty bytes. -/
theorem exists_requestsTo {report : Report} {code : Bytecode} {infos : List Signature.Info}
    (canonical : Address.IsCanonical report.targetAddress)
    (signatures : report.signatures = infos.map fun info => (info.selector, info))
    (listed : infos.map (·.selector) = code.selectors) :
    ∃ (target : List UInt8) (contents : List (List UInt8)),
      target.length = Address.byteCount ∧
      report.targetAddress = Address.checksummed (Hex.ofBytes target) ∧
      requests report = Call.Batch.requestsTo target contents := by
  obtain ⟨target, twenty, same⟩ := canonical
  obtain ⟨contents, marked⟩ := exists_contents listed
  refine ⟨target, contents, twenty, same, ?_⟩
  have mapped := congrArg
    (List.map fun selector => Call.Request.mk report.targetAddress selector) marked
  rw [List.map_map, List.map_map] at mapped
  rw [requests_of_signatures signatures]
  unfold Call.Batch.requestsTo
  rw [← same]
  exact mapped

/-! ### Fixed replies -/

/-- What calls come to when every question has a fixed reply. -/
def made (plan : Plan) (replies : Chain.Query → Reply) (calls : List Call.Request) :
    Except Fault (List Call.Outcome) :=
  if calls.isEmpty then .ok []
  else if plan.usesBatch then
    (Call.Batch.outcomesThrough plan.aggregator calls).run.answeredBy replies
  else
    .ok (calls.map fun request =>
      request.outcome (replies (.call request.target request.data plan.sender)))

/-- With fixed replies the order in which calls side by side get them plays no part. -/
theorem invoke_answeredBy (plan : Plan) (report : Report) (calls : List Call.Request)
    (replies : Query → Reply) :
    (invoke plan report calls).run.answeredBy replies =
      (made plan (fun query => replies (.chain query)) calls).mapError
        fun fault => ⟨fault, report⟩ := by
  unfold invoke made
  by_cases none : calls.isEmpty = true
  · rw [if_pos none, if_pos none]
    rfl
  · rw [if_neg none, if_neg none]
    by_cases batched : plan.usesBatch = true
    · rw [if_pos batched, if_pos batched, Stage.ofChain_answeredBy]
    · rw [if_neg batched, if_neg batched, Stage.ofChain_answeredBy]
      change Except.mapError _ ((Dialogue.andThen _ _).answeredBy _) = _
      rw [answeredBy_andThen, Call.parallel_answeredBy]
      rfl

/-! ### Questions -/

/-- A question of a survey that has the code of an account. -/
inductive AsksAbout (plan : Plan) (account : Text) : Query → Prop
  | signature (query : Signature.Query) : AsksAbout plan account (.signature query)
  | alone (data : Text) (single : plan.usesBatch = false) :
      AsksAbout plan account (.chain (.call account data plan.sender))
  | together (calls : List (List UInt8 × List UInt8)) (batched : plan.usesBatch = true)
      (toAccount : ∀ call ∈ calls, call.1.length = Address.byteCount ∧
        Address.checksummed (Hex.ofBytes call.1) = account) :
      AsksAbout plan account
        (.chain (.call plan.aggregator (Call.Batch.payload calls) none))

theorem AsksAbout.of_call {plan : Plan} {account target data : Text} {sender : Option Text}
    (about : AsksAbout plan account (.chain (.call target data sender))) :
    target = account ∨ plan.usesBatch = true ∧ target = plan.aggregator := by
  cases about with
  | alone => exact Or.inl rfl
  | together calls batched toAccount => exact Or.inr ⟨batched, rfl⟩

theorem asksOnly_inspect (plan : Plan) (account : Text) (located : Report)
    (code : List UInt8) :
    AsksOnly (AsksAbout plan account) (inspect plan.lookups located (.bytes code)).run := by
  cases code with
  | nil =>
      rw [inspect_nil]
      exact asksOnly_done _
  | cons first rest =>
      rw [inspect_cons]
      apply AsksOnly.bind
      · apply Stage.asksOnly_ofSources
        intro exchanges infos _ exchange _
        exact .signature exchange.1
      · intro exchanges infos _
        exact asksOnly_done _

theorem asksOnly_invoke (plan : Plan) (report : Report) {target : List UInt8}
    (contents : List (List UInt8)) (twenty : target.length = Address.byteCount) :
    AsksOnly (AsksAbout plan (Address.checksummed (Hex.ofBytes target)))
      (invoke plan report (Call.Batch.requestsTo target contents)).run := by
  unfold invoke
  by_cases none : contents = []
  · rw [none]
    exact asksOnly_done _
  · rw [Call.Batch.requestsTo_isEmpty none, if_neg Bool.false_ne_true]
    by_cases batched : plan.usesBatch = true
    · rw [if_pos batched]
      apply Stage.asksOnly_ofChain
      refine (Call.Batch.asksOnly_outcomesThrough twenty none).mono ?_
      intro query carries
      rw [carries]
      apply AsksAbout.together _ batched
      intro call member
      obtain ⟨content, _, rfl⟩ := List.mem_map.mp member
      exact ⟨twenty, rfl⟩
    · rw [if_neg batched]
      apply Stage.asksOnly_ofChain
      apply AsksOnly.andThen
      · apply Call.asksOnly_parallel
        intro request member
        obtain ⟨content, _, rfl⟩ := List.mem_map.mp member
        exact .alone _ (by simpa using batched)
      · intro exchanges outcomes _
        exact asksOnly_done _

/-- The steps of a survey behind the search for its code. -/
def onward (plan : Plan) (located : Report) (code : Value) : Stage Report := do
  let inspected ← inspect plan.lookups located code
  let outcomes ← invoke plan inspected (requests inspected)
  return conclude inspected outcomes

/-- Once its code is found, a survey asks about nothing but its target. -/
theorem asksOnly_onward {plan : Plan} {located : Report} (code : List UInt8)
    (canonical : Address.IsCanonical located.targetAddress)
    (blank : located.signatures = []) :
    AsksOnly (AsksAbout plan located.targetAddress)
      (onward plan located (.bytes code)).run := by
  apply (asksOnly_inspect plan _ located code).bind
  intro exchanges report inspecting
  obtain ⟨found, infos, listed, signatures, same⟩ := inspect_lists blank inspecting
  rw [← same] at canonical ⊢
  obtain ⟨target, contents, twenty, spelled, asks⟩ :=
    exists_requestsTo canonical signatures listed
  rw [asks, spelled]
  apply (asksOnly_invoke plan report contents twenty).bind
  intro _ outcomes _
  exact asksOnly_done _

section Onward

variable {plan : Plan} {text address : Text} {replies : Query → Reply} {located : Report}
  {code : Value}

theorem survey_answeredBy_of_located (valid : Address.validate? text = some address)
    (found : (locate plan.followsProxy address).run.answeredBy replies =
      .ok (located, code)) :
    (survey plan (.text text)).answeredBy replies =
      ((onward plan located code).run.answeredBy replies).mapError Interruption.failure := by
  rw [survey_answeredBy plan replies valid]
  unfold stages
  rw [answeredBy_bind, found]
  rfl

theorem survey_asked_of_located (valid : Address.validate? text = some address)
    (found : (locate plan.followsProxy address).run.answeredBy replies =
      .ok (located, code)) :
    (survey plan (.text text)).asked replies =
      (locate plan.followsProxy address).run.asked replies ++
        (onward plan located code).run.asked replies := by
  rw [survey_asked plan replies valid]
  unfold stages
  rw [asked_bind_of_ok found]
  rfl

end Onward

end Analysis
end ContractSurvey
