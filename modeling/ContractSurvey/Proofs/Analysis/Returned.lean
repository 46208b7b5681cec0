/-
What is shown for the bytes that a call returned.

Return data is shown by its bytes and not by the way in which these are spelled.  A call that
succeeds hands on its bytes in small digits, whether it was made by itself or an aggregator made
it, so what a survey shows is what it would show for the bytes themselves.
-/

import ContractSurvey.Proofs.Analysis.Consistency
import ContractSurvey.Proofs.Call.Decoding
import ContractSurvey.Proofs.Call.Delivery
import ContractSurvey.Proofs.Register
import ContractSurvey.Proofs.ReturnData.Spelling

namespace ContractSurvey

open Dialogue ReturnData

namespace Call

/-! ### Calls by themselves -/

theorem Request.exists_returned {request : Request} {reply : Reply}
    (succeeded : (request.outcome reply).succeeded = true) :
    ∃ value content, reply = .ok value ∧ value.toBytes = .ok content ∧
      (request.outcome reply).returnData = Hex.marked content := by
  have tells := request.outcome_tells reply
  obtain ⟨value, content, replied, converts⟩ := tells.succeeded.mp succeeded
  exact ⟨value, content, replied, converts, (tells.ofBytes value content replied converts).1⟩

/-- The outcomes of calls side by side hold what the calls returned, each in its place. -/
theorem exists_replies_returned {limit : Int} {schedule : Pool.Schedule} {sender : Option Text}
    {requests : List Request} {exchanges : List (Chain.Query × Reply)} {outcomes : List Outcome}
    (path : Path (parallel limit schedule sender requests) exchanges outcomes) :
    ∃ replies : List Reply, replies.length = requests.length ∧
      exchanges.Perm ((requests.map (Request.query sender)).zip replies) ∧
      ∀ (place : Nat) (outcome : Outcome), outcomes[place]? = some outcome →
        outcome.succeeded = true →
        ∃ value content, replies[place]? = some (.ok value) ∧ value.toBytes = .ok content ∧
          outcome.returnData = Hex.marked content := by
  obtain ⟨replies, each, order, rfl⟩ := exists_replies path
  refine ⟨replies, each, order, ?_⟩
  intro place outcome placed succeeded
  obtain ⟨request, reply, _, replied, rfl⟩ := List.getElem?_zipWith_eq_some.mp placed
  obtain ⟨value, content, rfl, converts, same⟩ := Request.exists_returned succeeded
  exact ⟨value, content, replied, converts, same⟩

/-! ### Calls that an aggregator makes -/

namespace Batch

variable {aggregator : Text} {requests : List Request} {exchanges : List (Chain.Query × Reply)}

theorem resultsIn_eq_ok {reply : Value} {results : List Result}
    (read : resultsIn reply = .ok results) :
    results = [] ∨ ∃ data, reply = .bytes data ∧ decode data = .ok results := by
  unfold resultsIn at read
  split at read
  · exact Or.inl (Except.ok.inj read).symm
  · split at read
    · exact Or.inr ⟨_, rfl, read⟩
    · cases read

/-- Results come from bytes that the aggregator replies. -/
theorem invoke_eq_ok {results : List Result}
    (path : Path (invoke aggregator requests).run exchanges (.ok results)) :
    results = [] ∨ ∃ payload data, encode requests = .ok payload ∧
      exchanges = [(.call aggregator payload none, .ok (.bytes data))] ∧
      decode data = .ok results := by
  unfold invoke at path
  split at path
  · obtain ⟨_, same⟩ := (path_done_iff ..).mp path
    exact Or.inl (Except.ok.inj same)
  · obtain ⟨payload, first, behind, rfl, written, onward⟩ := (path_bind_ok_iff ..).mp path
    obtain ⟨reply, second, last, rfl, asked, ended⟩ := (path_bind_ok_iff ..).mp onward
    obtain ⟨rfl, encoded⟩ := (Attempt.path_ofExcept_iff ..).mp written
    obtain ⟨rfl, read⟩ := (Attempt.path_ofExcept_iff ..).mp ended
    rw [(Attempt.path_question_iff ..).mp asked]
    rcases resultsIn_eq_ok read.symm with none | ⟨data, rfl, decoded⟩
    · exact Or.inl none
    · exact Or.inr ⟨payload, data, encoded.symm, rfl, decoded⟩

/-- A call that succeeded among outcomes was settled by a result in its place. -/
theorem exists_result_of_succeeded {reason : Text} {results : List Result} {place : Nat}
    {outcome : Outcome} (placed : (outcomes (some reason) requests results)[place]? = some outcome)
    (succeeded : outcome.succeeded = true) :
    ∃ result, results[place]? = some result ∧ result.succeeded = true ∧
      outcome.returnData = result.returnData := by
  obtain ⟨within, _⟩ := List.getElem?_eq_some_iff.mp placed
  rw [outcomes_length] at within
  obtain ⟨settled, same, settles⟩ :=
    outcomes_settled reason results (List.getElem?_eq_getElem within)
  cases placed.symm.trans same
  obtain ⟨result, there, success⟩ := settles.succeeded_iff.mp succeeded
  exact ⟨result, there, success, (settles.ofSuccess result there success).1⟩

/-- The outcomes of calls through an aggregator hold what the calls returned to it, each in its
place. -/
theorem exists_held_returned {answers : List Outcome}
    (path : Path (outcomesThrough aggregator requests).run exchanges (.ok answers)) {place : Nat}
    {outcome : Outcome} (placed : answers[place]? = some outcome)
    (succeeded : outcome.succeeded = true) :
    ∃ payload data held content, encode requests = .ok payload ∧
      exchanges = [(.call aggregator payload none, .ok (.bytes data))] ∧
      Abi.HoldsResults data held ∧ held[place]? = some (true, content) ∧
      outcome.returnData = Hex.marked content := by
  obtain ⟨ended, invoked, same⟩ := (path_outcomesThrough_iff ..).mp path
  obtain ⟨reason, results, rfl, read⟩ := outcomesAfter_eq_ok same.symm
  obtain ⟨result, there, success, shown⟩ := exists_result_of_succeeded placed succeeded
  have filled : results ≠ [] := by
    rintro rfl
    cases there
  rw [read.resolve_right filled] at invoked
  obtain ⟨payload, data, encoded, asked, decoded⟩ := (invoke_eq_ok invoked).resolve_left filled
  obtain ⟨held, holds, rfl⟩ := (decode_eq_ok_iff ..).mp decoded
  rw [List.getElem?_map] at there
  obtain ⟨⟨flag, content⟩, stands, rfl⟩ := Option.map_eq_some_iff.mp there
  cases success
  exact ⟨payload, data, held, content, encoded, asked, holds, stands, shown⟩

end Batch
end Call

/-! ### Surveys -/

namespace Analysis

/-- The call in a place has returned bytes: in the reply to the call itself, or in the same place
among the results that the aggregator replies. -/
inductive Returned (plan : Plan) (calls : List Call.Request) (exchanges : List (Query × Reply))
    (place : Nat) (content : List UInt8) : Prop
  | byItself {call : Call.Request} {value : Value} (apart : plan.usesBatch = false)
      (placed : calls[place]? = some call)
      (replied : (.chain (call.query plan.sender), .ok value) ∈ exchanges)
      (converts : value.toBytes = .ok content) : Returned plan calls exchanges place content
  | carried {payload : Text} {data : List UInt8} {held : List (Bool × List UInt8)}
      (together : plan.usesBatch = true) (written : Call.Batch.encode calls = .ok payload)
      (replied : (.chain (.call plan.aggregator payload none), .ok (.bytes data)) ∈ exchanges)
      (holds : Abi.HoldsResults data held) (placed : held[place]? = some (true, content)) :
      Returned plan calls exchanges place content

theorem Returned.of_subset {plan : Plan} {calls : List Call.Request}
    {exchanges more : List (Query × Reply)} {place : Nat} {content : List UInt8}
    (returned : Returned plan calls exchanges place content) (subset : exchanges ⊆ more) :
    Returned plan calls more place content := by
  cases returned with
  | byItself apart placed replied converts => exact .byItself apart placed (subset replied) converts
  | carried together written replied holds placed =>
      exact .carried together written (subset replied) holds placed

theorem invoke_returned {plan : Plan} {report : Report} {calls : List Call.Request}
    {exchanges : List (Query × Reply)} {outcomes : List Call.Outcome}
    (path : Path (invoke plan report calls).run exchanges (.ok outcomes)) {place : Nat}
    {outcome : Call.Outcome} (placed : outcomes[place]? = some outcome)
    (succeeded : outcome.succeeded = true) :
    ∃ content, Returned plan calls exchanges place content ∧
      outcome.returnData = Hex.marked content := by
  rcases path_invoke_cases path with
    ⟨_, _, same⟩ | ⟨together, inner, ended, rfl, asked, same⟩ |
      ⟨apart, inner, answers, rfl, made, same⟩
  · cases same
    cases placed
  · rw [(mapError_eq_ok_iff ..).mp same.symm] at asked
    obtain ⟨payload, data, held, content, written, rfl, holds, stands, shown⟩ :=
      Call.Batch.exists_held_returned asked placed succeeded
    exact ⟨content, .carried together written (List.mem_singleton.mpr rfl) holds stands, shown⟩
  · cases same
    obtain ⟨replies, each, order, returned⟩ := Call.exists_replies_returned made
    obtain ⟨value, content, replied, converts, shown⟩ := returned place outcome placed succeeded
    obtain ⟨within, _⟩ := List.getElem?_eq_some_iff.mp replied
    rw [each] at within
    have called := List.getElem?_eq_getElem within
    have paired : ((calls.map (Call.Request.query plan.sender)).zip replies)[place]? =
        some (calls[place].query plan.sender, .ok value) := by
      rw [List.getElem?_zip_eq_some, List.getElem?_map, called]
      exact ⟨rfl, replied⟩
    have exchanged := order.mem_iff.mpr (List.mem_of_getElem? paired)
    exact ⟨content, .byItself apart called (List.mem_map.mpr ⟨_, exchanged, rfl⟩) converts, shown⟩

/-- What a report shows for a function is what is shown for the bytes that the call of the function
returned. -/
theorem survey_shows_returned {plan : Plan} {text : Text} {exchanges : List (Query × Reply)}
    {report : Report} (path : Path (survey plan (.text text)) exchanges (.ok report))
    {entry : Text × Text} (member : entry ∈ report.decoded) :
    ∃ place call content, (requests report)[place]? = some call ∧ call.selector = entry.1 ∧
      Returned plan (requests report) exchanges place content ∧
      entry.2 = decode (.raw content) := by
  obtain ⟨address, _, steps⟩ := path_survey_ok path
  obtain ⟨located, code, inspected, outcomes, first, second, third, rfl, _, _, invoking, rfl⟩ :=
    path_stages_ok steps
  obtain ⟨outcome, kept, rfl⟩ := List.mem_map.mp (Register.mem_of_mem_ofEntries member)
  obtain ⟨among, succeeded⟩ := List.mem_filter.mp kept
  obtain ⟨place, placed⟩ := List.getElem?_of_mem among
  obtain ⟨content, returned, shown⟩ := invoke_returned invoking placed succeeded
  have selectors := congrArg (·[place]?)
    (Call.map_selector_of_answered (invoke_answered invoking))
  simp only [List.getElem?_map, placed, Option.map_some] at selectors
  obtain ⟨call, called, same⟩ := Option.map_eq_some_iff.mp selectors.symm
  refine ⟨place, call, content, called, same, ?_, ?_⟩
  · exact returned.of_subset fun exchange present =>
      List.mem_append_right _ (List.mem_append_right _ present)
  · rw [shown]
    exact (marked_readsAlike content).shown

/-- Return data is read by its bytes alone.  Text is as good as the bytes that it spells behind a
marker or without one, and what is shown for a call that succeeded, whether it was made by itself
or an aggregator made it, is what is shown for the bytes that it returned. -/
theorem decoding_depends_on_bytes :
    (∀ text content, Hex.SpellsMarked text content →
      ReadsAlike (.spelled text) (.raw content)) ∧
    (∀ limit schedule sender requests exchanges outcomes,
      Path (Call.parallel limit schedule sender requests) exchanges outcomes →
      ∃ replies : List Reply, replies.length = requests.length ∧
        exchanges.Perm ((requests.map (Call.Request.query sender)).zip replies) ∧
        ∀ (place : Nat) (outcome : Call.Outcome), outcomes[place]? = some outcome →
          outcome.succeeded = true →
          ∃ value content, replies[place]? = some (.ok value) ∧ value.toBytes = .ok content ∧
            ReadsAlike (.spelled outcome.returnData) (.raw content)) ∧
    (∀ aggregator requests exchanges outcomes,
      Path (Call.Batch.outcomesThrough aggregator requests).run exchanges (.ok outcomes) →
      ∀ (place : Nat) (outcome : Call.Outcome), outcomes[place]? = some outcome →
        outcome.succeeded = true →
        ∃ payload data held content, Call.Batch.encode requests = .ok payload ∧
          exchanges = [(.call aggregator payload none, .ok (.bytes data))] ∧
          Abi.HoldsResults data held ∧ held[place]? = some (true, content) ∧
          ReadsAlike (.spelled outcome.returnData) (.raw content)) ∧
    ∀ plan text exchanges report, Path (survey plan (.text text)) exchanges (.ok report) →
      ∀ entry ∈ report.decoded,
        ∃ place call content, (requests report)[place]? = some call ∧ call.selector = entry.1 ∧
          Returned plan (requests report) exchanges place content ∧
          entry.2 = decode (.raw content) := by
  refine ⟨?_, ?_, ?_, ?_⟩
  · intro text content spells
    exact (spelled_spells spells).readsAlike (raw_spells content)
  · intro limit schedule sender requests exchanges outcomes path
    obtain ⟨replies, each, order, returned⟩ := Call.exists_replies_returned path
    refine ⟨replies, each, order, ?_⟩
    intro place outcome placed succeeded
    obtain ⟨value, content, replied, converts, same⟩ := returned place outcome placed succeeded
    refine ⟨value, content, replied, converts, ?_⟩
    rw [same]
    exact marked_readsAlike content
  · intro aggregator requests exchanges outcomes path place outcome placed succeeded
    obtain ⟨payload, data, held, content, encoded, asked, holds, stands, same⟩ :=
      Call.Batch.exists_held_returned path placed succeeded
    refine ⟨payload, data, held, content, encoded, asked, holds, stands, ?_⟩
    rw [same]
    exact marked_readsAlike content
  · intro plan text exchanges report path entry member
    exact survey_shows_returned path member

/-- A word with capital and small letters behind a capital marker, and what a survey shows for a
function that gives a word. -/
theorem decoding_depends_on_bytes_of_words :
    let cased := "0X".toList ++ (List.replicate 62 '0' ++ "fF".toList)
    let plain := "0x".toList ++ List.replicate 40 'a'
    Hex.SpellsMarked cased (Abi.word 0xff) ∧
    decode (.spelled cased) = "255".toList ∧ decode (.raw (Abi.word 0xff)) = "255".toList ∧
    ∃ exchanges report, Path (survey {} (.text plain)) exchanges (.ok report) ∧
      report.decoded = [("0x01020304".toList, "7".toList)] ∧
      ∃ place content, Returned {} (requests report) exchanges place content ∧
        decode (.raw content) = "7".toList := by
  intro cased plain
  obtain ⟨spelled, _, _, surveyed⟩ := decoding_depends_on_bytes
  have spells : Hex.SpellsMarked cased (Abi.word 0xff) := .behind (by decide) (by decide)
  have alike := spelled cased (Abi.word 0xff) spells
  have number : decode (.spelled cased) = "255".toList := by decide +kernel
  refine ⟨spells, number, by rw [← alike.shown, number], ?_⟩
  have shown : ((survey {} (.text plain)).answeredBy twoFunctions).toOption.map (·.decoded) =
      some [("0x01020304".toList, "7".toList)] := by
    decide +kernel
  have path := path_answeredBy twoFunctions (survey {} (.text plain))
  cases ended : (survey {} (.text plain)).answeredBy twoFunctions with
  | error failure =>
      rw [ended] at shown
      cases shown
  | ok report =>
      rw [ended] at shown path
      have decoded : report.decoded = [("0x01020304".toList, "7".toList)] := Option.some.inj shown
      have member : ("0x01020304".toList, "7".toList) ∈ report.decoded := by
        rw [decoded]
        exact List.mem_singleton.mpr rfl
      obtain ⟨place, _, content, _, _, returned, same⟩ := surveyed _ _ _ _ path _ member
      exact ⟨_, report, path, decoded, place, content, returned, same.symm⟩

end Analysis
end ContractSurvey
