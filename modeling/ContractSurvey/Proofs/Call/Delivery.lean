/-
What any reply of the aggregator comes to.

Calls through an aggregator ask for one thing, and whatever is replied there is one outcome
for each call, in the order of the calls.  Results that can be read settle the calls in their
places: results beyond the calls settle nothing, and calls beyond the results fail.  A reply
that cannot be read as a whole, be it for a single entry, settles no call, and all calls fail
for the same reason.
-/

import ContractSurvey.Proofs.Analysis.Invocation
import ContractSurvey.Proofs.Call.Batch

namespace ContractSurvey

/-! ### Entries that cannot be read -/

namespace Abi

private theorem readEach_error {Item : Type} {read : Nat → Except Fault Item}
    {places : List Nat} {place : Nat} {cause : Fault} (member : place ∈ places)
    (unreadable : read place = .error cause) : ∃ first, readEach read places = .error first := by
  induction places with
  | nil => cases member
  | cons start rest ih =>
      unfold readEach
      cases first : read start with
      | error earlier => exact ⟨earlier, rfl⟩
      | ok item =>
          rcases List.mem_cons.mp member with same | later
          · rw [← same, unreadable] at first
            cases first
          · obtain ⟨second, refused⟩ := ih later
            rw [refused]
            exact ⟨second, rfl⟩

/-- The heads of the list of results in data lead to its entries, and one of the entries cannot
be read. -/
def HasUnreadableEntry (data : List UInt8) : Prop :=
  ∃ start count places, readPlace .tuple data 0 1 0 = .ok start ∧
    readNumber data start = .ok count ∧
    readPlaces data (start + wordSize) count 0 count = .ok places ∧
    ∃ place ∈ places, ∃ cause, readResult data place = .error cause

/-- A single entry that cannot be read, wherever it stands, leaves no results at all. -/
theorem HasUnreadableEntry.exists_error {data : List UInt8}
    (broken : HasUnreadableEntry data) : ∃ cause, readResults data = .error cause := by
  obtain ⟨start, count, places, led, counted, located, place, member, cause, refused⟩ := broken
  obtain ⟨first, failed⟩ := readEach_error member refused
  have listed : readArray (readResult data) data start = .error first := by
    unfold readArray
    rw [counted]
    change (readPlaces data (start + wordSize) count 0 count >>= _) = _
    rw [located]
    exact failed
  unfold readResults
  rw [led]
  exact ⟨first, listed⟩

end Abi

namespace Call

open Dialogue

/-! ### Outcomes in their places -/

/-- What the result in the place of a call makes of the call: it succeeds with the data of a
result that succeeded, and fails for a given reason without one. -/
structure Request.IsSettledBy (request : Request) (reason : Text)
    (result? : Option Batch.Result) (outcome : Outcome) : Prop where
  selector : outcome.selector = Text.small (request.data.take 10)
  succeeded_iff : outcome.succeeded = true ↔
    ∃ result, result? = some result ∧ result.succeeded = true
  ofSuccess : ∀ result, result? = some result → result.succeeded = true →
    outcome.returnData = result.returnData ∧ outcome.revertReason = none
  ofFailure : outcome.succeeded = false →
    outcome.returnData = "0x".toList ∧ outcome.revertReason = some reason

theorem Request.isSettledBy_nothing (request : Request) (reason : Text) :
    request.IsSettledBy reason none (request.failure reason) where
  selector := rfl
  succeeded_iff := by
    constructor
    · intro impossible
      cases impossible
    · rintro ⟨result, impossible, _⟩
      cases impossible
  ofSuccess := by
    intro result impossible
    cases impossible
  ofFailure _ := ⟨rfl, rfl⟩

theorem Request.isSettledBy_result (request : Request) (reason : Text)
    (result : Batch.Result) :
    request.IsSettledBy reason (some result)
      (if result.succeeded then
        { selector := request.selector, succeeded := true, returnData := result.returnData }
      else request.failure reason) := by
  cases success : result.succeeded with
  | true =>
      rw [if_pos rfl]
      constructor
      case selector => rfl
      case succeeded_iff => exact iff_of_true rfl ⟨result, rfl, success⟩
      case ofSuccess =>
        rintro _ ⟨⟩ _
        exact ⟨rfl, rfl⟩
      case ofFailure =>
        intro impossible
        cases impossible
  | false =>
      rw [if_neg Bool.false_ne_true]
      constructor
      case selector => rfl
      case succeeded_iff =>
        apply iff_of_false Bool.false_ne_true
        rintro ⟨_, ⟨⟩, impossible⟩
        rw [success] at impossible
        cases impossible
      case ofSuccess =>
        rintro _ ⟨⟩ impossible
        rw [success] at impossible
        cases impossible
      case ofFailure =>
        intro _
        exact ⟨rfl, rfl⟩

namespace Batch

theorem outcomes_length (reason : Option Text) (requests : List Request)
    (results : List Result) : (outcomes reason requests results).length = requests.length := by
  induction requests generalizing results with
  | nil => rfl
  | cons request rest ih =>
      cases results with
      | nil => exact congrArg Nat.succ (ih [])
      | cons result later => exact congrArg Nat.succ (ih later)

theorem outcomes_nil (reason : Text) (requests : List Request) :
    outcomes (some reason) requests [] = requests.map fun request => request.failure reason := by
  induction requests with
  | nil => rfl
  | cons request rest ih =>
      rw [outcomes, ih]
      rfl

/-- Each call is settled by the result in its own place, and by nothing else. -/
theorem outcomes_settled (reason : Text) {requests : List Request} {request : Request}
    (results : List Result) {place : Nat} (placed : requests[place]? = some request) :
    ∃ outcome, (outcomes (some reason) requests results)[place]? = some outcome ∧
      request.IsSettledBy reason results[place]? outcome := by
  induction requests generalizing results place with
  | nil => cases placed
  | cons first rest ih =>
      cases place with
      | zero =>
          cases placed
          cases results with
          | nil => exact ⟨_, rfl, request.isSettledBy_nothing reason⟩
          | cons result later => exact ⟨_, rfl, request.isSettledBy_result reason result⟩
      | succ fewer =>
          cases results with
          | nil => exact ih [] placed
          | cons result later => exact ih later placed

/-! ### Replies -/

/-- The results that a reply gives: none when it is empty, and otherwise those that are read
from it. -/
inductive Gives : Reply → List Result → Prop
  | nothing : Gives (.ok (.bytes [])) []
  | results {data : List UInt8} {results : List Result} (present : data ≠ [])
      (read : decode data = .ok results) : Gives (.ok (.bytes data)) results

/-- The fault of a reply that gives no results: the one that is reported, or the one for which
it cannot be read. -/
inductive Lacks : Reply → Fault → Prop
  | reported (fault : Fault) : Lacks (.error fault) fault
  | unreadable {data : List UInt8} {fault : Fault} (present : data ≠ [])
      (refused : decode data = .error fault) : Lacks (.ok (.bytes data)) fault

private theorem resultsIn_bytes {data : List UInt8} (present : data ≠ []) :
    resultsIn (.bytes data) = decode data := by
  cases data with
  | nil => exact absurd rfl present
  | cons first rest => rfl

theorem Gives.bind_eq {reply : Reply} {results : List Result} (gives : Gives reply results) :
    reply.bind resultsIn = .ok results := by
  cases gives with
  | nothing => rfl
  | results present read => exact (resultsIn_bytes present).trans read

theorem Lacks.bind_eq {reply : Reply} {fault : Fault} (lacks : Lacks reply fault) :
    reply.bind resultsIn = .error fault := by
  cases lacks with
  | reported => rfl
  | unreadable present refused => exact (resultsIn_bytes present).trans refused

theorem Lacks.isFatal {reply : Reply} {fault : Fault} (lacks : Lacks reply fault)
    (ordinary : reply.IsOrdinary) : fault.isFatal = false := by
  cases lacks with
  | reported => exact ordinary fault rfl
  | @unreadable data _ present refused =>
      unfold decode at refused
      cases read : Abi.readResults data with
      | ok results =>
          rw [read] at refused
          cases refused
      | error cause =>
          rw [read] at refused
          cases refused
          rfl

theorem exists_lacks_of_unreadableEntry {data : List UInt8}
    (broken : Abi.HasUnreadableEntry data) : ∃ fault, Lacks (.ok (.bytes data)) fault := by
  obtain ⟨cause, refused⟩ := broken.exists_error
  have present : data ≠ [] := by
    rintro rfl
    obtain ⟨start, _, _, impossible, _⟩ := broken
    cases impossible
  refine ⟨.encoding cause, .unreadable present ?_⟩
  unfold decode
  rw [refused]
  rfl

/-! ### Calls through an aggregator -/

/-- What the outcomes of calls are like when the aggregator gives a reply. -/
structure SettlesEach (requests : List Request) (reply : Reply) (answers : List Outcome) :
    Prop where
  length : answers.length = requests.length
  selectors : answers.map (·.selector) =
    requests.map fun request => Text.small (request.data.take 10)
  ofResults : ∀ results, Gives reply results → ∀ (place : Nat) (request : Request),
    requests[place]? = some request → ∃ outcome, answers[place]? = some outcome ∧
      request.IsSettledBy "execution reverted".toList results[place]? outcome
  ofFault : ∀ fault, Lacks reply fault → answers = requests.map fun request => {
    selector := Text.small (request.data.take 10)
    succeeded := false
    returnData := "0x".toList
    revertReason := some (RevertReason.normalized (some fault.detail)) }

theorem settlesEach_of_gives {requests : List Request} {reply : Reply} {results : List Result}
    (gives : Gives reply results) :
    SettlesEach requests reply (outcomes (some RevertReason.notice) requests results) where
  length := outcomes_length _ requests results
  selectors := map_selector_of_answered (outcomes_answered _ requests results)
  ofResults := by
    intro others again place request placed
    cases gives.bind_eq.symm.trans again.bind_eq
    exact outcomes_settled _ results placed
  ofFault := by
    intro fault lacks
    cases gives.bind_eq.symm.trans lacks.bind_eq

theorem settlesEach_of_lacks {requests : List Request} {reply : Reply} {fault : Fault}
    (lacks : Lacks reply fault) :
    SettlesEach requests reply (outcomes (some (reasonOf fault)) requests []) where
  length := outcomes_length _ requests []
  selectors := map_selector_of_answered (outcomes_answered _ requests [])
  ofResults := by
    intro results gives
    cases lacks.bind_eq.symm.trans gives.bind_eq
  ofFault := by
    intro other again
    cases lacks.bind_eq.symm.trans again.bind_eq
    exact outcomes_nil _ requests

theorem gives_or_lacks {reply : Reply} (bytes : reply.HoldsBytes) :
    (∃ results, Gives reply results) ∨ ∃ fault, Lacks reply fault := by
  cases reply with
  | error fault => exact Or.inr ⟨fault, .reported fault⟩
  | ok value =>
      obtain ⟨data, rfl⟩ := bytes value rfl
      by_cases empty : data = []
      · rw [empty]
        exact Or.inl ⟨[], .nothing⟩
      · cases read : decode data with
        | ok results => exact Or.inl ⟨results, .results empty read⟩
        | error fault => exact Or.inr ⟨fault, .unreadable empty read⟩

section Whole

variable {aggregator data : Text} {requests : List Request} {replies : Chain.Query → Reply}

theorem outcomesThrough_of_gives {results : List Result} (nonempty : requests ≠ [])
    (accepted : encode requests = .ok data)
    (gives : Gives (replies (.call aggregator data none)) results) :
    (outcomesThrough aggregator requests).run.answeredBy replies =
      .ok (outcomes (some RevertReason.notice) requests results) :=
  outcomesThrough_of_results nonempty accepted gives.bind_eq

theorem outcomesThrough_of_lacks {fault : Fault} (nonempty : requests ≠ [])
    (accepted : encode requests = .ok data)
    (lacks : Lacks (replies (.call aggregator data none)) fault)
    (ordinary : fault.isFatal = false) :
    (outcomesThrough aggregator requests).run.answeredBy replies =
      .ok (outcomes (some (reasonOf fault)) requests []) := by
  rw [run_outcomesThrough, answeredBy_andThen, invoke_answeredBy nonempty accepted,
    lacks.bind_eq]
  exact if_neg (Bool.eq_false_iff.mp ordinary)

/-- Calls that can be written for the aggregator are carried by one question, and whatever the
aggregator replies to it, each of them has one outcome in its place.  The reply gives results
or it lacks them, and a single entry that cannot be read is enough for the latter. -/
theorem outcomesThrough_settles_each (nonempty : requests ≠ [])
    (accepted : encode requests = .ok data)
    (bytes : (replies (.call aggregator data none)).HoldsBytes)
    (ordinary : (replies (.call aggregator data none)).IsOrdinary) :
    let reply := replies (.call aggregator data none)
    (outcomesThrough aggregator requests).run.asked replies = [.call aggregator data none] ∧
    (∃ answers, (outcomesThrough aggregator requests).run.answeredBy replies = .ok answers ∧
      SettlesEach requests reply answers) ∧
    ((∃ results, Gives reply results) ∨ ∃ fault, Lacks reply fault) ∧
    ∀ content, reply = .ok (.bytes content) → Abi.HasUnreadableEntry content →
      ∃ fault, Lacks reply fault := by
  intro reply
  refine ⟨outcomesThrough_asked nonempty accepted, ?_, gives_or_lacks bytes, ?_⟩
  · rcases gives_or_lacks bytes with ⟨results, gives⟩ | ⟨fault, lacks⟩
    · exact ⟨_, outcomesThrough_of_gives nonempty accepted gives, settlesEach_of_gives gives⟩
    · exact ⟨_, outcomesThrough_of_lacks nonempty accepted lacks (lacks.isFatal ordinary),
        settlesEach_of_lacks lacks⟩
  · intro content held broken
    rw [held]
    exact exists_lacks_of_unreadableEntry broken

end Whole

/-! ### Two replies to three calls -/

def threeCalls : List Request :=
  requestsTo (List.replicate 20 0xaa) [[1, 2, 3, 4], [5, 6, 7, 8], [9, 10, 11, 12]]

/-- Results for two calls, of which the second has failed. -/
def shortReply : List UInt8 :=
  Abi.writeResults [(true, [7]), (false, [])]

/-- Results for two calls, where the zeros that fill up the last one end in a one. -/
def spoiledReply : List UInt8 :=
  (Abi.writeResults [(true, [7]), (true, [8])]).dropLast ++ [1]

theorem outcomesThrough_settles_threeCalls :
    let outcomesOf (data : List UInt8) :=
      (outcomesThrough [] threeCalls).run.answeredBy fun _ => .ok (.bytes data)
    (∃ answers, outcomesOf shortReply = .ok answers ∧
      SettlesEach threeCalls (.ok (.bytes shortReply)) answers ∧
      answers.map (fun outcome => (outcome.succeeded, outcome.returnData)) =
        [(true, "0x07".toList), (false, "0x".toList), (false, "0x".toList)]) ∧
    (∃ answers, outcomesOf spoiledReply = .ok answers ∧
      SettlesEach threeCalls (.ok (.bytes spoiledReply)) answers ∧
      answers.map (fun outcome => (outcome.succeeded, outcome.returnData)) =
        List.replicate 3 (false, "0x".toList)) ∧
    ∃ fault, Lacks (.ok (.bytes spoiledReply)) fault := by
  intro outcomesOf
  have nonempty : threeCalls ≠ [] := by
    intro impossible
    cases impossible
  have twenty : (List.replicate 20 (0xaa : UInt8)).length = Address.byteCount := rfl
  have accepted : encode threeCalls = .ok _ := encode_requestsTo twenty _
  have settled (data : List UInt8) :=
    @outcomesThrough_settles_each [] _ threeCalls (fun _ => .ok (.bytes data)) nonempty
      accepted (Reply.holdsBytes_bytes data) (Reply.isOrdinary_ok _)
  have broken : Abi.HasUnreadableEntry spoiledReply :=
    ⟨32, 2, [128, 256], by decide +kernel, by decide +kernel, by decide +kernel, 256, by decide,
      .filling (List.replicate 30 0 ++ [1]), by decide +kernel⟩
  obtain ⟨_, ⟨short, shortEnded, shortSettled⟩, _⟩ := settled shortReply
  obtain ⟨_, ⟨spoiled, spoiledEnded, spoiledSettled⟩, _, lacks⟩ := settled spoiledReply
  have shown : (outcomesOf shortReply).toOption.map (fun answers =>
        answers.map fun outcome => (outcome.succeeded, outcome.returnData)) =
      some [(true, "0x07".toList), (false, "0x".toList), (false, "0x".toList)] := by
    decide +kernel
  have failed : (outcomesOf spoiledReply).toOption.map (fun answers =>
        answers.map fun outcome => (outcome.succeeded, outcome.returnData)) =
      some (List.replicate 3 (false, "0x".toList)) := by
    decide +kernel
  rw [show outcomesOf shortReply = .ok short from shortEnded] at shown
  rw [show outcomesOf spoiledReply = .ok spoiled from spoiledEnded] at failed
  exact ⟨⟨short, shortEnded, shortSettled, Option.some.inj shown⟩,
    ⟨spoiled, spoiledEnded, spoiledSettled, Option.some.inj failed⟩,
    lacks spoiledReply rfl broken⟩

end Batch
end Call
end ContractSurvey
