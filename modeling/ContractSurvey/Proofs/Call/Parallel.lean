/-
What calls side by side come to.

Each call has a reply of its own, and its outcome is made from this reply alone: neither the
replies to the other calls nor the order in which the calls are answered play any part.  A
fault that is caught where the call is made and a fault that leaves the call lead to the same
outcome.
-/

import ContractSurvey.Call.Parallel
import ContractSurvey.Proofs.Pool.Gather

namespace ContractSurvey
namespace Call

open Dialogue

/-! ### Outcomes -/

theorem Request.outcome_error (request : Request) (fault : Fault) :
    request.outcome (.error fault) = request.failure (reasonOf fault) := by
  change request.settled (if fault.isFatal then _ else _) = _
  by_cases fatal : fault.isFatal = true
  · rw [if_pos fatal]
    rfl
  · rw [if_neg fatal]
    rfl

theorem Request.outcome_of_bytes (request : Request) {value : Value} {content : List UInt8}
    (converts : value.toBytes = .ok content) :
    request.outcome (.ok value) = request.success content := by
  change request.settled ((Fault.ofMisuse value.toBytes).map request.success) = _
  rw [converts]
  rfl

theorem Request.outcome_of_misuse (request : Request) {value : Value} {cause : Value.Misuse}
    (refused : value.toBytes = .error cause) :
    request.outcome (.ok value) = request.failure (reasonOf (.misuse cause)) := by
  change request.settled ((Fault.ofMisuse value.toBytes).map request.success) = _
  rw [refused]
  rfl

/-- What is wrong with a reply that is no byte string and cannot become one. -/
inductive FailsWith : Reply → Fault → Prop
  | raised (fault : Fault) : FailsWith (.error fault) fault
  | unconverted {value : Value} {cause : Value.Misuse} (refused : value.toBytes = .error cause) :
      FailsWith (.ok value) (.misuse cause)

/-- What the outcome of a call says about the reply to it. -/
structure Outcome.Tells (request : Request) (reply : Reply) (outcome : Outcome) : Prop where
  selector : outcome.selector = Text.small (request.data.take 10)
  succeeded : outcome.succeeded = true ↔
    ∃ value content, reply = .ok value ∧ value.toBytes = .ok content
  ofBytes : ∀ value content, reply = .ok value → value.toBytes = .ok content →
    outcome.returnData = "0x".toList ++ Hex.ofBytes content ∧ outcome.revertReason = none
  ofFault : ∀ fault, FailsWith reply fault →
    outcome.returnData = "0x".toList ∧
      outcome.revertReason = some (RevertReason.normalized (some fault.detail))

theorem Request.outcome_tells (request : Request) (reply : Reply) :
    (request.outcome reply).Tells request reply := by
  cases reply with
  | error fault =>
      rw [outcome_error]
      refine ⟨rfl, iff_of_false Bool.false_ne_true nofun, nofun, ?_⟩
      intro cause failed
      cases failed
      exact ⟨rfl, rfl⟩
  | ok value =>
      cases converted : value.toBytes with
      | ok content =>
          rw [outcome_of_bytes request converted]
          refine ⟨rfl, iff_of_true rfl ⟨value, content, rfl, converted⟩, ?_, ?_⟩
          · intro held bytes same conversion
            cases same
            rw [converted] at conversion
            cases conversion
            exact ⟨rfl, rfl⟩
          · intro cause failed
            cases failed with
            | unconverted refused =>
                rw [converted] at refused
                cases refused
      | error misuse =>
          rw [outcome_of_misuse request converted]
          refine ⟨rfl, iff_of_false Bool.false_ne_true ?_, ?_, ?_⟩
          · intro converts
            obtain ⟨held, bytes, same, conversion⟩ := converts
            cases same
            rw [converted] at conversion
            cases conversion
          · intro held bytes same conversion
            cases same
            rw [converted] at conversion
            cases conversion
          · intro cause failed
            cases failed with
            | unconverted refused =>
                rw [converted] at refused
                cases refused
                exact ⟨rfl, rfl⟩

/-! ### Replies to calls -/

/-- The question of a call. -/
def Request.query (sender : Option Text) (request : Request) : Chain.Query :=
  .call request.target request.data sender

private theorem exists_replies_of_together {sender : Option Text} {requests : List Request}
    {exchanges : List (Chain.Query × Reply)} {ended : List (Except Fault Outcome)}
    (together : Pool.Together ((requests.map (single sender)).map Job.waiting) exchanges
      ended) :
    ∃ replies : List Reply, replies.length = requests.length ∧
      exchanges.Perm ((requests.map (Request.query sender)).zip replies) ∧
      ended = List.zipWith Request.attempt requests replies := by
  induction requests generalizing exchanges ended with
  | nil =>
      cases together
      exact ⟨[], rfl, List.Perm.refl _, rfl⟩
  | cons request rest ih =>
      cases together with
      | cons first later mixed =>
          -- A call asks once, so its own exchanges are one exchange.
          obtain ⟨reply, onward, same, answered⟩ := (path_ask_iff ..).mp first
          obtain ⟨none, made⟩ := (path_done_iff ..).mp answered
          obtain ⟨replies, placed, order, attempts⟩ := ih later
          refine ⟨reply :: replies, ?_, ?_, ?_⟩
          · rw [List.length_cons, List.length_cons, placed]
          · rw [same, none] at mixed
            exact mixed.trans (order.cons _)
          · rw [made, attempts]
            rfl

private theorem settled_attempts {requests : List Request} {replies : List Reply} :
    List.zipWith Request.settled requests (List.zipWith Request.attempt requests replies) =
      List.zipWith Request.outcome requests replies := by
  induction requests generalizing replies with
  | nil => rfl
  | cons request rest ih =>
      cases replies with
      | nil => rfl
      | cons reply later => exact congrArg (request.outcome reply :: ·) ih

section Parallel

variable {limit : Int} {schedule : Pool.Schedule} {sender : Option Text}
  {requests : List Request}

/-- The exchanges of calls side by side are one for each call, in some order, and the
outcomes are those of the replies, in the order of the calls. -/
theorem exists_replies {exchanges : List (Chain.Query × Reply)} {outcomes : List Outcome}
    (path : Path (parallel limit schedule sender requests) exchanges outcomes) :
    ∃ replies : List Reply, replies.length = requests.length ∧
      exchanges.Perm ((requests.map (Request.query sender)).zip replies) ∧
      outcomes = List.zipWith Request.outcome requests replies := by
  obtain ⟨ended, gathered, rfl⟩ := (path_andThen_done_iff ..).mp path
  obtain ⟨replies, placed, order, rfl⟩ :=
    exists_replies_of_together (Pool.together_of_gather gathered)
  exact ⟨replies, placed, order, settled_attempts⟩

/-- Calls side by side ask for each call once. -/
theorem parallel_asks_each_once {exchanges : List (Chain.Query × Reply)}
    {outcomes : List Outcome}
    (path : Path (parallel limit schedule sender requests) exchanges outcomes) :
    (exchanges.map Prod.fst).Perm (requests.map (Request.query sender)) := by
  obtain ⟨replies, placed, order, _⟩ := exists_replies path
  have asked := order.map Prod.fst
  rwa [List.map_fst_zip] at asked
  exact Nat.le_of_eq ((List.length_map _).trans placed.symm)

theorem parallel_answeredBy (limit : Int) (schedule : Pool.Schedule) (sender : Option Text)
    (requests : List Request) (replies : Chain.Query → Reply) :
    (parallel limit schedule sender requests).answeredBy replies =
      requests.map fun request =>
        request.outcome (replies (.call request.target request.data sender)) := by
  unfold parallel
  rw [answeredBy_andThen, Pool.gather_answeredBy, List.map_map]
  change List.zipWith Request.settled requests (requests.map _) = _
  rw [List.zipWith_map_right, List.zipWith_self]
  rfl

/-- Calls side by side ask nothing but the calls. -/
theorem asksOnly_parallel {holds : Chain.Query → Prop}
    (calls : ∀ request ∈ requests, holds (.call request.target request.data sender)) :
    AsksOnly holds (parallel limit schedule sender requests) := by
  apply AsksOnly.andThen
  · apply Pool.asksOnly_gather
    intro work member
    obtain ⟨request, present, rfl⟩ := List.mem_map.mp member
    apply (asksOnly_question (calls request present)).andThen
    intro exchanges reply _
    exact asksOnly_done _
  · intro exchanges ended _
    exact asksOnly_done _

/-- Calls side by side give one outcome for each call, in the order of the calls, and an
outcome tells what became of the reply to its own call and of no other.  A fault leads to the
outcome that it would lead to if it were not caught where the call is made. -/
theorem parallel_isolated {exchanges : List (Chain.Query × Reply)} {outcomes : List Outcome}
    (path : Path (parallel limit schedule sender requests) exchanges outcomes) :
    (∃ replies : List Reply, replies.length = requests.length ∧
      exchanges.Perm ((requests.map (Request.query sender)).zip replies) ∧
      outcomes = List.zipWith Request.outcome requests replies) ∧
    ∀ request : Request, (∀ reply, (request.outcome reply).Tells request reply) ∧
      ∀ fault, request.outcome (.error fault) = request.settled (.error fault) :=
  ⟨exists_replies path, fun request => ⟨request.outcome_tells, request.outcome_error⟩⟩

end Parallel

/-- A call that is made twice, one that ends with a fatal fault, and one that is answered with
a text. -/
def mixedCalls : List Request :=
  [{ target := ['a'], data := "0x01020304".toList },
    { target := ['b'], data := "0xAABBCCDDEE".toList },
    { target := ['a'], data := "0x01020304".toList },
    { target := ['c'], data := "0x".toList }]

def mixedReplies : Chain.Query → Reply
  | .call ['a'] _ _ => .ok (.bytes [0x07])
  | .call ['b'] _ _ =>
      .error (.reported {
        details := [.text "execution reverted: paused by owner".toList]
        note := none
        isFatal := true })
  | _ => .ok (.text ['?'])

theorem parallel_mixedCalls_isolated :
    let outcomes := (parallel 2 [1, 0, 1] none mixedCalls).answeredBy mixedReplies
    (∃ replies : List Reply, replies.length = mixedCalls.length ∧
      outcomes = List.zipWith Request.outcome mixedCalls replies) ∧
    outcomes = [
      { selector := "0x01020304".toList, succeeded := true, returnData := "0x07".toList },
      { selector := "0xaabbccdd".toList
        succeeded := false
        revertReason := some "paused by owner".toList },
      { selector := "0x01020304".toList, succeeded := true, returnData := "0x07".toList },
      { selector := "0x".toList
        succeeded := false
        revertReason := some "string argument without an encoding".toList }] := by
  intro outcomes
  have path := path_answeredBy mixedReplies (parallel 2 [1, 0, 1] none mixedCalls)
  obtain ⟨⟨replies, placed, _, made⟩, _⟩ := parallel_isolated path
  exact ⟨⟨replies, placed, made⟩, by decide +kernel⟩

end Call
end ContractSurvey
