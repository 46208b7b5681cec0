/-
The data of calls on their way to a chain.

Calls reach a chain side by side, where the client marks their data, or through an aggregator,
where their data are read as bytes.  Both ways carry the same bytes, unless the marker of the
data has a capital letter.  The client does not take this for a marker and puts another one in
front of it, and what leaves then denotes no bytes.
-/

import ContractSurvey.Proofs.Call.Encoding
import ContractSurvey.Proofs.Call.Parallel
import ContractSurvey.Proofs.Chain.Client

namespace ContractSurvey

open Dialogue

/-- A text is the marker with digits of bytes behind it. -/
def Hex.Denotes (text : Text) (bytes : List UInt8) : Prop :=
  ∃ digits, text = '0' :: 'x' :: digits ∧ Hex.Spells digits bytes

def Hex.HasCapitalMarker (text : Text) : Prop :=
  ∃ rest, text = '0' :: 'X' :: rest

/-- What leaves for data denotes their bytes and no others, or else is the data whole behind
another marker and denotes nothing. -/
structure Hex.Marking (data : Text) (content : List UInt8) (sent : Text) : Prop where
  plain : ¬Hex.HasCapitalMarker data →
    ∀ other, Hex.Denotes sent other ↔ other = content
  capital : Hex.HasCapitalMarker data →
    sent = '0' :: 'x' :: data ∧ ∀ other, ¬Hex.Denotes sent other

namespace Call

/-- Target and data of a request are digits of bytes behind optional markers. -/
structure Request.Spells (request : Request) (call : List UInt8 × List UInt8) : Prop where
  twenty : call.1.length = Address.byteCount
  target : Hex.Spells (Hex.dropMarker request.target) call.1
  data : Hex.Spells (Hex.dropMarker request.data) call.2

/-- What leaves for a request has its target and the account in their one form. -/
def Request.LeavesAs (account : Option Text) (spelled : Request × (List UInt8 × List UInt8))
    (sent : Chain.Request) : Prop :=
  ∃ data, sent = .call (Address.checksummed (Hex.ofBytes spelled.2.1)) data account ∧
    Hex.Marking spelled.1.data spelled.2.2 data

/-! ### The two ways of data -/

theorem denotes_marked_iff {digits : Text} {content : List UInt8}
    (spells : Hex.Spells digits content) (other : List UInt8) :
    Hex.Denotes ('0' :: 'x' :: digits) other ↔ other = content := by
  constructor
  · rintro ⟨_, ⟨⟩, again⟩
    exact Hex.ofBytes_injective (again.symm.trans spells)
  · rintro rfl
    exact ⟨digits, rfl, spells⟩

theorem not_denotes_of_capital (rest : Text) (content : List UInt8) :
    ¬Hex.Denotes ('0' :: 'x' :: '0' :: 'X' :: rest) content := by
  rintro ⟨digits, same, spells⟩
  cases same
  have letter := spells.isDigit (List.mem_cons_of_mem _ (List.mem_cons_self ..))
  exact absurd letter (by decide)

theorem exists_callData {data : Text} {content : List UInt8}
    (spells : Hex.Spells (Hex.dropMarker data) content) :
    ∃ sent, Chain.Client.callData (.text data) = .ok sent ∧ Hex.Marking data content sent := by
  refine ⟨_, rfl, ?_⟩
  by_cases marker : Hex.hasMarker data = true
  · obtain ⟨letter, digits, rfl | rfl, rfl⟩ := Hex.exists_of_hasMarker marker
    · refine ⟨fun _ => denotes_marked_iff spells, ?_⟩
      rintro ⟨rest, impossible⟩
      cases impossible
    · refine ⟨fun small => absurd ⟨digits, rfl⟩ small, fun _ => ⟨rfl, ?_⟩⟩
      exact not_denotes_of_capital digits
  · have unmarked : ¬Text.beginsWith "0x".toList data = true := by
      intro begins
      obtain ⟨digits, rfl⟩ := List.isPrefixOf_iff_prefix.mp begins
      exact marker rfl
    rw [Hex.dropMarker, if_neg marker] at spells
    rw [if_neg unmarked]
    refine ⟨fun _ => denotes_marked_iff spells, ?_⟩
    rintro ⟨rest, rfl⟩
    exact absurd rfl marker

theorem Request.Spells.isCarriedBy {request : Request} {call : List UInt8 × List UInt8}
    (spells : request.Spells call) : request.IsCarriedBy call :=
  ⟨spells.twenty, Address.ofText_of_spells spells.twenty spells.target,
    Hex.ofText_of_spells spells.data⟩

/-! ### Calls side by side -/

section Parallel

variable {sender account : Option Text} {requests : List Request}
  {calls : List (List UInt8 × List UInt8)}

theorem Request.Spells.exists_requestsFor {request : Request}
    {call : List UInt8 × List UInt8} (spells : request.Spells call) (sender : Option Text) :
    ∃ sent : Option Text → Chain.Request,
      Chain.Client.requestsFor (request.query sender) =
        ((Chain.Client.callerOf sender).map sent).toOption.toList ∧
      ∀ account, Request.LeavesAs account (request, call) (sent account) := by
  obtain ⟨data, given, denotes⟩ := exists_callData spells.data
  refine ⟨.call _ data, ?_, fun account => ⟨data, rfl, denotes⟩⟩
  unfold Chain.Client.requestsFor Request.query
  rw [Chain.Client.ofQuery_call spells.twenty spells.target given]

theorem requestsFor_of_refused (spelled : List.Forall₂ Request.Spells requests calls)
    {fault : Fault} (refused : Chain.Client.callerOf sender = .error fault) :
    (requests.map (Request.query sender)).flatMap Chain.Client.requestsFor = [] := by
  induction spelled with
  | nil => rfl
  | cons first _ ih =>
      obtain ⟨sent, same, _⟩ := first.exists_requestsFor sender
      rw [List.map_cons, List.flatMap_cons, same, refused, ih]
      rfl

theorem requestsFor_of_accepted (spelled : List.Forall₂ Request.Spells requests calls)
    (accepted : Chain.Client.callerOf sender = .ok account) :
    List.Forall₂ (Request.LeavesAs account) (requests.zip calls)
      ((requests.map (Request.query sender)).flatMap Chain.Client.requestsFor) := by
  induction spelled with
  | nil => exact .nil
  | cons first _ ih =>
      obtain ⟨sent, same, leaves⟩ := first.exists_requestsFor sender
      rw [List.map_cons, List.flatMap_cons, same, accepted]
      exact .cons (leaves account) ih

theorem asked_of_parallel {limit : Int} {schedule : Pool.Schedule}
    {exchanges : List (Chain.Request × Reply)} {outcomes : List Outcome}
    (path : Path ((parallel limit schedule sender requests).via Chain.Client.answer) exchanges
      outcomes) :
    (exchanges.map Prod.fst).Perm
      ((requests.map (Request.query sender)).flatMap Chain.Client.requestsFor) := by
  obtain ⟨inner, through, same⟩ :=
    exists_path_of_via (fun _ _ _ own => Chain.Client.asked_of_answer own) path
  rw [same]
  exact (parallel_asks_each_once through).flatMap_right _

end Parallel

/-- Both ways of making calls start from the same bytes, and they deliver the same bytes for
every call whose data do not begin with a capital marker. -/
theorem parallel_sends_what_encode_writes {limit : Int} {schedule : Pool.Schedule}
    {sender : Option Text} {requests : List Request} {calls : List (List UInt8 × List UInt8)}
    (spelled : List.Forall₂ Request.Spells requests calls)
    {exchanges : List (Chain.Request × Reply)} {outcomes : List Outcome}
    (path : Path ((parallel limit schedule sender requests).via Chain.Client.answer) exchanges
      outcomes) :
    Batch.encode requests =
      .ok (Hex.marked (Batch.selectorBytes ++ Abi.writeCalls false calls)) ∧
    (∀ fault, Chain.Client.callerOf sender = .error fault → exchanges = []) ∧
    ∀ account, Chain.Client.callerOf sender = .ok account →
      ∃ sent, (exchanges.map Prod.fst).Perm sent ∧
        List.Forall₂ (Request.LeavesAs account) (requests.zip calls) sent := by
  have asked := asked_of_parallel path
  refine ⟨?_, ?_, ?_⟩
  · have carried := spelled.imp fun _ _ spells => spells.isCarriedBy
    exact (Batch.encode_eq_ok_iff ..).mpr ⟨calls, carried, (Batch.payload_eq_marked calls).symm⟩
  · intro fault refused
    rw [requestsFor_of_refused spelled refused] at asked
    exact List.map_eq_nil_iff.mp asked.eq_nil
  · intro account accepted
    exact ⟨_, asked, requestsFor_of_accepted spelled accepted⟩

/-- Calls whose data have a marker, none and a capital one. -/
def markedCalls : List Request :=
  [⟨"0x".toList ++ List.replicate 40 '1', "0xABcd".toList⟩,
    ⟨List.replicate 40 'b', "12".toList⟩,
    ⟨"0X".toList ++ List.replicate 40 'C', "0X12".toList⟩]

def markedCallsBytes : List (List UInt8 × List UInt8) :=
  [(List.replicate 20 0x11, [0xab, 0xcd]), (List.replicate 20 0xbb, [0x12]),
    (List.replicate 20 0xcc, [0x12])]

theorem parallel_sends_markedCalls :
    let accountOf (byte : UInt8) := Address.checksummed (Hex.ofBytes (List.replicate 20 byte))
    let sending := (parallel 2 [1, 0] none markedCalls).via Chain.Client.answer
    List.Forall₂ Request.Spells markedCalls markedCallsBytes ∧
      Chain.Client.callerOf none = .ok none ∧
      ∃ first second, Hex.Denotes first [0xab, 0xcd] ∧ Hex.Denotes second [0x12] ∧
        (sending.asked fun _ => .ok (.bytes [])).Perm
          [.call (accountOf 0x11) first none, .call (accountOf 0xbb) second none,
            .call (accountOf 0xcc) "0x0X12".toList none] := by
  intro accountOf sending
  have spelled : List.Forall₂ Request.Spells markedCalls markedCallsBytes :=
    .cons ⟨rfl, by decide, by decide⟩
      (.cons ⟨rfl, by decide, by decide⟩ (.cons ⟨rfl, by decide, by decide⟩ .nil))
  have path := path_answeredBy (fun _ => .ok (.bytes [])) sending
  obtain ⟨sent, asked, leave⟩ :=
    (parallel_sends_what_encode_writes spelled path).2.2 none rfl
  rw [map_fst_asked] at asked
  refine ⟨spelled, rfl, ?_⟩
  cases leave with
  | cons leaves later =>
      obtain ⟨first, rfl, ofFirst⟩ := leaves
      cases later with
      | cons leaves later =>
          obtain ⟨second, rfl, ofSecond⟩ := leaves
          cases later with
          | cons leaves later =>
              obtain ⟨third, rfl, ofThird⟩ := leaves
              cases later
              have denotes := (ofFirst.plain (by rintro ⟨_, ⟨⟩⟩) _).mpr rfl
              have denotesToo := (ofSecond.plain (by rintro ⟨_, ⟨⟩⟩) _).mpr rfl
              obtain ⟨rfl, _⟩ := ofThird.capital ⟨"12".toList, rfl⟩
              exact ⟨first, second, denotes, denotesToo, asked⟩

/-- Data with a capital marker do not arrive. -/
theorem parallel_spoils_capital_marker :
    let request : Request := ⟨"0x".toList ++ List.replicate 40 '1', "0X12".toList⟩
    let account := List.replicate 20 0x11
    let sending := (parallel 2 [] none [request]).via Chain.Client.answer
    request.Spells (account, [0x12]) ∧
      Batch.encode [request] = .ok (Hex.marked (Batch.selectorBytes ++
        Abi.writeCalls false [(account, [0x12])])) ∧
      (sending.asked fun _ => .ok (.bytes [])) =
        [.call (Address.checksummed (Hex.ofBytes account)) "0x0X12".toList none] ∧
      ¬Hex.Denotes "0x0X12".toList [0x12] := by
  intro request account sending
  have spells : request.Spells (account, [0x12]) := ⟨rfl, by decide, by decide⟩
  have written : Batch.encode [request] = .ok (Batch.payload [(account, [0x12])]) :=
    (Batch.encode_eq_ok_iff ..).mpr ⟨_, .cons spells.isCarriedBy .nil, rfl⟩
  rw [Batch.payload_eq_marked] at written
  refine ⟨spells, written, ?_, not_denotes_of_capital _ _⟩
  have prepared : Chain.Client.requestsFor (request.query none) =
      [.call (Address.checksummed (Hex.ofBytes account)) "0x0X12".toList none] := by
    have given : Chain.Client.callData (.text request.data) = .ok "0x0X12".toList := rfl
    unfold Chain.Client.requestsFor Request.query
    rw [Chain.Client.ofQuery_call spells.twenty spells.target given none]
    rfl
  have asked := asked_of_parallel (path_answeredBy (fun _ => .ok (.bytes [])) sending)
  rw [map_fst_asked, List.map_cons, List.map_nil, List.flatMap_singleton, prepared] at asked
  exact List.perm_singleton.mp asked

end Call
end ContractSurvey
