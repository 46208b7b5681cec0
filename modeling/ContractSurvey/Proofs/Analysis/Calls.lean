/-
The calls of a survey.

A survey makes at most one call before it has the code: the search for an implementation asks
the beacon of the account.  With the code at hand it searches for the signature of each
selector and calls the functions that take no arguments, as far as their signatures are known.
Side by side these are one call each, and in one round trip they are carried by a single call
to the aggregator.
-/

import ContractSurvey.Proofs.Analysis.Completion
import ContractSurvey.Proofs.Call.Encoding
import ContractSurvey.Proofs.Text.CodePoint

namespace ContractSurvey

open Dialogue

namespace Chain

def Query.isCall : Query → Bool
  | .call _ _ _ => true
  | _ => false

end Chain

namespace Signature

/-- Nothing is known of the arguments of a function, or that it has none. -/
def takesNothing : Option Text → Bool
  | none => true
  | some signature => Text.finishesWith "()".toList signature

theorem isCallable_eq_takesNothing {lookups : List Lookup} {selector : Text}
    {signature : Option Text} {exchanges : List (Query × Reply)}
    (path : Path (search selector lookups).run exchanges (.ok (valueOf signature))) :
    isCallable (signature.map Text.codes) = takesNothing signature := by
  cases signature with
  | none => rfl
  | some content =>
      have filled : (Text.codes content).isEmpty = false := by
        rw [Text.codes, List.isEmpty_map]
        exact List.isEmpty_eq_false_iff.mpr (ne_nil_of_search path)
      change ((Text.codes content).isEmpty || _) = _
      rw [filled, Bool.false_or, Text.isSuffixOf_codes]
      rfl

/-- The selectors whose functions take nothing. -/
def callable (selectors : List Text) (signatures : List (Option Text)) : List Text :=
  ((selectors.zip signatures).filter fun (_, signature) => takesNothing signature).map
    Prod.fst

theorem Finds.length_eq {lookups : List Lookup} {selectors : List Text}
    {signatures : List (Option Text)} {exchanges : List (Query × Reply)}
    (found : Finds lookups selectors exchanges signatures) :
    selectors.length = signatures.length := by
  induction found with
  | nil => rfl
  | cons _ _ ih => rw [List.length_cons, List.length_cons, ih]

theorem Finds.callable_sublist {lookups : List Lookup} {selectors : List Text}
    {signatures : List (Option Text)} {exchanges : List (Query × Reply)}
    (found : Finds lookups selectors exchanges signatures) :
    (callable selectors signatures).Sublist selectors := by
  have kept : (callable selectors signatures).Sublist
      ((selectors.zip signatures).map Prod.fst) := List.filter_sublist.map Prod.fst
  rwa [List.map_fst_zip (Nat.le_of_eq found.length_eq)] at kept

theorem Finds.map_selector_filter {lookups : List Lookup} {selectors : List Text}
    {signatures : List (Option Text)} {exchanges : List (Query × Reply)}
    (found : Finds lookups selectors exchanges signatures) :
    ((List.zipWith classify selectors (signatures.map (Option.map Text.codes))).filter
      (·.isCallable)).map (·.selector) = callable selectors signatures := by
  induction found with
  | nil => rfl
  | @cons selector signature part later selectors signatures searched _ ih =>
      have same := isCallable_eq_takesNothing searched
      unfold callable at ih ⊢
      rw [List.map_cons, List.zipWith_cons_cons, List.zip_cons_cons, List.filter_cons,
        List.filter_cons]
      change (if isCallable (signature.map Text.codes) then _ else _ : List Info).map _ =
        (if takesNothing signature then _ else _ : List (Text × Option Text)).map _
      rw [same]
      split
      · rw [List.map_cons, List.map_cons, ih]
        rfl
      · exact ih

end Signature

/-! ### The search for an implementation -/

namespace Proxy

/-- The one call of a search goes to the beacon. -/
theorem Readings.calls_of_asked (readings : Readings) (address : Text) :
    ((readings.asked address).map Prod.fst).filter Chain.Query.isCall =
      if readings.implementation?.isSome then []
      else readings.beacon?.toList.map fun beacon =>
        .call beacon implementationSelector none := by
  have silent (candidate? : Option Text) (code : List UInt8) :
      ((codeReading candidate? code).map Prod.fst).filter Chain.Query.isCall = [] := by
    cases candidate? <;> rfl
  unfold Readings.asked
  rw [List.map_cons, List.map_append, List.filter_cons_of_neg Bool.false_ne_true,
    List.filter_append, silent, List.nil_append]
  split
  · rfl
  · rw [List.map_cons, List.filter_cons_of_neg Bool.false_ne_true]
    cases readings.beacon? with
    | none => rfl
    | some beacon =>
        change (Chain.Query.call _ _ _ :: (codeReading _ _).map Prod.fst).filter _ = _
        rw [List.filter_cons_of_pos rfl, silent]
        rfl

end Proxy

namespace Analysis

/-! ### Calls among exchanges -/

def Query.isCall : Query → Bool
  | .chain query => query.isCall
  | .signature _ => false

/-- The calls among exchanges, in the order in which they were made. -/
def callsIn (exchanges : List (Query × Reply)) : List Query :=
  (exchanges.map Prod.fst).filter Query.isCall

theorem callsIn_append (first second : List (Query × Reply)) :
    callsIn (first ++ second) = callsIn first ++ callsIn second := by
  unfold callsIn
  rw [List.map_append, List.filter_append]

theorem callsIn_eq_nil {Result : Type} {dialogue : Dialogue Query Result}
    {exchanges : List (Query × Reply)} {result : Result}
    (silent : AsksOnly (fun query => query.isCall = false) dialogue)
    (path : Path dialogue exchanges result) : callsIn exchanges = [] := by
  unfold callsIn
  rw [List.filter_eq_nil_iff]
  intro query member
  obtain ⟨exchange, present, rfl⟩ := List.mem_map.mp member
  rw [silent _ _ path exchange present]
  exact Bool.false_ne_true

theorem callsIn_map_chain (inner : List (Chain.Query × Reply)) :
    callsIn (inner.map (Prod.map Query.chain id)) =
      ((inner.map Prod.fst).filter Chain.Query.isCall).map Query.chain := by
  have renamed : (inner.map (Prod.map Query.chain id)).map Prod.fst =
      (inner.map Prod.fst).map Query.chain := by
    rw [List.map_map, List.map_map]
    rfl
  unfold callsIn
  rw [renamed, List.filter_map]
  rfl

/-! ### Before the code is found -/

/-- A search came to a beacon: it follows proxies, the implementation slot leads to no account
with code, and the beacon slot holds the address of the beacon. -/
def CallsBeacon (followsProxy : Bool) (address : Text) (search : List (Query × Reply))
    (beacon : Text) : Prop :=
  followsProxy = true ∧ ∃ inner behind readings,
    search = inner.map (Prod.map Query.chain id) ++ behind ∧
      Proxy.readingsOf inner = Proxy.Readings.asked readings address ∧
      readings.implementation? = none ∧
      Address.HoldsAddress readings.beaconWord beacon

private theorem calls_of_resolve {address : Text} {inner : List (Chain.Query × Reply)}
    {outcome : Except Fault Proxy.Resolution} (behind : List (Query × Reply))
    (allowed : ∀ exchange ∈ inner, Proxy.Allowed exchange.1 exchange.2)
    (path : Path (Proxy.resolve address).run inner outcome) (silent : callsIn behind = []) :
    let search := inner.map (Prod.map Query.chain id) ++ behind
    callsIn search = [] ∨ ∃ beacon, CallsBeacon true address search beacon ∧
      callsIn search = [.chain (.call beacon Proxy.implementationSelector none)] := by
  intro search
  obtain ⟨resolution, _, readings, asked, _⟩ :=
    Proxy.yieldsAlong_resolve address inner outcome allowed path
  have questions : inner.map Prod.fst = (readings.asked address).map Prod.fst := by
    rw [← asked]
    unfold Proxy.readingsOf
    rw [List.map_map]
    rfl
  have made : callsIn search = ((if readings.implementation?.isSome then []
      else readings.beacon?.toList.map fun beacon =>
        .call beacon Proxy.implementationSelector none).map Query.chain) := by
    rw [callsIn_append, silent, List.append_nil, callsIn_map_chain, questions,
      readings.calls_of_asked]
  cases direct : readings.implementation? with
  | some implementation =>
      rw [direct] at made
      exact Or.inl made
  | none =>
      rw [direct] at made
      cases named : readings.beacon? with
      | none =>
          rw [named] at made
          exact Or.inl made
      | some beacon =>
          rw [named] at made
          have holds := (Address.ofWord?_eq_some_iff ..).mp named
          exact Or.inr ⟨beacon, ⟨rfl, inner, behind, readings, rfl, asked, direct, holds⟩, made⟩

private theorem code_silent (soFar : Report) (address : Text) :
    AsksOnly (fun query => query.isCall = false)
      (Stage.ofChain soFar (Attempt.question (.code address))).run := by
  apply Stage.asksOnly_ofChain
  exact asksOnly_question rfl

theorem locate_calls {followsProxy : Bool} {address : Text}
    {exchanges : List (Query × Reply)} {outcome : Except Interruption (Report × Value)}
    (allowed : ∀ query reply, (Query.chain query, reply) ∈ exchanges →
      Proxy.Allowed query reply)
    (path : Path (locate followsProxy address).run exchanges outcome) :
    callsIn exchanges = [] ∨ ∃ beacon, CallsBeacon followsProxy address exchanges beacon ∧
      callsIn exchanges = [.chain (.call beacon Proxy.implementationSelector none)] := by
  cases followsProxy with
  | false =>
      left
      refine callsIn_eq_nil ?_ path
      apply (code_silent _ address).bind
      intro _ code _
      exact asksOnly_done _
  | true =>
      rcases (path_bind_iff ..).mp path with
        ⟨stop, rfl, stopped⟩ | ⟨resolution, front, behind, rfl, resolved, onward⟩
      · obtain ⟨inner, ended, rfl, searched, _⟩ := (Stage.path_ofChain_iff ..).mp stopped
        have calls := calls_of_resolve []
          (fun exchange member => allowed _ _ (List.mem_map.mpr ⟨exchange, member, rfl⟩))
          searched rfl
        rwa [List.append_nil] at calls
      · obtain ⟨inner, rfl, searched⟩ := (Stage.path_ofChain_ok_iff ..).mp resolved
        refine calls_of_resolve behind (fun exchange member => allowed _ _
          (List.mem_append_left behind (List.mem_map.mpr ⟨exchange, member, rfl⟩)))
          searched (callsIn_eq_nil ?_ onward)
        by_cases proxied : resolution.isProxy = true
        · rw [if_pos proxied]
          apply AsksOnly.bind
          · exact asksOnly_done _
          · intro _ code _
            exact asksOnly_done _
        · rw [if_neg proxied]
          apply (code_silent _ address).bind
          intro _ code _
          exact asksOnly_done _

/-! ### Behind the code -/

/-- Distinct selectors are searched for one after another, and each is classified by the text
that was found for it, if any. -/
theorem describe_finds {allowed : Signature.Query → Reply → Prop}
    {lookups : List Signature.Lookup} {cache : Signature.Cache}
    {selectors : List Text} {exchanges : List (Signature.Query × Reply)}
    {infos : List Signature.Info}
    (textual : Signature.AnswerWith Signature.IsTextual allowed lookups)
    (distinct : selectors.Nodup) (fresh : ∀ selector ∈ selectors, cache.get? selector = none)
    (permitted : ∀ exchange ∈ exchanges, allowed exchange.1 exchange.2)
    (path : Path (describe lookups cache selectors) exchanges (.ok infos)) :
    ∃ signatures, Signature.Finds lookups selectors exchanges signatures ∧
      infos = List.zipWith Signature.classify selectors
        (signatures.map (Option.map Text.codes)) := by
  induction selectors generalizing cache exchanges infos with
  | nil =>
      obtain ⟨rfl, same⟩ := (path_done_iff ..).mp path
      cases same
      exact ⟨[], .nil, rfl⟩
  | cons selector rest ih =>
      obtain ⟨absent, apart⟩ := List.nodup_cons.mp distinct
      obtain ⟨unknown, others⟩ := List.forall_mem_cons.mp fresh
      obtain ⟨front, behind, ⟨outcome, later⟩, rfl, resolved, onward⟩ :=
        (path_andThen_iff ..).mp path
      obtain ⟨ofFront, ofBehind⟩ := List.forall_mem_append.mp permitted
      obtain ⟨searched, kept⟩ := Signature.search_of_resolve unknown resolved
      have stillFresh : ∀ other ∈ rest, later.get? other = none := by
        intro other member
        rw [kept other (by rintro rfl; exact absent member)]
        exact others other member
      simp only at onward
      cases classified : outcome.bind (Signature.classifyValue selector) with
      | error fault =>
          rw [classified] at onward
          obtain ⟨_, impossible⟩ := (path_done_iff ..).mp onward
          cases impossible
      | ok info =>
          rw [classified] at onward
          obtain ⟨ended, told, same⟩ := (path_andThen_done_iff ..).mp onward
          cases ended with
          | error fault => cases same
          | ok others =>
              cases same
              obtain ⟨signatures, found, rfl⟩ := ih apart stillFresh ofBehind told
              obtain ⟨signature, rfl, text⟩ := Signature.yields_search textual
                Signature.isTextual_null selector front outcome ofFront searched
              rcases text with rfl | ⟨content, rfl⟩
              · obtain rfl := Except.ok.inj classified
                exact ⟨none :: signatures, .cons searched found, rfl⟩
              · obtain rfl := Except.ok.inj
                  ((Signature.classifyValue_text selector content).symm.trans classified)
                exact ⟨some content :: signatures, .cons searched found, rfl⟩

/-- The calls to a target: one for each selector, in some order and with the sender, or one to
the aggregator that carries the target and the selectors in their order. -/
structure Invokes (plan : Plan) (target : Text) (selectors : List Text)
    (calls : List Query) : Prop where
  each : plan.usesBatch = false →
    calls.Perm (selectors.map fun selector => .chain (.call target selector plan.sender))
  nothing : plan.usesBatch = true → selectors = [] → calls = []
  together : plan.usesBatch = true → selectors ≠ [] → ∃ written carried,
    calls = [.chain (.call plan.aggregator
      (Hex.marked (Call.Batch.selectorBytes ++ written)) none)] ∧
    List.Forall₂ Call.Request.IsCarriedBy (selectors.map (Call.Request.mk target)) carried ∧
    written = Abi.writeCalls false carried ∧
    (selectors.length < Abi.lengthBound → Abi.readCalls written = .ok (false, carried))

private theorem storable_of_four (target : Text) {selectors : List Text}
    (few : selectors.length < Abi.lengthBound)
    (four : ∀ selector ∈ selectors, ∃ bytes, bytes.length = 4 ∧ selector = Hex.marked bytes) :
    Call.Batch.AreStorable (selectors.map (Call.Request.mk target)) := by
  constructor
  case count =>
    rw [List.length_map]
    exact few
  case data =>
    intro request member
    obtain ⟨selector, present, rfl⟩ := List.mem_map.mp member
    obtain ⟨bytes, length, rfl⟩ := four selector present
    change (Hex.marked bytes).length < _
    rw [Hex.marked_length, length]
    decide

private theorem invoke_aggregated {plan : Plan} {report : Report} {target : List UInt8}
    {contents : List (List UInt8)} {exchanges : List (Query × Reply)}
    {outcome : Except Interruption (List Call.Outcome)} (batched : plan.usesBatch = true)
    (twenty : target.length = Address.byteCount) (nonempty : contents ≠ [])
    (path : Path (invoke plan report (Call.Batch.requestsTo target contents)).run exchanges
      outcome) :
    exchanges.map Prod.fst = [.chain (.call plan.aggregator (Call.Batch.payload
      (contents.map fun content => (target, content))) none)] := by
  rcases path_invoke_cases path with
    ⟨none, _⟩ | ⟨_, inner, ended, rfl, asked, _⟩ | ⟨alone, _⟩
  · exact absurd none (Call.Batch.requestsTo_ne_nil nonempty)
  · have once := congrArg (List.map Query.chain)
      (Call.Batch.outcomesThrough_asks_once twenty nonempty asked)
    rw [List.map_map] at once ⊢
    exact once
  · rw [batched] at alone
    cases alone

private theorem invoke_each {plan : Plan} {report : Report} {target : Text}
    {selectors : List Text} {exchanges : List (Query × Reply)}
    {outcome : Except Interruption (List Call.Outcome)} (alone : plan.usesBatch = false)
    (path : Path (invoke plan report (selectors.map (Call.Request.mk target))).run exchanges
      outcome) :
    (exchanges.map Prod.fst).Perm
      (selectors.map fun selector => .chain (.call target selector plan.sender)) := by
  rcases path_invoke_cases path with
    ⟨none, rfl, _⟩ | ⟨batched, _⟩ | ⟨_, inner, outcomes, rfl, made, _⟩
  · rw [List.map_eq_nil_iff.mp none]
    exact List.Perm.refl _
  · rw [alone] at batched
    cases batched
  · have once := (Call.parallel_asks_each_once made).map Query.chain
    simp only [List.map_map] at once ⊢
    exact once

theorem invoke_invokes {plan : Plan} {report : Report} {target : Text}
    {selectors : List Text} {exchanges : List (Query × Reply)}
    {outcome : Except Interruption (List Call.Outcome)}
    (canonical : Address.IsCanonical target)
    (four : ∀ selector ∈ selectors, ∃ bytes, bytes.length = 4 ∧ selector = Hex.marked bytes)
    (path : Path (invoke plan report (selectors.map (Call.Request.mk target))).run exchanges
      outcome) :
    Invokes plan target selectors (exchanges.map Prod.fst) := by
  constructor
  case each =>
    intro alone
    exact invoke_each alone path
  case nothing =>
    rintro _ rfl
    obtain ⟨rfl, _⟩ := (path_done_iff ..).mp path
    rfl
  case together =>
    intro batched nonempty
    have storable := fun few => storable_of_four target few four
    obtain ⟨account, twenty, rfl⟩ := canonical
    obtain ⟨contents, rfl⟩ := exists_contents_of_marked fun selector member =>
      (four selector member).imp fun bytes known => known.2
    have present : contents ≠ [] := by
      rintro rfl
      exact nonempty rfl
    have requests : (contents.map Hex.marked).map
        (Call.Request.mk (Address.checksummed (Hex.ofBytes account))) =
          Call.Batch.requestsTo account contents := List.map_map ..
    rw [requests] at path storable ⊢
    have carried := (Call.Batch.spelledOutAll_eq_ok_iff ..).mp
      (Call.Batch.spelledOutAll_requestsTo twenty contents)
    have made := invoke_aggregated batched twenty present path
    rw [Call.Batch.payload_eq_marked] at made
    exact ⟨_, _, made, carried, rfl,
      fun few => Call.Batch.readCalls_of_carried (storable few) carried⟩

private theorem requests_of_finds {lookups : List Signature.Lookup} {report : Report}
    {selectors : List Text} {signatures : List (Option Text)}
    {exchanges : List (Signature.Query × Reply)}
    (found : Signature.Finds lookups selectors exchanges signatures)
    (listed : report.signatures =
      (List.zipWith Signature.classify selectors
        (signatures.map (Option.map Text.codes))).map fun info => (info.selector, info)) :
    requests report = (Signature.callable selectors signatures).map
      (Call.Request.mk report.targetAddress) := by
  rw [requests_of_signatures listed, ← found.map_selector_filter, List.map_map]
  rfl

/-! ### Whole surveys -/

section Surveys

variable {allowed : Signature.Query → Reply → Prop}

/-- Replies of chains that are bytes or ordinary faults. -/
def IsBytesOrOrdinary (reply : Reply) : Prop :=
  reply.HoldsBytes ∧ reply.IsOrdinary

/-- A survey calls the beacon at most once, and only if the search for an implementation came
to it.  A survey that has found its code calls its target for each selector whose function
takes nothing as far as its signature is known, once and for no other selector, or has the
aggregator make these calls.  A survey that has not found its code calls nothing else. -/
theorem survey_calls_exactly {plan : Plan} {text address : Text}
    {exchanges : List (Query × Reply)} {result : Except Failure Report}
    (valid : Address.validate? text = some address)
    (textual : Signature.AnswerWith Signature.IsTextual allowed plan.lookups)
    (permitted : ∀ exchange ∈ exchanges,
      Admits IsBytesOrOrdinary allowed exchange.1 exchange.2)
    (path : Path (survey plan (.text text)) exchanges result) :
    ∃ search rest, exchanges = search ++ rest ∧
      (callsIn search = [] ∨ ∃ beacon,
        CallsBeacon plan.followsProxy address search beacon ∧
          callsIn search = [.chain (.call beacon Proxy.implementationSelector none)]) ∧
      (rest = [] ∧ (∃ failure, result = .error failure) ∨
        ∃ report code questions calls signatures,
          result = .ok report ∧
          (Query.chain (.code report.targetAddress), Except.ok (.bytes code)) ∈ search ∧
          rest = questions.map (Prod.map Query.signature id) ++ calls ∧
          Signature.Finds plan.lookups (Bytecode.selectors code) questions signatures ∧
          (Signature.callable (Bytecode.selectors code) signatures).Nodup ∧
          Invokes plan report.targetAddress
            (Signature.callable (Bytecode.selectors code) signatures)
            (calls.map Prod.fst)) := by
  rw [survey_of_valid plan valid] at path
  obtain ⟨outcome, steps, rfl⟩ := (path_andThen_done_iff ..).mp path
  have usual : ∀ query reply, (Query.chain query, reply) ∈ exchanges →
      Proxy.Allowed query reply :=
    fun query reply member => permitted _ member
  rcases (path_bind_iff ..).mp steps with
    ⟨stop, rfl, stopped⟩ | ⟨⟨located, value⟩, search, rest, rfl, found, behind⟩
  · exact ⟨exchanges, [], (List.append_nil _).symm, locate_calls usual stopped,
      Or.inl ⟨rfl, _, rfl⟩⟩
  · have before : ∀ query reply, (Query.chain query, reply) ∈ search →
        Proxy.Allowed query reply :=
      fun query reply member => usual query reply (List.mem_append_left rest member)
    refine ⟨search, rest, rfl, locate_calls before found, Or.inr ?_⟩
    have known := locate_isLocated (Address.validate?_isCanonical valid) found
    obtain ⟨code, rfl, answered⟩ := known.answered fun account reply member =>
      (before (.code account) reply member).1
    change Path (onward plan located (.bytes code)).run rest outcome at behind
    have blank := known.blank
    rw [blank] at behind
    obtain ⟨report, rfl, _⟩ := yields_onward textual _ _ _ code rest outcome
      (fun exchange member => (permitted exchange
        (List.mem_append_right search member)).mono fun reply given => given.2)
      behind
    obtain ⟨inspected, asked, later, rfl, inspecting, invoking⟩ :=
      (path_bind_ok_iff ..).mp behind
    obtain ⟨questions, infos, rfl, described, rfl⟩ := inspect_describes inspecting
    have told : ∀ exchange ∈ questions, allowed exchange.1 exchange.2 := by
      rintro ⟨query, reply⟩ member
      exact permitted (.signature query, reply) (List.mem_append_right search
        (List.mem_append_left later (List.mem_map.mpr ⟨_, member, rfl⟩)))
    obtain ⟨signatures, searched, rfl⟩ := describe_finds textual
      (Bytecode.selectors_nodup code) (fun _ _ => rfl) told described
    obtain ⟨outcomes, calls, ending, rfl, made, ended⟩ := (path_bind_ok_iff ..).mp invoking
    obtain ⟨rfl, same⟩ := (path_done_iff ..).mp ended
    cases same
    rw [requests_of_finds searched rfl] at made
    have sublist := searched.callable_sublist
    have four : ∀ selector ∈ Signature.callable (Bytecode.selectors code) signatures,
        ∃ bytes, bytes.length = 4 ∧ selector = Hex.marked bytes :=
      fun selector member =>
        Bytecode.exists_marked_of_mem_selectors (sublist.subset member)
    refine ⟨_, code, questions, calls, signatures, rfl, answered, ?_, searched,
      (Bytecode.selectors_nodup code).sublist sublist, invoke_invokes known.canonical four made⟩
    rw [List.append_nil]

end Surveys

/-- A proxy whose beacon names a contract with two functions, one of which takes a number. -/
def beaconedFunctions : Query → Reply
  | .chain (.storage _ slot) =>
      if slot = Proxy.beaconSlot then .ok (.bytes (List.replicate 20 0x22))
      else .error (.status 503)
  | .chain (.call _ _ _) => .ok (.bytes (List.replicate 20 0x33))
  | .chain (.code _) => .ok (.bytes [0x63, 1, 2, 3, 4, 0x63, 10, 11, 12, 13, 0x63, 1, 2, 3, 4])
  | .signature (.source _ selector) =>
      .ok (.text (if selector = "0x01020304".toList then "total()".toList
        else "set(uint256)".toList))
  | .signature (.page _ _) => .error (.status 404)

def beaconedPlan : Plan :=
  { lookups := [Signature.sourceLookup 0], followsProxy := true }

private theorem beaconedFunctions_admitted (query : Query) :
    Admits IsBytesOrOrdinary
      (fun query reply => reply = beaconedFunctions (.signature query)) query
      (beaconedFunctions query) := by
  cases query with
  | signature query => rfl
  | chain query =>
      cases query with
      | code account => exact ⟨Reply.holdsBytes_bytes _, Reply.isOrdinary_ok _⟩
      | call target data sender => exact ⟨Reply.holdsBytes_bytes _, Reply.isOrdinary_ok _⟩
      | storage account slot =>
          change IsBytesOrOrdinary (if slot = Proxy.beaconSlot then _ else _)
          split
          · exact ⟨Reply.holdsBytes_bytes _, Reply.isOrdinary_ok _⟩
          · exact ⟨Reply.holdsBytes_error _, (Reply.isOrdinary_error_iff _).mpr rfl⟩

private theorem beaconedPlan_isTextual :
    Signature.AnswerWith Signature.IsTextual
      (fun query reply => reply = beaconedFunctions (.signature query))
      beaconedPlan.lookups := by
  apply Signature.sourceLookup_answerWith
  rintro (⟨service, selector⟩ | ⟨index, selector⟩) reply rfl
  · exact Or.inr ⟨_, rfl, rfl⟩
  · exact Or.inl ⟨_, rfl, Or.inr ⟨_, rfl⟩⟩

theorem survey_beaconedFunctions_calls_exactly :
    let dialogue := survey beaconedPlan (.text ("0x".toList ++ List.replicate 40 'a'))
    let exchanges := (dialogue.asked beaconedFunctions).map fun query =>
      (query, beaconedFunctions query)
    callsIn exchanges = [
      .chain (.call ("0x".toList ++ List.replicate 40 '2') Proxy.implementationSelector none),
      .chain (.call ("0x".toList ++ List.replicate 40 '3') "0x01020304".toList
        beaconedPlan.sender)] ∧
    ∃ search questions calls code signatures target,
      exchanges = search ++ (questions.map (Prod.map Query.signature id) ++ calls) ∧
      Signature.Finds beaconedPlan.lookups (Bytecode.selectors code) questions signatures ∧
      Invokes beaconedPlan target (Signature.callable (Bytecode.selectors code) signatures)
        (calls.map Prod.fst) := by
  intro dialogue exchanges
  have valid : Address.validate? ("0x".toList ++ List.replicate 40 'a') =
      some (Address.checksummed (List.replicate 40 'a')) := by
    decide +kernel
  have path := path_answeredBy beaconedFunctions dialogue
  have shown : (dialogue.answeredBy beaconedFunctions).toOption.isSome = true := by
    decide +kernel
  obtain ⟨search, rest, parts, _, ended⟩ :=
    survey_calls_exactly valid beaconedPlan_isTextual
      (forall_exchange_of_fixed beaconedFunctions_admitted dialogue) path
  refine ⟨by decide +kernel, search, ?_⟩
  rcases ended with
    ⟨_, failure, failed⟩ | ⟨report, code, questions, calls, signatures, _, _, rfl, found, _, made⟩
  · rw [failed] at shown
    cases shown
  · exact ⟨questions, calls, code, signatures, report.targetAddress, parts, found, made⟩

end Analysis
end ContractSurvey
