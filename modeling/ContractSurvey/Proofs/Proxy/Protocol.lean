/-
Searches as the standard for proxies describes them.

The standard names two slots.  The implementation slot is read first, and what it names
counts when there is code at it.  Otherwise the beacon slot is read, the beacon it names is
called, and what the beacon names counts when there is code at it.  A question that fails
reads as no bytes at all, so it never stops a search.

What a search reads is kept apart from how it was asked for: from five byte strings the
protocol says which questions are asked and what the resolution is.  The outside may change
its mind between two questions, and each question that was asked has a reading of its own.
-/

import ContractSurvey.Proofs.Address.Canonical
import ContractSurvey.Proofs.Proxy

namespace ContractSurvey

/-- The bytes of a reply, none when it is a fault. -/
def Reply.content : Reply → List UInt8
  | .ok (.bytes content) => content
  | _ => []

namespace Proxy

open Dialogue

/-! ### The protocol -/

/-- What the five questions of a search read, whether they are asked or not. -/
structure Readings where
  implementationWord : List UInt8
  implementationCode : List UInt8
  beaconWord : List UInt8
  beaconReply : List UInt8
  beaconCode : List UInt8

/-- A candidate counts only when there is code at it. -/
def confirmed (candidate? : Option Text) (code : List UInt8) : Option Text :=
  if code = [] then none else candidate?

/-- The question about the code of a candidate, when there is one. -/
def codeReading (candidate? : Option Text) (code : List UInt8) :
    List (Chain.Query × List UInt8) :=
  candidate?.toList.map fun candidate => (.code candidate, code)

namespace Readings

variable (readings : Readings)

def candidate? : Option Text :=
  Address.ofWord? readings.implementationWord

def implementation? : Option Text :=
  confirmed readings.candidate? readings.implementationCode

def beacon? : Option Text :=
  Address.ofWord? readings.beaconWord

def beaconCandidate? : Option Text :=
  Address.ofWord? readings.beaconReply

def beaconImplementation? : Option Text :=
  readings.beacon?.bind fun _ => confirmed readings.beaconCandidate? readings.beaconCode

/-- The questions behind a beacon that was named, with what they read. -/
def behindBeacon (beacon : Text) : List (Chain.Query × List UInt8) :=
  (.call beacon implementationSelector none, readings.beaconReply) ::
    codeReading readings.beaconCandidate? readings.beaconCode

/-- The questions of a search in their order, with what they read. -/
def asked (address : Text) : List (Chain.Query × List UInt8) :=
  (.storage address implementationSlot, readings.implementationWord) ::
    (codeReading readings.candidate? readings.implementationCode ++
      if readings.implementation?.isSome then []
      else (.storage address beaconSlot, readings.beaconWord) ::
        (readings.beacon?.map readings.behindBeacon).getD [])

/-- The resolution of an account. -/
def resolution (address : Text) : Resolution :=
  match readings.implementation?, readings.beaconImplementation? with
  | some implementation, _ =>
      { proxyAddress := address
        isProxy := true
        implementationAddress := implementation
        implementationBytecode := Hex.marked readings.implementationCode
        viaBeacon := false }
  | none, some implementation =>
      { proxyAddress := address
        isProxy := true
        implementationAddress := implementation
        implementationBytecode := Hex.marked readings.beaconCode
        viaBeacon := true }
  | none, none =>
      { proxyAddress := address
        isProxy := false
        implementationAddress := Address.zeroAddress
        implementationBytecode := "0x".toList
        viaBeacon := false }

end Readings

/-! ### Searches follow the protocol -/

/-- Replies that are bytes or ordinary faults. -/
def Allowed (_ : Chain.Query) (reply : Reply) : Prop :=
  reply.HoldsBytes ∧ reply.IsOrdinary

/-- What is left of exchanges when a fault reads as no bytes. -/
def readingsOf (exchanges : List (Chain.Query × Reply)) : List (Chain.Query × List UInt8) :=
  exchanges.map (Prod.map id Reply.content)

private theorem reply_cases {query : Chain.Query} {reply : Reply}
    (allowed : Allowed query reply) :
    reply = .ok (.bytes reply.content) ∨
      reply.content = [] ∧ ∃ fault, reply = .error fault ∧ fault.isFatal = false := by
  obtain ⟨bytes, ordinary⟩ := allowed
  cases reply with
  | ok value =>
      obtain ⟨content, rfl⟩ := bytes value rfl
      exact Or.inl rfl
  | error fault => exact Or.inr ⟨rfl, fault, rfl, ordinary fault rfl⟩

private theorem orElse_eq {query : Chain.Query} {reply : Reply} (missing : Value)
    (allowed : Allowed query reply) :
    reply.orElse missing = .ok (.bytes reply.content) ∨
      reply.content = [] ∧ reply.orElse missing = .ok missing := by
  rcases reply_cases allowed with bytes | ⟨empty, fault, failed, ordinary⟩
  · rw [bytes]
    exact Or.inl rfl
  · rw [failed]
    exact Or.inr ⟨rfl, if_neg (by simp [ordinary])⟩

private theorem yieldsAlong_questionOr (missing : Value) (query : Chain.Query) :
    YieldsAlong Allowed (Attempt.questionOr missing query) fun exchanges value =>
      ∃ content, readingsOf exchanges = [(query, content)] ∧
        (value = .bytes content ∨ content = [] ∧ value = missing) := by
  intro exchanges outcome allowed path
  obtain ⟨reply, rfl, rfl⟩ := (Attempt.path_questionOr_iff ..).mp path
  have permitted := allowed _ (List.mem_cons_self ..)
  rcases orElse_eq missing permitted with given | ⟨empty, absent⟩
  · exact ⟨_, given, reply.content, rfl, Or.inl rfl⟩
  · exact ⟨_, absent, reply.content, rfl, Or.inr ⟨empty, rfl⟩⟩

private theorem yieldsAlong_ofExcept {Result : Type} {work : Except Fault Result}
    {result : Result} {holds : List (Chain.Query × Reply) → Result → Prop}
    (given : work = .ok result) (held : holds [] result) :
    YieldsAlong Allowed (Attempt.ofExcept work) holds := by
  rw [given]
  exact yieldsAlong_pure held

private theorem yieldsAlong_addressIn (query : Chain.Query) :
    YieldsAlong Allowed (do
      let word ← Attempt.questionOr .null query
      Attempt.ofExcept (addressIn word) : Attempt Chain.Query (Option Text))
      fun exchanges found => ∃ word, readingsOf exchanges = [(query, word)] ∧
        found = Address.ofWord? word := by
  apply (yieldsAlong_questionOr .null query).bind
  rintro front value ⟨word, read, rfl | ⟨rfl, rfl⟩⟩
  · apply yieldsAlong_ofExcept rfl
    rw [List.append_nil]
    exact ⟨word, read, rfl⟩
  · apply yieldsAlong_ofExcept rfl
    rw [List.append_nil]
    exact ⟨[], read, rfl⟩

private theorem yieldsAlong_withCode (candidate? : Option Text) :
    YieldsAlong Allowed (withCode candidate?) fun exchanges chosen? =>
      ∃ code, readingsOf exchanges = codeReading candidate? code ∧
        chosen? = (confirmed candidate? code).map fun chosen => (chosen, .bytes code) := by
  cases candidate? with
  | none => exact yieldsAlong_pure ⟨[], rfl, rfl⟩
  | some candidate =>
      apply (yieldsAlong_questionOr (.bytes []) (.code candidate)).bind
      rintro front value ⟨code, read, given⟩
      have same : value = .bytes code := by
        rcases given with bytes | ⟨rfl, missing⟩
        · exact bytes
        · exact missing
      subst same
      apply yieldsAlong_pure
      rw [List.append_nil]
      refine ⟨code, read, ?_⟩
      cases code <;> rfl

private theorem yieldsAlong_throughBeacon (address : Text) :
    YieldsAlong Allowed (throughBeacon address) fun exchanges chosen? =>
      ∃ readings : Readings, readingsOf exchanges =
        (.storage address beaconSlot, readings.beaconWord) ::
          (readings.beacon?.map readings.behindBeacon).getD [] ∧
        chosen? = readings.beaconImplementation?.map fun chosen =>
          (chosen, .bytes readings.beaconCode) := by
  apply (yieldsAlong_addressIn (.storage address beaconSlot)).bind
  rintro front beacon? ⟨word, slot, found⟩
  cases beacon? with
  | none =>
      apply yieldsAlong_pure
      rw [List.append_nil]
      refine ⟨⟨[], [], word, [], []⟩, ?_, ?_⟩
      · simp [slot, Readings.beacon?, ← found]
      · simp [Readings.beaconImplementation?, Readings.beacon?, ← found]
  | some beacon =>
      apply (yieldsAlong_addressIn (.call beacon implementationSelector none)).bind
      rintro called candidate? ⟨reply, answer, rfl⟩
      intro rest outcome allowed path
      obtain ⟨chosen?, same, code, asked, chosen⟩ :=
        yieldsAlong_withCode (Address.ofWord? reply) rest outcome allowed path
      refine ⟨chosen?, same, ⟨[], [], word, reply, code⟩, ?_, ?_⟩
      · unfold readingsOf at slot answer asked ⊢
        simp [slot, answer, asked, Readings.beacon?, ← found, Readings.behindBeacon,
          Readings.beaconCandidate?]
      · simp [chosen, Readings.beaconImplementation?, Readings.beacon?, ← found,
          Readings.beaconCandidate?]

/-- Every search asks the questions of the protocol and ends with its resolution. -/
theorem yieldsAlong_resolve (address : Text) :
    YieldsAlong Allowed (resolve address) fun exchanges resolution =>
      ∃ readings : Readings, readingsOf exchanges = readings.asked address ∧
        resolution = readings.resolution address := by
  apply (yieldsAlong_addressIn (.storage address implementationSlot)).bind
  rintro front candidate? ⟨word, slot, rfl⟩
  apply (yieldsAlong_withCode (Address.ofWord? word)).bind
  rintro chosen chosen? ⟨code, asked, rfl⟩
  unfold readingsOf at slot asked
  cases found : confirmed (Address.ofWord? word) code with
  | some implementation =>
      apply yieldsAlong_ofExcept (found_bytes address implementation code false)
      refine ⟨⟨word, code, [], [], []⟩, ?_, ?_⟩
      · simp [readingsOf, slot, asked, Readings.asked, Readings.candidate?,
          Readings.implementation?, found]
      · simp [Readings.resolution, Readings.implementation?, Readings.candidate?, found]
  | none =>
      apply (yieldsAlong_throughBeacon address).bind
      rintro through beaconed? ⟨behind, questions, rfl⟩
      unfold readingsOf at questions
      let readings : Readings := { behind with
        implementationWord := word
        implementationCode := code }
      have absent : readings.implementation? = none := found
      have same : readings.beaconImplementation? = behind.beaconImplementation? := rfl
      have rest : readingsOf (front ++ (chosen ++ (through ++ []))) =
          readings.asked address := by
        unfold readingsOf Readings.asked
        rw [absent, List.map_append, List.map_append, List.map_append, slot, asked, questions]
        simp only [List.map_nil, List.append_nil, List.singleton_append, Option.isSome_none,
          Bool.false_eq_true, if_false]
        rfl
      unfold Readings.resolution
      cases named : behind.beaconImplementation? with
      | some implementation =>
          apply yieldsAlong_ofExcept
            (found_bytes address implementation behind.beaconCode true)
          refine ⟨readings, rest, ?_⟩
          rw [absent, same, named]
      | none =>
          apply yieldsAlong_pure
          refine ⟨readings, rest, ?_⟩
          rw [absent, same, named]

/-- An outside that gives bytes or ordinary faults lets every proxy be resolved. -/
theorem yields_resolve (address : Text) :
    Yields Allowed (resolve address) fun _ => True := by
  intro exchanges outcome allowed path
  obtain ⟨resolution, same, _⟩ := yieldsAlong_resolve address exchanges outcome allowed path
  exact ⟨resolution, same, trivial⟩

/-! ### Resolutions -/

/-- A resolution whose parts fit together and to what the chain said about code. -/
structure Resolution.IsSound (address : Text) (exchanges : List (Chain.Query × Reply))
    (resolution : Resolution) : Prop where
  proxyAddress : resolution.proxyAddress = address
  implementation : resolution.isProxy = true ↔
    resolution.implementationAddress ≠ Address.zeroAddress
  bytecode : resolution.isProxy = true ↔ resolution.implementationBytecode ≠ "0x".toList
  code : resolution.isProxy = true → ∃ code, code ≠ [] ∧
    (.code resolution.implementationAddress, .ok (.bytes code)) ∈ exchanges ∧
    resolution.implementationBytecode = Hex.marked code
  viaBeacon : resolution.viaBeacon = true → resolution.isProxy = true

private theorem marked_ne (code : List UInt8) (present : code ≠ []) :
    Hex.marked code ≠ "0x".toList := by
  intro same
  apply present
  apply Hex.marked_injective
  rw [same]
  rfl

theorem confirmed_eq_some_iff (candidate? : Option Text) (code : List UInt8)
    (chosen : Text) :
    confirmed candidate? code = some chosen ↔ code ≠ [] ∧ candidate? = some chosen := by
  unfold confirmed
  by_cases empty : code = []
  · simp [empty]
  · simp [empty]

private theorem mem_of_mem_readingsOf {exchanges : List (Chain.Query × Reply)}
    {query : Chain.Query} {content : List UInt8}
    (allowed : ∀ exchange ∈ exchanges, Allowed exchange.1 exchange.2)
    (member : (query, content) ∈ readingsOf exchanges) (present : content ≠ []) :
    (query, Except.ok (.bytes content)) ∈ exchanges := by
  obtain ⟨⟨asked, reply⟩, exchanged, same⟩ := List.mem_map.mp member
  cases same
  have permitted : Allowed asked reply := allowed _ exchanged
  rcases reply_cases permitted with bytes | ⟨empty, _⟩
  · rw [bytes] at exchanged
    exact exchanged
  · exact absurd empty present

private theorem isSound_of_code {address : Text} {exchanges : List (Chain.Query × Reply)}
    {word code : List UInt8} {chosen : Text} (viaBeacon : Bool)
    (allowed : ∀ exchange ∈ exchanges, Allowed exchange.1 exchange.2)
    (confirms : confirmed (Address.ofWord? word) code = some chosen)
    (asked : (.code chosen, code) ∈ readingsOf exchanges) :
    Resolution.IsSound address exchanges {
      proxyAddress := address
      isProxy := true
      implementationAddress := chosen
      implementationBytecode := Hex.marked code
      viaBeacon := viaBeacon } := by
  obtain ⟨present, named⟩ := (confirmed_eq_some_iff ..).mp confirms
  have nonzero := ((Address.ofWord?_eq_some_iff word chosen).mp named).ne_zeroAddress
  exact {
    proxyAddress := rfl
    implementation := iff_of_true rfl nonzero
    bytecode := iff_of_true rfl (marked_ne code present)
    code := fun _ => ⟨code, present, mem_of_mem_readingsOf allowed asked present, rfl⟩
    viaBeacon := fun _ => rfl }

theorem Readings.resolution_isSound {address : Text}
    {exchanges : List (Chain.Query × Reply)} {readings : Readings}
    (allowed : ∀ exchange ∈ exchanges, Allowed exchange.1 exchange.2)
    (asked : readingsOf exchanges = readings.asked address) :
    (readings.resolution address).IsSound address exchanges := by
  unfold Readings.resolution
  unfold Readings.asked at asked
  cases direct : readings.implementation? with
  | some implementation =>
      apply isSound_of_code false allowed direct
      have candidate := ((confirmed_eq_some_iff ..).mp direct).2
      simp [asked, candidate, codeReading]
  | none =>
      cases beaconed : readings.beaconImplementation? with
      | some implementation =>
          unfold Readings.beaconImplementation? at beaconed
          obtain ⟨beacon, named, confirms⟩ := Option.bind_eq_some_iff.mp beaconed
          apply isSound_of_code true allowed confirms
          have candidate := ((confirmed_eq_some_iff ..).mp confirms).2
          simp [asked, direct, named, Readings.behindBeacon, candidate, codeReading]
      | none =>
          exact {
            proxyAddress := rfl
            implementation := by simp
            bytecode := by simp
            code := nofun
            viaBeacon := nofun }

theorem resolve_isSound {address : Text} {resolution : Resolution}
    {exchanges : List (Chain.Query × Reply)}
    (allowed : ∀ exchange ∈ exchanges, Allowed exchange.1 exchange.2)
    (path : Path (resolve address).run exchanges (.ok resolution)) :
    resolution.IsSound address exchanges := by
  obtain ⟨same, equal, readings, asked, rfl⟩ :=
    yieldsAlong_resolve address exchanges _ allowed path
  cases equal
  exact readings.resolution_isSound allowed asked

section Fixed

variable {address : Text} {replies : Chain.Query → Reply}

theorem exists_code_of_resolved {resolution : Resolution}
    (allowed : ∀ query, Allowed query (replies query))
    (resolved : (resolve address).run.answeredBy replies = .ok resolution)
    (proxied : resolution.isProxy = true) :
    ∃ code, code ≠ [] ∧
      replies (.code resolution.implementationAddress) = .ok (.bytes code) := by
  have path := path_answeredBy replies (resolve address).run
  rw [resolved] at path
  obtain ⟨code, present, member, _⟩ :=
    (resolve_isSound (forall_exchange_of_fixed allowed _) path).code proxied
  exact ⟨code, present, (eq_reply_of_mem member).symm⟩

end Fixed

/-- Whatever mixture of bytes and ordinary faults comes back, a search ends with a resolution,
and it is the one that the protocol makes of what its questions read. -/
theorem resolve_follows_protocol {address : Text} {exchanges : List (Chain.Query × Reply)}
    {outcome : Except Fault Resolution}
    (allowed : ∀ exchange ∈ exchanges, Allowed exchange.1 exchange.2)
    (path : Path (resolve address).run exchanges outcome) :
    (∃ readings : Readings, readingsOf exchanges = readings.asked address ∧
      outcome = .ok (readings.resolution address) ∧
      (readings.resolution address).IsSound address exchanges) ∧
    ∀ word found, Address.ofWord? word = some found ↔ Address.HoldsAddress word found := by
  obtain ⟨resolution, same, readings, asked, rfl⟩ :=
    yieldsAlong_resolve address exchanges outcome allowed path
  exact ⟨⟨readings, asked, same, readings.resolution_isSound allowed asked⟩,
    Address.ofWord?_eq_some_iff⟩

/-- An account whose implementation slot leads to an account without code, and whose beacon
names an implementation. -/
def beaconProxy : Chain.Query → Reply
  | .storage _ slot =>
      .ok (.bytes (List.replicate 12 0 ++
        List.replicate 20 (if slot = implementationSlot then 0x11 else 0x22)))
  | .call _ _ _ => .ok (.bytes (List.replicate 20 0x33))
  | .code account =>
      if account = "0x".toList ++ List.replicate 40 '3' then .ok (.bytes [0x60, 0x00])
      else .error (.status 404)

theorem resolve_beaconProxy_follows_protocol :
    let address := "0x".toList ++ List.replicate 40 'a'
    let exchanges := ((resolve address).run.asked beaconProxy).map fun query =>
      (query, beaconProxy query)
    (∀ exchange ∈ exchanges, Allowed exchange.1 exchange.2) ∧
    ∃ readings : Readings, readingsOf exchanges = readings.asked address ∧
      readings.resolution address = {
        proxyAddress := address
        isProxy := true
        implementationAddress := "0x".toList ++ List.replicate 40 '3'
        implementationBytecode := "0x6000".toList
        viaBeacon := true } := by
  intro address exchanges
  have allowed : ∀ exchange ∈ exchanges, Allowed exchange.1 exchange.2 := by
    intro exchange member
    obtain ⟨query, _, rfl⟩ := List.mem_map.mp member
    unfold Allowed
    cases query with
    | storage account slot => simp [beaconProxy]
    | call target data sender => simp [beaconProxy]
    | code account =>
        simp only [beaconProxy]
        by_cases coded : account = "0x".toList ++ List.replicate 40 '3'
        · rw [if_pos coded]
          simp
        · rw [if_neg coded]
          simp [Fault.isFatal]
  have path := path_answeredBy beaconProxy (resolve address).run
  obtain ⟨⟨readings, asked, same, _⟩, _⟩ := resolve_follows_protocol allowed path
  refine ⟨allowed, readings, asked, ?_⟩
  have shown : ((resolve address).run.answeredBy beaconProxy).toOption = some {
      proxyAddress := address
      isProxy := true
      implementationAddress := "0x".toList ++ List.replicate 40 '3'
      implementationBytecode := "0x6000".toList
      viaBeacon := true } := by
    decide +kernel
  rw [same] at shown
  exact Option.some.inj shown

end Proxy
end ContractSurvey
