/-
What a probe finds.

A network that is checked is asked whether it can be connected to, then for the code of the
address, and behind code for what the search for a proxy wants to know.  Every such
conversation ends in a check, whatever mixture of bytes and ordinary faults the network
replies, and the exchanges of a probe are made of one conversation with each network.

With fixed replies a network has the code of an address when it can be connected to and its
chain gives bytes that are not empty, and each check tells whether its own network has the
code, and of what the address is a proxy there.  Networks may also change their minds from one
question to the next.  Every one of them is still checked, and a contract is found when one of
their chains has given code.
-/

import ContractSurvey.Network
import ContractSurvey.Proofs.Pool.Gather
import ContractSurvey.Proofs.Proxy.Protocol

namespace ContractSurvey
namespace Network

open Dialogue

/-- A network whose chain gives bytes and that reports nothing but ordinary faults. -/
structure IsUsual (replies : Query → Reply) (network : Network) : Prop where
  connection : (replies (.connect network)).IsOrdinary
  chain : ∀ query, Proxy.Allowed query (replies (.chain network query))

def HasCode (replies : Query → Reply) (address : Text) (network : Network) : Prop :=
  (∃ connected, replies (.connect network) = .ok connected) ∧
    ∃ code, code ≠ [] ∧ replies (.chain network (.code address)) = .ok (.bytes code)

/-- A check that tells what there is at an address in a network. -/
structure Check.Tells (replies : Query → Reply) (address : Text) (network : Network)
    (check : Check) : Prop where
  name : check.network = network.name
  isContract : check.isContract = true ↔ network.HasCode replies address
  resolution : check.isContract = true → ∃ resolution,
    (Proxy.resolve address).run.answeredBy (fun query => replies (.chain network query)) =
      .ok resolution ∧
    check.isProxy = resolution.isProxy ∧
    check.implementation = resolution.implementationAddress

/-- Replies of networks that give bytes and report nothing but ordinary faults. -/
def Permitted : Query → Reply → Prop
  | .connect _, reply => reply.IsOrdinary
  | .chain _ query, reply => Proxy.Allowed query reply

def Query.network : Query → Network
  | .connect network => network
  | .chain network _ => network

/-! ### Conversations -/

section Talks

variable {address : Text} {network : Network}

def withoutContract (network : Network) : Check :=
  { network := network.name, serverUrl := network.serverUrl }

/-- The check of a network with a contract and with what was found out about it. -/
def withContract (network : Network) (resolution : Proxy.Resolution) : Check :=
  { network := network.name
    serverUrl := network.serverUrl
    isContract := true
    isProxy := resolution.isProxy
    implementation := resolution.implementationAddress }

/-- The courses that a conversation with a network takes, and the check that each ends in. -/
inductive Talk (address : Text) (network : Network) : List (Query × Reply) → Check → Prop
  | unconnected (fault : Fault) :
      Talk address network [(.connect network, .error fault)] network.withoutContract
  | unread (connection : Value) (fault : Fault) :
      Talk address network
        [(.connect network, .ok connection), (.chain network (.code address), .error fault)]
        network.withoutContract
  | empty (connection : Value) :
      Talk address network
        [(.connect network, .ok connection), (.chain network (.code address), .ok (.bytes []))]
        network.withoutContract
  | contract (connection : Value) {code : List UInt8} (present : code ≠ [])
      {resolving : List (Chain.Query × Reply)} {resolution : Proxy.Resolution}
      (resolved : Path (Proxy.resolve address).run resolving (.ok resolution)) :
      Talk address network
        ((.connect network, .ok connection) ::
          (.chain network (.code address), .ok (.bytes code)) ::
          resolving.map (Prod.map (Query.chain network) id))
        (network.withContract resolution)

/-- A network that cannot be asked fails with an ordinary fault, on a course that ends
without a contract. -/
private theorem connectAndCheck_talks {exchanges : List (Query × Reply)}
    {outcome : Except Fault Check}
    (permitted : ∀ exchange ∈ exchanges, Permitted exchange.1 exchange.2)
    (path : Path (connectAndCheck address network).run exchanges outcome) :
    (∃ found, outcome = .ok found ∧ Talk address network exchanges found) ∨
      ∃ fault, outcome = .error fault ∧ fault.isFatal = false ∧
        Talk address network exchanges network.withoutContract := by
  rcases (path_bind_iff ..).mp path with
    ⟨fault, rfl, asked⟩ | ⟨connection, front, behind, rfl, asked, onward⟩
  · obtain rfl := (Attempt.path_question_iff ..).mp asked
    exact Or.inr ⟨fault, rfl, permitted _ (List.mem_cons_self ..) fault rfl,
      .unconnected fault⟩
  · obtain rfl := (Attempt.path_question_iff ..).mp asked
    obtain ⟨inner, rfl, checked⟩ := (path_via_question_iff ..).mp onward
    have allowed : ∀ exchange ∈ inner, Proxy.Allowed exchange.1 exchange.2 := by
      intro exchange member
      exact permitted _ (List.mem_append_right _ (List.mem_map.mpr ⟨exchange, member, rfl⟩))
    rcases (path_bind_iff ..).mp checked with
      ⟨fault, rfl, read⟩ | ⟨value, reading, rest, rfl, read, further⟩
    · obtain rfl := (Attempt.path_question_iff ..).mp read
      exact Or.inr ⟨fault, rfl, (allowed _ (List.mem_cons_self ..)).2 fault rfl,
        .unread connection fault⟩
    · obtain rfl := (Attempt.path_question_iff ..).mp read
      obtain ⟨code, rfl⟩ := (allowed _ (List.mem_cons_self ..)).1 value rfl
      cases code with
      | nil =>
          obtain ⟨rfl, rfl⟩ := (path_done_iff ..).mp further
          exact Or.inl ⟨_, rfl, .empty connection⟩
      | cons first others =>
          rcases (path_bind_iff ..).mp further with
            ⟨fault, rfl, stopped⟩ | ⟨resolution, resolving, ending, rfl, resolved, ended⟩
          · -- No ordinary replies keep the search for a proxy from its end.
            obtain ⟨_, impossible, _⟩ := Proxy.yields_resolve address rest _
              (List.forall_mem_append.mp allowed).2 stopped
            cases impossible
          · obtain ⟨rfl, rfl⟩ := (path_done_iff ..).mp ended
            rw [List.append_nil]
            exact Or.inl ⟨_, rfl, .contract connection (List.cons_ne_nil first others) resolved⟩

theorem checkTolerantly_talks {exchanges : List (Query × Reply)}
    {outcome : Except Fault Check}
    (permitted : ∀ exchange ∈ exchanges, Permitted exchange.1 exchange.2)
    (path : Path (checkTolerantly address network) exchanges outcome) :
    ∃ found, outcome = .ok found ∧ Talk address network exchanges found := by
  obtain ⟨front, behind, ended, rfl, tried, onward⟩ := (path_andThen_iff ..).mp path
  rcases connectAndCheck_talks (List.forall_mem_append.mp permitted).1 tried with
    ⟨found, rfl, talk⟩ | ⟨fault, rfl, ordinary, talk⟩
  · obtain ⟨rfl, rfl⟩ := (path_done_iff ..).mp onward
    rw [List.append_nil]
    exact ⟨found, rfl, talk⟩
  · simp only [ordinary, Bool.false_eq_true, if_false] at onward
    obtain ⟨rfl, rfl⟩ := (path_done_iff ..).mp onward
    rw [List.append_nil]
    exact ⟨_, rfl, talk⟩

/-- A network is checked by questions to this network alone. -/
theorem asksOnly_checkTolerantly (address : Text) (network : Network) :
    AsksOnly (fun query => query.network = network) (checkTolerantly address network) := by
  have connecting : AsksOnly (fun query => query.network = network)
      (connectAndCheck address network).run := by
    refine AsksOnly.bind (asksOnly_question rfl) fun _ _ _ => ?_
    exact AsksOnly.via_question fun _ _ _ _ _ => rfl
  refine connecting.andThen fun _ outcome _ => ?_
  cases outcome with
  | ok found => exact asksOnly_done _
  | error fault => by_cases fatal : fault.isFatal = true <;> simp [fatal, asksOnly_done]

end Talks

/-! ### Fixed replies -/

section Fixed

variable {replies : Query → Reply} {address : Text} {network : Network}

theorem IsUsual.permitted (usual : network.IsUsual replies) {query : Query}
    (own : query.network = network) : Permitted query (replies query) := by
  subst own
  cases query with
  | connect network => exact usual.connection
  | chain network inner => exact usual.chain inner

private theorem tells_of_absent (absent : ¬network.HasCode replies address) :
    network.withoutContract.Tells replies address network := by
  refine ⟨rfl, iff_of_false Bool.false_ne_true absent, ?_⟩
  intro impossible
  cases impossible

/-- What the conversation with a network comes to is so in the network. -/
private theorem Talk.tells {conversation : List (Query × Reply)} {found : Check}
    (talk : Talk address network conversation found)
    (fixed : ∀ exchange ∈ conversation, exchange.2 = replies exchange.1) :
    found.Tells replies address network := by
  cases talk with
  | unconnected fault =>
      have failed : .error fault = replies (.connect network) := fixed _ (List.mem_cons_self ..)
      refine tells_of_absent ?_
      rintro ⟨⟨connected, given⟩, _⟩
      cases failed.trans given
  | unread connection fault =>
      have failed : .error fault = replies (.chain network (.code address)) :=
        fixed _ (List.mem_cons_of_mem _ (List.mem_cons_self ..))
      refine tells_of_absent ?_
      rintro ⟨_, code, _, given⟩
      cases failed.trans given
  | empty connection =>
      have bare : .ok (.bytes []) = replies (.chain network (.code address)) :=
        fixed _ (List.mem_cons_of_mem _ (List.mem_cons_self ..))
      refine tells_of_absent ?_
      rintro ⟨_, code, present, given⟩
      cases bare.trans given
      exact present rfl
  | @contract connection code present resolving resolution resolved =>
      obtain ⟨connected, behind⟩ := List.forall_mem_cons.mp fixed
      obtain ⟨given, mapped⟩ := List.forall_mem_cons.mp behind
      have others : ∀ exchange ∈ resolving, exchange.2 = replies (.chain network exchange.1) :=
        List.forall_mem_map.mp mapped
      refine ⟨rfl, iff_of_true rfl ⟨⟨connection, connected.symm⟩, code, present, given.symm⟩, ?_⟩
      intro _
      exact ⟨resolution, (resolved.eq_answeredBy others).symm, rfl, rfl⟩

/-- The check of a network is made whatever the network answers, and tells of it. -/
theorem exists_check (address : Text) (usual : network.IsUsual replies) :
    ∃ check, (checkTolerantly address network).answeredBy replies = .ok check ∧
      check.Tells replies address network := by
  have path := path_answeredBy replies (checkTolerantly address network)
  have permitted : ∀ exchange ∈ ((checkTolerantly address network).asked replies).map
      (fun query => (query, replies query)), Permitted exchange.1 exchange.2 := by
    intro exchange member
    rw [eq_reply_of_mem member]
    exact usual.permitted (asksOnly_checkTolerantly address network _ _ path exchange member)
  obtain ⟨check, given, talk⟩ := checkTolerantly_talks permitted path
  exact ⟨check, given, talk.tells fun exchange member => eq_reply_of_mem member⟩

end Fixed

/-! ### Probes -/

section Probes

variable {replies : Query → Reply} {networks : List Network}

theorem allOrFirstFault_ok {Result : Type} (results : List Result) :
    allOrFirstFault (results.map Except.ok) = .ok results := by
  induction results with
  | nil => rfl
  | cons result rest ih =>
      rw [List.map_cons, allOrFirstFault, ih]
      rfl

private theorem exists_checks (address : Text)
    (usual : ∀ network ∈ networks, network.IsUsual replies) :
    ∃ checks : List Check, networks.map (fun network =>
        (checkTolerantly address network).answeredBy replies) = checks.map Except.ok ∧
      List.Forall₂ (Check.Tells replies address) networks checks := by
  induction networks with
  | nil => exact ⟨[], rfl, .nil⟩
  | cons network rest ih =>
      obtain ⟨ofNetwork, ofRest⟩ := List.forall_mem_cons.mp usual
      obtain ⟨check, given, tells⟩ := exists_check address ofNetwork
      obtain ⟨checks, same, placed⟩ := ih ofRest
      refine ⟨check :: checks, ?_, .cons tells placed⟩
      rw [List.map_cons, List.map_cons, given, same]

/-- A probe of usual networks gives one check for each of them, in their order, whatever the
limit and the schedule. -/
theorem probe_answeredBy (limit : Int) (schedule : Pool.Schedule) (address : Text)
    (usual : ∀ network ∈ networks, network.IsUsual replies) :
    ∃ checks, (probe limit schedule address networks).run.answeredBy replies = .ok checks ∧
      List.Forall₂ (Check.Tells replies address) networks checks := by
  obtain ⟨checks, same, placed⟩ := exists_checks address usual
  -- A check that is made stops no search, so every check of the pool is waited for.
  have calm : ∀ work ∈ networks.map (checkTolerantly address),
      stopsSearch (work.answeredBy replies) = false := by
    intro work member
    obtain ⟨network, present, rfl⟩ := List.mem_map.mp member
    obtain ⟨check, given, _⟩ := exists_check address (usual network present)
    rw [given]
    rfl
  refine ⟨checks, ?_, placed⟩
  change Dialogue.answeredBy replies (Dialogue.andThen _ _) = _
  rw [answeredBy_andThen, Pool.gatherUntil_answeredBy limit schedule _ calm, List.map_map]
  change allOrFirstFault (networks.map fun network =>
    (checkTolerantly address network).answeredBy replies) = _
  rw [same, allOrFirstFault_ok]

end Probes

/-! ### Networks that change their minds -/

/-- Some chain gave code for an address. -/
def GaveCode (exchanges : List (Query × Reply)) (address : Text) : Prop :=
  ∃ network code, code ≠ [] ∧ (.chain network (.code address), .ok (.bytes code)) ∈ exchanges

section Changing

variable {address : Text} {network : Network} {networks : List Network}

theorem Talk.isContract_iff {conversation : List (Query × Reply)} {found : Check}
    (talk : Talk address network conversation found) :
    found.isContract = true ↔ GaveCode conversation address := by
  cases talk with
  | unconnected fault => simp [withoutContract, GaveCode]
  | unread connection fault => simp [withoutContract, GaveCode]
  | empty connection => simp [withoutContract, GaveCode]
  | @contract connection code present resolving resolution resolved =>
      exact iff_of_true rfl
        ⟨network, code, present, List.mem_cons_of_mem _ (List.mem_cons_self ..)⟩

private theorem GaveCode.mono {first second : List (Query × Reply)}
    (gave : GaveCode first address) (inside : first ⊆ second) : GaveCode second address := by
  obtain ⟨network, code, present, member⟩ := gave
  exact ⟨network, code, present, inside member⟩

private theorem exists_talks {entries : List (List (Query × Reply) × Except Fault Check)}
    (permitted : ∀ entry ∈ entries, ∀ exchange ∈ entry.1, Permitted exchange.1 exchange.2)
    (paths : List.Forall₂ (fun network entry =>
      Path (checkTolerantly address network) entry.1 entry.2) networks entries) :
    ∃ talks : List (List (Query × Reply) × Check),
      entries = talks.map (Prod.map id Except.ok) ∧
      List.Forall₂ (fun network talk =>
        Path (checkTolerantly address network) talk.1 (.ok talk.2) ∧
          Talk address network talk.1 talk.2) networks talks := by
  induction paths with
  | nil => exact ⟨[], rfl, .nil⟩
  | @cons network entry _ _ path _ ih =>
      obtain ⟨ofFirst, ofOthers⟩ := List.forall_mem_cons.mp permitted
      obtain ⟨talks, rfl, placed⟩ := ih ofOthers
      obtain ⟨conversation, outcome⟩ := entry
      obtain ⟨found, rfl, talk⟩ := checkTolerantly_talks ofFirst path
      exact ⟨(conversation, found) :: talks, rfl, .cons ⟨path, talk⟩ placed⟩

/-- A probe gives a check for every network, whatever the networks reply and in whatever
order.  Its exchanges are a merge of one conversation with each of them. -/
theorem probe_talks {limit : Int} {schedule : Pool.Schedule}
    {exchanges : List (Query × Reply)} {outcome : Except Fault (List Check)}
    (permitted : ∀ exchange ∈ exchanges, Permitted exchange.1 exchange.2)
    (path : Path (probe limit schedule address networks).run exchanges outcome) :
    ∃ talks : List (List (Query × Reply) × Check), outcome = .ok (talks.map Prod.snd) ∧
      Pool.MergesAll (talks.map Prod.fst) exchanges ∧
      List.Forall₂ (fun network talk =>
        Path (checkTolerantly address network) talk.1 (.ok talk.2) ∧
          Talk address network talk.1 talk.2) networks talks := by
  obtain ⟨outcomes, gathered, rfl⟩ := (path_andThen_done_iff ..).mp path
  -- A check that is made stops no search, so every network is asked to the end.
  have calm : ∀ job ∈ (networks.map (checkTolerantly address)).map Job.waiting,
      job.IsCalm stopsSearch Permitted := by
    intro job member part result ofPart own
    obtain ⟨work, present, rfl⟩ := List.mem_map.mp member
    obtain ⟨network, _, rfl⟩ := List.mem_map.mp present
    obtain ⟨found, rfl, _⟩ := checkTolerantly_talks ofPart own
    rfl
  obtain ⟨entries, rfl, merged, paths⟩ :=
    (Pool.interleaved_of_drive gathered permitted calm).exists_entries
  have ofEntries : ∀ entry ∈ entries, ∀ exchange ∈ entry.1,
      Permitted exchange.1 exchange.2 := by
    intro entry member exchange inEntry
    exact permitted exchange (merged.subset (List.mem_map_of_mem member) inEntry)
  obtain ⟨talks, rfl, placed⟩ := exists_talks ofEntries (List.forall₂_map_left_iff.mp paths)
  refine ⟨talks, ?_, ?_, placed⟩
  · rw [List.map_map, ← allOrFirstFault_ok, List.map_map]
    rfl
  · rw [List.map_map] at merged
    exact merged

/-- Networks that change their minds are all checked, and a contract is found exactly when
one of their chains gives code. -/
theorem probe_finds {limit : Int} {schedule : Pool.Schedule}
    {exchanges : List (Query × Reply)} {outcome : Except Fault (List Check)}
    (permitted : ∀ exchange ∈ exchanges, Permitted exchange.1 exchange.2)
    (path : Path (probe limit schedule address networks).run exchanges outcome) :
    ∃ checks, outcome = .ok checks ∧ checks.length = networks.length ∧
      ((∃ check ∈ checks, check.isContract = true) ↔ GaveCode exchanges address) := by
  obtain ⟨talks, rfl, merged, placed⟩ := probe_talks permitted path
  have finds : ∀ talk ∈ talks, talk.2.isContract = true ↔ GaveCode talk.1 address := by
    have each : List.Forall₂ (fun talk _ =>
        (talk.2.isContract = true ↔ GaveCode talk.1 address) ∧ True) talks networks := by
      refine placed.flip.imp ?_
      rintro talk network ⟨_, told⟩
      exact ⟨told.isContract_iff, trivial⟩
    exact ((List.forall₂_and_left ..).mp each).1
  refine ⟨_, rfl, ?_, ?_⟩
  · rw [List.length_map, placed.length_eq]
  · constructor
    · rintro ⟨check, member, contract⟩
      obtain ⟨talk, listed, rfl⟩ := List.mem_map.mp member
      exact ((finds talk listed).mp contract).mono (merged.subset (List.mem_map_of_mem listed))
    · rintro ⟨network, code, present, member⟩
      obtain ⟨part, among, inPart⟩ := merged.exists_of_mem member
      obtain ⟨talk, listed, rfl⟩ := List.mem_map.mp among
      exact ⟨talk.2, List.mem_map_of_mem listed,
        (finds talk listed).mpr ⟨network, code, present, inPart⟩⟩

end Changing

end Network
end ContractSurvey
