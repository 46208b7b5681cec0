/-
Networks that are probed side by side.

A probe has one conversation with each network, and its exchanges are a merge of these.  What
a check says is read off the conversation with its own network: that the network could not be
connected to, that its chain gave no code, or that it gave code, behind which the search for a
proxy has the rest of the conversation.

So the replies of a network decide the check of this network alone, whatever the other networks
do, in whatever order the replies come, and however many networks are asked at a time.  Networks
may change their minds and may depend on what they were asked before.
-/

import ContractSurvey.Proofs.Dialogue.Outside
import ContractSurvey.Proofs.Network.Probe

namespace ContractSurvey
namespace Network

open Dialogue

/-- A check that says what a conversation with its network tells.  A client that gives the
replies of the conversation has the same conversation, and leads to the same check, when its
network is the only one. -/
structure Check.IsDecidedBy (address : Text) (network : Network)
    (conversation : List (Query × Reply)) (check : Check) : Prop where
  name : check.network = network.name
  serverUrl : check.serverUrl = network.serverUrl
  own : ∀ exchange ∈ conversation, exchange.1.network = network
  isContract : check.isContract = true ↔ ∃ connection code later, code ≠ [] ∧
    conversation = (.connect network, .ok connection) ::
      (.chain network (.code address), .ok (.bytes code)) :: later
  resolution : ∀ opening code later, code ≠ [] →
    conversation = opening :: (.chain network (.code address), .ok (.bytes code)) :: later →
    ∃ resolving resolution, later = resolving.map (Prod.map (Query.chain network) id) ∧
      Path (Proxy.resolve address).run resolving (.ok resolution) ∧
      check.isProxy = resolution.isProxy ∧
      check.implementation = resolution.implementationAddress
  absent : check.isContract = false →
    check.isProxy = false ∧ check.implementation = Address.zeroAddress
  isProxy : check.isProxy = true → check.isContract = true
  alone : ∀ client : Outside Query, client.Gives conversation →
    (checkTolerantly address network).exchangesWith client = conversation ∧
      (checkTolerantly address network).resultWith client = .ok check

section Talks

variable {address : Text} {network : Network}

/-- The check that a conversation comes to is decided by it. -/
theorem Talk.isDecidedBy {conversation : List (Query × Reply)} {check : Check}
    (talk : Talk address network conversation check)
    (path : Path (checkTolerantly address network) conversation (.ok check)) :
    check.IsDecidedBy address network conversation where
  own := asksOnly_checkTolerantly address network _ _ path
  alone client gives := path.eq_with gives
  name := by cases talk <;> rfl
  serverUrl := by cases talk <;> rfl
  isContract := by
    cases talk with
    | unconnected fault => simp [withoutContract]
    | unread connection fault => simp [withoutContract]
    | empty connection => simp [withoutContract]
    | @contract connection code present resolving resolution resolved =>
        exact iff_of_true rfl ⟨connection, code, _, present, rfl⟩
  resolution := by
    intro opening code later present same
    cases talk with
    | unconnected fault => simp at same
    | unread connection fault => simp at same
    | empty connection =>
        simp only [List.cons.injEq, Prod.mk.injEq, Except.ok.injEq, Value.bytes.injEq,
          true_and] at same
        exact absurd same.2.1.symm present
    | @contract connection _ _ resolving resolution resolved =>
        exact ⟨resolving, resolution, (List.cons.inj (List.cons.inj same).2).2.symm, resolved,
          rfl, rfl⟩
  absent := by
    intro missing
    cases talk with
    | unconnected fault => exact ⟨rfl, rfl⟩
    | unread connection fault => exact ⟨rfl, rfl⟩
    | empty connection => exact ⟨rfl, rfl⟩
    | contract connection present resolved => cases missing
  isProxy := by
    intro proxied
    cases talk with
    | unconnected fault => cases proxied
    | unread connection fault => cases proxied
    | empty connection => cases proxied
    | contract connection present resolved => rfl

end Talks

/-! ### Isolation -/

section Isolation

variable {outside : Outside Query}

/-- Whatever the networks reply, a probe gives one check for each of them, in their order, and
the check of a network is decided by the conversation with this network.  Where the replies of a
network are left to a client of its own, the conversation and the check are the ones that this
client brings about alone, whatever the other networks do. -/
theorem probe_isolates (limit : Int) (schedule : Pool.Schedule) (address : Text)
    (networks : List Network)
    (permitted : ∀ earlier query, Permitted query (outside earlier query)) :
    ∃ talks : List (List (Query × Reply) × Check),
      (probe limit schedule address networks).run.resultWith outside =
        .ok (talks.map Prod.snd) ∧
      Pool.MergesAll (talks.map Prod.fst)
        ((probe limit schedule address networks).run.exchangesWith outside) ∧
      List.Forall₂ (fun network talk => talk.2.IsDecidedBy address network talk.1 ∧
        (networks.count network = 1 → ∀ client : Outside Query,
          outside.LeavesTo client (fun query => query.network = network) →
          (checkTolerantly address network).exchangesWith client = talk.1 ∧
            (checkTolerantly address network).resultWith client = .ok talk.2))
        networks talks := by
  have path := path_with outside (probe limit schedule address networks).run
  have given := gives_exchangesWith outside (probe limit schedule address networks).run
  obtain ⟨talks, ended, merged, placed⟩ := probe_talks (forall_exchangesWith permitted _) path
  have owned : List.Forall₂ (fun network part => ∀ exchange ∈ part,
      Query.network exchange.1 = network) networks (talks.map Prod.fst) :=
    List.forall₂_map_right_iff.mpr (placed.imp fun network _ held =>
      asksOnly_checkTolerantly address network _ _ held.1)
  have parts := List.forall₂_map_right_iff.mp (merged.forall₂_filter owned)
  refine ⟨talks, ended, merged, List.Forall₂.mp ?_ placed parts⟩
  rintro network talk ⟨own, told⟩ ofOwner
  refine ⟨told.isDecidedBy own, ?_⟩
  -- What the client is asked in the probe is the conversation with its network.
  intro once client leaves
  have replies := leaves.gives given
  rw [ofOwner once] at replies
  exact own.eq_with replies

/-- Networks each of which has a client of its own. -/
def sideBySide (clients : Network → Outside Query) : Outside Query :=
  fun earlier query => clients query.network
    (earlier.filter fun exchange => exchange.1.network = query.network) query

theorem sideBySide_leavesTo (clients : Network → Outside Query) (network : Network) :
    (sideBySide clients).LeavesTo (clients network) fun query => query.network = network := by
  intro earlier query about
  obtain rfl := of_decide_eq_true about
  rfl

/-- Clients of four networks: one that cannot be reached, one whose chain holds no code, one
whose chain forgets its code when it was asked, and one on which every account is a proxy. -/
def fourClients (network : Network) (earlier : List (Query × Reply)) : Query → Reply
  | .connect _ =>
      if network.chainNumber = 1 then .error (.unreachable network.serverUrl) else .ok .null
  | .chain _ (.storage _ _) => .ok (.bytes (List.replicate 32 0x33))
  | .chain _ (.call _ _ _) => .error (.status 404)
  | .chain _ (.code _) =>
      if network.chainNumber = 56 then .ok (.bytes [])
      else if network.chainNumber = 43114 ∧ 1 < earlier.length then .error (.status 404)
      else .ok (.bytes [0x60])

private theorem fourClients_permitted (earlier : List (Query × Reply)) (query : Query) :
    Permitted query (sideBySide fourClients earlier query) := by
  cases query with
  | connect network =>
      change Reply.IsOrdinary (if network.chainNumber = 1 then _ else _)
      split
      · exact (Reply.isOrdinary_error_iff _).mpr rfl
      · exact Reply.isOrdinary_ok _
  | chain network inner =>
      cases inner with
      | storage account slot => exact ⟨Reply.holdsBytes_bytes _, Reply.isOrdinary_ok _⟩
      | call target data sender =>
          exact ⟨Reply.holdsBytes_error _, (Reply.isOrdinary_error_iff _).mpr rfl⟩
      | code account =>
          change Proxy.Allowed (.code account)
            (if network.chainNumber = 56 then _ else if _ then _ else _)
          split
          · exact ⟨Reply.holdsBytes_bytes _, Reply.isOrdinary_ok _⟩
          · split
            · exact ⟨Reply.holdsBytes_error _, (Reply.isOrdinary_error_iff _).mpr rfl⟩
            · exact ⟨Reply.holdsBytes_bytes _, Reply.isOrdinary_ok _⟩

theorem probe_isolates_four_networks :
    let address := "0x".toList ++ List.replicate 40 'a'
    let networks := (known []).take 4
    (∀ earlier query, Permitted query (sideBySide fourClients earlier query)) ∧
    ∃ talks : List (List (Query × Reply) × Check),
      talks.map (fun talk => (talk.2.isContract, talk.2.isProxy, talk.2.implementation)) =
        [(false, false, Address.zeroAddress), (false, false, Address.zeroAddress),
          (true, false, Address.zeroAddress),
          (true, true, "0x".toList ++ List.replicate 40 '3')] ∧
      List.Forall₂ (fun network talk => talk.2.IsDecidedBy address network talk.1 ∧
        (checkTolerantly address network).exchangesWith (fourClients network) = talk.1 ∧
        (checkTolerantly address network).resultWith (fourClients network) = .ok talk.2)
        networks talks := by
  intro address networks
  obtain ⟨talks, ended, _, placed⟩ :=
    probe_isolates 2 [1, 0, 1, 1, 0] address networks fourClients_permitted
  refine ⟨fourClients_permitted, talks, ?_, ?_⟩
  · have shown : ((probe 2 [1, 0, 1, 1, 0] address networks).run.resultWith
        (sideBySide fourClients)).toOption.map (fun checks => checks.map fun check =>
          (check.isContract, check.isProxy, check.implementation)) =
        some [(false, false, Address.zeroAddress), (false, false, Address.zeroAddress),
          (true, false, Address.zeroAddress),
          (true, true, "0x".toList ++ List.replicate 40 '3')] := by
      decide +kernel
    rw [ended] at shown
    exact List.map_map.symm.trans (Option.some.inj shown)
  · have once : ∀ network ∈ networks, networks.count network = 1 := by
      decide +kernel
    refine ((List.forall₂_and_left ..).mpr ⟨once, placed⟩).imp ?_
    rintro network talk ⟨single, decided, alone⟩
    exact ⟨decided, alone single _ (sideBySide_leavesTo fourClients network)⟩

end Isolation

end Network
end ContractSurvey
