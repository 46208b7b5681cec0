/-
What the resolution of a proxy rests on.

An implementation is found only when its code was asked for and came back, and its address
stands in a word of the chain, so it is canonical.  An outside that gives bytes or ordinary
faults never stops the search.
-/

import ContractSurvey.Proxy
import ContractSurvey.Proofs.Address.Canonical
import ContractSurvey.Proofs.Analysis.Stage

namespace ContractSurvey
namespace Proxy

open Dialogue

/-- An implementation that was found: its address and its code. -/
structure IsFound (exchanges : List (Chain.Query × Reply)) (implementation : Text)
    (code : Value) : Prop where
  canonical : Address.IsCanonical implementation
  present : code.isPresent = true
  answered : (Chain.Query.code implementation, Except.ok code) ∈ exchanges

theorem IsFound.mono {first second : List (Chain.Query × Reply)} {implementation : Text}
    {code : Value} (found : IsFound first implementation code) (subset : first ⊆ second) :
    IsFound second implementation code :=
  ⟨found.canonical, found.present, subset found.answered⟩

/-! ### Words of the chain -/

theorem addressIn_isCanonical {word : Value} {address : Text}
    (found : addressIn word = .ok (some address)) : Address.IsCanonical address := by
  unfold addressIn Fault.ofMisuse at found
  exact Address.ofWordValue_isCanonical ((mapError_eq_ok_iff ..).mp found)

private theorem isCanonical_of_question {query : Chain.Query}
    {exchanges : List (Chain.Query × Reply)} {address : Text}
    (path : Path (do
      let word ← Attempt.questionOr .null query
      Attempt.ofExcept (addressIn word) : Attempt Chain.Query (Option Text)).run
        exchanges (.ok (some address))) : Address.IsCanonical address := by
  obtain ⟨word, front, behind, rfl, _, read⟩ := (path_bind_ok_iff ..).mp path
  obtain ⟨_, same⟩ := (Attempt.path_ofExcept_iff ..).mp read
  exact addressIn_isCanonical same.symm

theorem slotAddress_isCanonical {address slot found : Text}
    {exchanges : List (Chain.Query × Reply)}
    (path : Path (slotAddress address slot).run exchanges (.ok (some found))) :
    Address.IsCanonical found :=
  isCanonical_of_question path

theorem beaconAddress_isCanonical {beacon found : Text}
    {exchanges : List (Chain.Query × Reply)}
    (path : Path (beaconAddress beacon).run exchanges (.ok (some found))) :
    Address.IsCanonical found :=
  isCanonical_of_question path

/-! ### Candidates -/

theorem withCode_isFound {candidate? : Option Text} {implementation : Text} {code : Value}
    {exchanges : List (Chain.Query × Reply)}
    (canonical : ∀ candidate, candidate? = some candidate → Address.IsCanonical candidate)
    (path : Path (withCode candidate?).run exchanges (.ok (some (implementation, code)))) :
    IsFound exchanges implementation code := by
  cases candidate? with
  | none =>
      obtain ⟨_, impossible⟩ := (path_done_iff ..).mp path
      cases impossible
  | some candidate =>
      obtain ⟨held, front, behind, rfl, asked, chosen⟩ := (path_bind_ok_iff ..).mp path
      obtain ⟨rfl, same⟩ := (path_done_iff ..).mp chosen
      obtain ⟨reply, rfl, given⟩ := (Attempt.path_questionOr_iff ..).mp asked
      by_cases present : held.isPresent = true
      · rw [if_pos present] at same
        cases same
        rcases Reply.eq_ok_of_orElse given.symm with answered | missing
        · refine ⟨canonical _ rfl, present, ?_⟩
          rw [answered]
          exact List.mem_cons_self ..
        · rw [missing] at present
          cases present
      · rw [if_neg present] at same
        cases same

theorem throughBeacon_isFound {address implementation : Text} {code : Value}
    {exchanges : List (Chain.Query × Reply)}
    (path : Path (throughBeacon address).run exchanges
      (.ok (some (implementation, code)))) : IsFound exchanges implementation code := by
  obtain ⟨beacon?, front, behind, rfl, _, onward⟩ := (path_bind_ok_iff ..).mp path
  cases beacon? with
  | none =>
      obtain ⟨_, impossible⟩ := (path_done_iff ..).mp onward
      cases impossible
  | some beacon =>
      obtain ⟨candidate?, asked, rest, rfl, named, chosen⟩ := (path_bind_ok_iff ..).mp onward
      have found : IsFound rest implementation code := by
        refine withCode_isFound ?_ chosen
        rintro candidate rfl
        exact beaconAddress_isCanonical named
      apply found.mono
      intro exchange member
      exact List.mem_append_right _ (List.mem_append_right _ member)

/-- A resolution names no implementation, or one that was found. -/
theorem resolve_ok_cases {address : Text} {resolution : Resolution}
    {exchanges : List (Chain.Query × Reply)}
    (path : Path (resolve address).run exchanges (.ok resolution)) :
    resolution = { proxyAddress := address } ∨
      ∃ implementation code viaBeacon, IsFound exchanges implementation code ∧
        found address implementation code viaBeacon = .ok resolution := by
  obtain ⟨candidate?, front, behind, rfl, slot, onward⟩ := (path_bind_ok_iff ..).mp path
  obtain ⟨chosen?, asked, rest, rfl, chosen, decided⟩ := (path_bind_ok_iff ..).mp onward
  cases chosen? with
  | some pair =>
      obtain ⟨_, same⟩ := (Attempt.path_ofExcept_iff ..).mp decided
      have found : IsFound asked pair.1 pair.2 := by
        refine withCode_isFound ?_ chosen
        rintro candidate rfl
        exact slotAddress_isCanonical slot
      refine Or.inr ⟨pair.1, pair.2, false, found.mono ?_, same.symm⟩
      intro exchange member
      exact List.mem_append_right _ (List.mem_append_left _ member)
  | none =>
      obtain ⟨beaconed?, before, last, rfl, beaconed, ended⟩ :=
        (path_bind_ok_iff ..).mp decided
      cases beaconed? with
      | none =>
          obtain ⟨_, same⟩ := (path_done_iff ..).mp ended
          exact Or.inl (Except.ok.inj same)
      | some pair =>
          obtain ⟨_, same⟩ := (Attempt.path_ofExcept_iff ..).mp ended
          have found : IsFound before pair.1 pair.2 := throughBeacon_isFound beaconed
          refine Or.inr ⟨pair.1, pair.2, true, found.mono ?_, same.symm⟩
          intro exchange member
          exact List.mem_append_right _
            (List.mem_append_right _ (List.mem_append_left _ member))

theorem found_bytes (address implementation : Text) (code : List UInt8) (viaBeacon : Bool) :
    found address implementation (.bytes code) viaBeacon = .ok {
      proxyAddress := address
      isProxy := true
      implementationAddress := implementation
      implementationBytecode := Hex.marked code
      viaBeacon := viaBeacon } :=
  rfl

/-- The resolution of a proxy spells the code that its implementation was seen to have. -/
theorem exists_code_of_isProxy {address : Text} {resolution : Resolution}
    {exchanges : List (Chain.Query × Reply)}
    (bytes : ∀ exchange ∈ exchanges, exchange.2.HoldsBytes)
    (path : Path (resolve address).run exchanges (.ok resolution))
    (proxied : resolution.isProxy = true) :
    ∃ code, Address.IsCanonical resolution.implementationAddress ∧
      (.code resolution.implementationAddress, .ok (.bytes code)) ∈ exchanges ∧
      resolution.implementationBytecode = Hex.marked code := by
  rcases resolve_ok_cases path with plain | ⟨implementation, value, viaBeacon, known, named⟩
  · rw [plain] at proxied
    cases proxied
  · obtain ⟨code, rfl⟩ := bytes _ known.answered value rfl
    rw [found_bytes] at named
    cases named
    exact ⟨code, known.canonical, known.answered, rfl⟩

end Proxy
end ContractSurvey
