/-
Calls written for the aggregator.

Calls can be written exactly when each target is read as an address and each data as bytes.
What is written then holds these addresses and bytes and nothing else, in the order of the
calls and behind the selector of the aggregator's function.  Reading it gives them back, so
calls that differ are never written alike.
-/

import ContractSurvey.Proofs.Call.Batch

namespace ContractSurvey
namespace Call

/-- Target and data of a request can be read. -/
def Request.IsReadable (request : Request) : Prop :=
  (∃ address, Address.ofText request.target = .ok address) ∧
    ∃ content, Bytecode.ofText request.data = .ok content

/-- A target and data as bytes say what a request says. -/
structure Request.IsCarriedBy (request : Request) (call : List UInt8 × List UInt8) :
    Prop where
  twenty : call.1.length = Address.byteCount
  target : Address.ofText request.target = .ok (Address.checksummed (Hex.ofBytes call.1))
  data : Bytecode.ofText request.data = .ok call.2

theorem Request.IsCarriedBy.unique {request : Request} {first second : List UInt8 × List UInt8}
    (carried : request.IsCarriedBy first) (again : request.IsCarriedBy second) :
    first = second := by
  have targets := Except.ok.inj (carried.target.symm.trans again.target)
  have contents := Except.ok.inj (carried.data.symm.trans again.data)
  exact Prod.ext (Address.checksummed_injective carried.twenty again.twenty targets) contents

/-- Two requests name the same account and the same data. -/
def Request.SaysTheSame (first second : Request) : Prop :=
  Address.ofText first.target = Address.ofText second.target ∧
    Bytecode.ofText first.data = Bytecode.ofText second.data

namespace Batch

/-! ### Spelling out -/

theorem spelledOut_eq_ok_iff (request : Request) (call : List UInt8 × List UInt8) :
    spelledOut request = .ok call ↔ request.IsCarriedBy call := by
  unfold spelledOut
  constructor
  · intro given
    obtain ⟨address, target, onward⟩ := exists_of_bind_eq_ok given
    obtain ⟨content, data, same⟩ := exists_of_bind_eq_ok onward
    cases same
    have named := (mapError_eq_ok_iff ..).mp target
    obtain ⟨bytes, twenty, _, rfl⟩ := Address.exists_spells_of_ofText named
    rw [Address.addressBytes_checksummed twenty]
    exact ⟨twenty, named, (mapError_eq_ok_iff ..).mp data⟩
  · intro carried
    rw [carried.target, carried.data]
    change Except.ok (addressBytes _, call.2) = _
    rw [Address.addressBytes_checksummed carried.twenty]

theorem spelledOutAll_eq_mapM (requests : List Request) :
    spelledOutAll requests = requests.mapM spelledOut := by
  induction requests with
  | nil => rfl
  | cons request rest ih =>
      rw [List.mapM_cons, ← ih]
      rfl

theorem spelledOutAll_eq_ok_iff (requests : List Request)
    (calls : List (List UInt8 × List UInt8)) :
    spelledOutAll requests = .ok calls ↔ List.Forall₂ Request.IsCarriedBy requests calls := by
  rw [spelledOutAll_eq_mapM, mapM_eq_ok_iff]
  simp only [spelledOut_eq_ok_iff]

theorem exists_carriedBy_iff (request : Request) :
    (∃ call, request.IsCarriedBy call) ↔ request.IsReadable := by
  constructor
  · rintro ⟨call, carried⟩
    exact ⟨⟨_, carried.target⟩, _, carried.data⟩
  · rintro ⟨⟨address, named⟩, content, data⟩
    obtain ⟨bytes, twenty, _, rfl⟩ := Address.exists_spells_of_ofText named
    exact ⟨(bytes, content), twenty, named, data⟩

theorem exists_carriedBy_all_iff (requests : List Request) :
    (∃ calls, List.Forall₂ Request.IsCarriedBy requests calls) ↔
      ∀ request ∈ requests, request.IsReadable := by
  induction requests with
  | nil =>
      simp only [List.not_mem_nil, false_implies, implies_true, iff_true]
      exact ⟨[], .nil⟩
  | cons request rest ih =>
      rw [List.forall_mem_cons, ← ih, ← exists_carriedBy_iff]
      constructor
      · rintro ⟨_, carried⟩
        cases carried with
        | cons first later => exact ⟨⟨_, first⟩, _, later⟩
      · rintro ⟨⟨call, first⟩, calls, later⟩
        exact ⟨call :: calls, .cons first later⟩

/-! ### What is written -/

/-- The bytes of the selector of the aggregator's function. -/
def selectorBytes : List UInt8 :=
  (Keccak.digest aggregateSignature.utf8).take 4

theorem selectorBytes_length : selectorBytes.length = 4 := by
  unfold selectorBytes
  rw [List.length_take, Address.digest_length]
  rfl

example : selectorBytes = [0xbc, 0xe3, 0x8b, 0xd7] := by
  decide +kernel

theorem payload_eq_marked (calls : List (List UInt8 × List UInt8)) :
    payload calls = Hex.marked (selectorBytes ++ Abi.writeCalls false calls) := by
  unfold payload aggregateSelector Hex.marked Hex.ofBytes
  rw [List.flatMap_append]
  rfl

theorem encode_eq_ok_iff (requests : List Request) (data : Text) :
    encode requests = .ok data ↔ ∃ calls,
      List.Forall₂ Request.IsCarriedBy requests calls ∧ data = payload calls := by
  unfold encode
  constructor
  · intro given
    obtain ⟨calls, spelled, same⟩ := exists_of_bind_eq_ok given
    exact ⟨calls, (spelledOutAll_eq_ok_iff ..).mp spelled, (Except.ok.inj same).symm⟩
  · rintro ⟨calls, carried, rfl⟩
    rw [(spelledOutAll_eq_ok_iff ..).mpr carried]
    rfl

/-! ### What is read back -/

/-- The bound on lengths is reached neither by the number of the requests nor by the data of
one of them, as it is for every list and text that is held in memory. -/
structure AreStorable (requests : List Request) : Prop where
  count : requests.length < Abi.lengthBound
  data : ∀ request ∈ requests, request.data.length < Abi.lengthBound

private theorem roundedUp_lt {length : Nat} (half : 2 * length < Abi.lengthBound) :
    Abi.roundedUp length < Abi.lengthBound := by
  unfold Abi.roundedUp Abi.wordSize
  unfold Abi.lengthBound at half ⊢
  change 2 * length < 9223372036854775808 at half
  change _ < 9223372036854775808
  omega

private theorem carried_call {requests : List Request}
    {calls : List (List UInt8 × List UInt8)}
    (carried : List.Forall₂ Request.IsCarriedBy requests calls)
    (short : ∀ request ∈ requests, request.data.length < Abi.lengthBound) :
    ∀ call ∈ calls, call.1.length = Address.byteCount ∧
      Abi.roundedUp call.2.length < Abi.lengthBound := by
  induction carried with
  | nil => simp
  | cons first _ ih =>
      obtain ⟨bounded, others⟩ := List.forall_mem_cons.mp short
      have length := Hex.length_le_of_ofText first.data
      exact List.forall_mem_cons.mpr
        ⟨⟨first.twenty, roundedUp_lt (Nat.lt_of_le_of_lt length bounded)⟩, ih others⟩

private theorem writeCalls_fits {calls : List (List UInt8 × List UInt8)}
    (few : calls.length < Abi.lengthBound)
    (each : ∀ call ∈ calls, call.1.length = Address.byteCount ∧
      Abi.roundedUp call.2.length < Abi.lengthBound) :
    (Abi.writeCalls false calls).length < Nat.pow 256 Abi.wordSize := by
  have bounded : ∀ call ∈ calls,
      (Abi.writeCall call).length ≤ 3 * Abi.wordSize + Abi.lengthBound := by
    intro call member
    obtain ⟨twenty, short⟩ := each call member
    rw [Abi.writeCall_length twenty]
    omega
  have parts := Abi.flatten_writeCall_length_le bounded
  have product : calls.length * (3 * Abi.wordSize + Abi.lengthBound) ≤
      Abi.lengthBound * (3 * Abi.wordSize + Abi.lengthBound) :=
    Nat.mul_le_mul_right _ (Nat.le_of_lt few)
  have heads : Abi.wordSize * calls.length ≤ Abi.wordSize * Abi.lengthBound :=
    Nat.mul_le_mul_left _ (Nat.le_of_lt few)
  have room : 3 * Abi.wordSize + Abi.wordSize * Abi.lengthBound +
      Abi.lengthBound * (3 * Abi.wordSize + Abi.lengthBound) < Nat.pow 256 Abi.wordSize := by
    decide
  rw [Abi.writeCalls_length]
  refine Nat.lt_of_le_of_lt ?_ room
  exact Nat.add_le_add (Nat.add_le_add_left heads _) (Nat.le_trans parts product)

theorem readCalls_of_carried {requests : List Request}
    {calls : List (List UInt8 × List UInt8)} (storable : AreStorable requests)
    (carried : List.Forall₂ Request.IsCarriedBy requests calls) :
    Abi.readCalls (Abi.writeCalls false calls) = .ok (false, calls) := by
  have each := carried_call carried storable.data
  have few : calls.length < Abi.lengthBound := by
    rw [← carried.length_eq]
    exact storable.count
  have read := Abi.readCalls_writeCalls false calls (fun call member => (each call member).1)
    (fun call member => (each call member).2) []
  rw [List.append_nil] at read
  exact read (writeCalls_fits few each)

/-! ### Faithful encodings -/

private theorem say_same_of_carried {requests others : List Request}
    {calls : List (List UInt8 × List UInt8)}
    (first : List.Forall₂ Request.IsCarriedBy requests calls)
    (second : List.Forall₂ Request.IsCarriedBy others calls) :
    List.Forall₂ Request.SaysTheSame requests others := by
  induction first generalizing others with
  | nil =>
      cases second
      exact .nil
  | cons own _ ih =>
      cases second with
      | cons other later =>
          have same := own.target.trans other.target.symm
          exact .cons ⟨same, own.data.trans other.data.symm⟩ (ih later)

private theorem carried_of_say_same {requests others : List Request}
    {calls : List (List UInt8 × List UInt8)}
    (carried : List.Forall₂ Request.IsCarriedBy requests calls)
    (same : List.Forall₂ Request.SaysTheSame requests others) :
    List.Forall₂ Request.IsCarriedBy others calls := by
  induction carried generalizing others with
  | nil =>
      cases same
      exact .nil
  | cons own _ ih =>
      cases same with
      | cons first later =>
          have target := first.1.symm.trans own.target
          exact .cons ⟨own.twenty, target, first.2.symm.trans own.data⟩ (ih later)

/-- Requests can be written exactly when each of them can be read.  What is written holds
what they say, in their order, and nothing but requests that say the same is written in the
same way. -/
theorem encode_faithful (requests : List Request) :
    ((∃ data, encode requests = .ok data) ↔
      ∀ request ∈ requests, request.IsReadable) ∧
    (AreStorable requests → ∀ data, encode requests = .ok data →
      (∃ written calls, data = Hex.marked (selectorBytes ++ written) ∧
        selectorBytes.length = 4 ∧ Abi.readCalls written = .ok (false, calls) ∧
        List.Forall₂ Request.IsCarriedBy requests calls) ∧
      ∀ others, AreStorable others →
        (encode others = .ok data ↔ List.Forall₂ Request.SaysTheSame requests others)) := by
  constructor
  · rw [← exists_carriedBy_all_iff]
    constructor
    · rintro ⟨data, given⟩
      obtain ⟨calls, carried, _⟩ := (encode_eq_ok_iff ..).mp given
      exact ⟨calls, carried⟩
    · rintro ⟨calls, carried⟩
      exact ⟨payload calls, (encode_eq_ok_iff ..).mpr ⟨calls, carried, rfl⟩⟩
  · intro storable data given
    obtain ⟨calls, carried, rfl⟩ := (encode_eq_ok_iff ..).mp given
    have read := readCalls_of_carried storable carried
    constructor
    · exact ⟨Abi.writeCalls false calls, calls, payload_eq_marked calls,
        selectorBytes_length, read, carried⟩
    intro others storableToo
    constructor
    · intro again
      obtain ⟨otherCalls, carriedToo, same⟩ := (encode_eq_ok_iff ..).mp again
      rw [payload_eq_marked, payload_eq_marked] at same
      have written := List.append_cancel_left (Hex.marked_injective same)
      have readToo := readCalls_of_carried storableToo carriedToo
      rw [← written, read] at readToo
      cases readToo
      exact say_same_of_carried carried carriedToo
    · intro same
      exact (encode_eq_ok_iff ..).mpr ⟨calls, carried_of_say_same carried same, rfl⟩

/-- A call without data, and one whose data fill up a word. -/
def twoCalls : List Request :=
  [{ target := "0x".toList ++ List.replicate 40 'a', data := Hex.marked [] },
    { target := List.replicate 40 'B', data := Hex.marked (List.replicate 32 0x11) }]

theorem encode_twoCalls_faithful :
    AreStorable twoCalls ∧ AreStorable twoCalls.reverse ∧
    ∃ data written, encode twoCalls = .ok data ∧
      data = Hex.marked (selectorBytes ++ written) ∧
      Abi.readCalls written = .ok (false, [(List.replicate 20 0xaa, []),
        (List.replicate 20 0xbb, List.replicate 32 0x11)]) ∧
      encode twoCalls.reverse ≠ .ok data := by
  have storable : AreStorable twoCalls :=
    ⟨by decide, by decide⟩
  have reversed : AreStorable twoCalls.reverse :=
    ⟨by decide, by decide⟩
  have empty : Request.IsCarriedBy
      ⟨"0x".toList ++ List.replicate 40 'a', Hex.marked []⟩ (List.replicate 20 0xaa, []) :=
    ⟨rfl, Address.ofText_of_spells rfl (by decide), Hex.ofText_marked _⟩
  have filled : Request.IsCarriedBy
      ⟨List.replicate 40 'B', Hex.marked (List.replicate 32 0x11)⟩
      (List.replicate 20 0xbb, List.replicate 32 0x11) :=
    ⟨rfl, Address.ofText_of_spells rfl (by decide), Hex.ofText_marked _⟩
  have readable : ∀ request ∈ twoCalls, request.IsReadable :=
    (exists_carriedBy_all_iff twoCalls).mp ⟨_, .cons empty (.cons filled .nil)⟩
  obtain ⟨data, given⟩ := (encode_faithful twoCalls).1.mpr readable
  obtain ⟨⟨written, calls, spelled, _, read, carried⟩, unique⟩ :=
    (encode_faithful twoCalls).2 storable data given
  refine ⟨storable, reversed, data, written, given, spelled, ?_, ?_⟩
  · cases carried with
    | cons first later =>
        cases later with
        | cons second none =>
            cases none
            rw [read, first.unique empty, second.unique filled]
  · intro same
    cases (unique _ reversed).mp same with
    | cons differ _ => exact absurd differ.2 (by decide)

end Batch
end Call
end ContractSurvey
