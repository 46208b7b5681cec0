/-
Reading contract data that was written.

A part holds its place in data when it stands there, whatever stands before and behind it.
Each reading gives back what the corresponding writing put at a place, so lists of results
and lists of calls are read as they were written, whatever bytes follow them.  Every distance
has to fit into a word, and every byte string with what fills it up has to stay below the
bound on lengths.
-/

import ContractSurvey.Abi.Reading
import ContractSurvey.Abi.Writing
import ContractSurvey.Proofs.Abi.Number

namespace ContractSurvey
namespace Abi

/-! ### Numbers and words -/

theorem bigEndian_length (count value : Nat) : (bigEndian count value).length = count := by
  induction count generalizing value with
  | zero => rfl
  | succ more ih =>
      rw [bigEndian, List.length_append, ih]
      rfl

theorem word_length (value : Nat) : (word value).length = wordSize :=
  bigEndian_length wordSize value

/-- A number that fits into a count of bytes is read back from them. -/
theorem numberOf_bigEndian (count value : Nat) (fits : value < Nat.pow 256 count) :
    numberOf (bigEndian count value) = value := by
  induction count generalizing value with
  | zero =>
      have zero : value = 0 := Nat.lt_one_iff.mp fits
      rw [zero]
      rfl
  | succ more ih =>
      have shifted : value / 256 < Nat.pow 256 more := by
        apply Nat.div_lt_of_lt_mul
        rw [Nat.mul_comm]
        exact fits
      have last : (UInt8.ofNat (value % 256)).toNat = value % 256 :=
        UInt8.toNat_ofNat_of_lt' (Nat.mod_lt value (by decide))
      rw [bigEndian, numberOf_append_singleton, ih _ shifted, last]
      omega

theorem lt_wordBound {value : Nat} (fits : value < lengthBound) :
    value < Nat.pow 256 wordSize :=
  Nat.lt_of_lt_of_le fits (by decide)

private theorem ok_bind {First Second : Type} (value : First)
    (next : First → Except Fault Second) : (Except.ok value >>= next) = next value :=
  rfl

/-! ### Parts at a place -/

/-- A part stands at a position of data. -/
def Holds (data : List UInt8) (position : Nat) (part : List UInt8) : Prop :=
  ∃ before behind, data = before ++ (part ++ behind) ∧ before.length = position

theorem holds_front (part behind : List UInt8) : Holds (part ++ behind) 0 part :=
  ⟨[], behind, (List.nil_append _).symm, rfl⟩

theorem Holds.left {data first second : List UInt8} {position : Nat}
    (holds : Holds data position (first ++ second)) : Holds data position first := by
  obtain ⟨before, behind, rfl, rfl⟩ := holds
  exact ⟨before, second ++ behind, by rw [List.append_assoc], rfl⟩

theorem Holds.right {data first second : List UInt8} {position : Nat}
    (holds : Holds data position (first ++ second)) :
    Holds data (position + first.length) second := by
  obtain ⟨before, behind, rfl, rfl⟩ := holds
  refine ⟨before ++ first, behind, ?_, List.length_append⟩
  rw [List.append_assoc, List.append_assoc]

theorem Holds.take_drop {data part : List UInt8} {position : Nat}
    (holds : Holds data position part) : (data.drop position).take part.length = part := by
  obtain ⟨before, behind, rfl, rfl⟩ := holds
  rw [List.drop_left, List.take_left]

theorem Holds.length_le {data part : List UInt8} {position : Nat}
    (holds : Holds data position part) : position + part.length ≤ data.length := by
  obtain ⟨before, behind, rfl, rfl⟩ := holds
  rw [List.length_append, List.length_append]
  omega

/-! ### Parts of fixed size -/

theorem readWord_of_holds {data part : List UInt8} {position : Nat}
    (holds : Holds data position part) (size : part.length = wordSize) :
    readWord data position = .ok part := by
  have taken := holds.take_drop
  rw [size] at taken
  unfold readWord
  rw [taken]
  exact if_neg (by omega)

theorem readNumber_of_holds {data : List UInt8} {position value : Nat}
    (holds : Holds data position (word value)) (fits : value < Nat.pow 256 wordSize) :
    readNumber data position = .ok value := by
  unfold readNumber
  rw [readWord_of_holds holds (word_length value)]
  exact congrArg Except.ok (numberOf_bigEndian wordSize value fits)

theorem readFlag_of_holds {data : List UInt8} {position : Nat} {flag : Bool}
    (holds : Holds data position (writeFlag flag)) : readFlag data position = .ok flag := by
  unfold readFlag
  rw [readWord_of_holds holds (word_length _)]
  cases flag <;> rfl

private theorem checkFilling_replicate (count : Nat) :
    checkFilling (List.replicate count 0) = .ok () := by
  unfold checkFilling
  rw [List.all_replicate]
  split <;> simp_all

theorem readAddress_of_holds {data address : List UInt8} {position : Nat}
    (holds : Holds data position (writeAddress address)) (twenty : address.length = 20) :
    readAddress data position = .ok address := by
  have filled : writeAddress address = List.replicate 12 0 ++ address := by
    unfold writeAddress
    rw [twenty]
    rfl
  have size : (writeAddress address).length = wordSize := by
    rw [filled, List.length_append, List.length_replicate, twenty]
    rfl
  have front : (writeAddress address).take 12 = List.replicate 12 0 := by
    rw [filled]
    exact List.take_left' List.length_replicate
  have behind : (writeAddress address).drop 12 = address := by
    rw [filled]
    exact List.drop_left' List.length_replicate
  unfold readAddress
  rw [readWord_of_holds holds size, ok_bind, front, behind, checkFilling_replicate]
  rfl

/-! ### Byte strings -/

theorem le_roundedUp (length : Nat) : length ≤ roundedUp length := by
  unfold roundedUp wordSize
  omega

theorem writeContent_length (content : List UInt8) :
    (writeContent content).length = wordSize + roundedUp content.length := by
  have enough := le_roundedUp content.length
  unfold writeContent
  rw [List.length_append, List.length_append, word_length, List.length_replicate]
  omega

theorem readContent_of_holds {data content : List UInt8} {position : Nat}
    (holds : Holds data position (writeContent content))
    (countable : roundedUp content.length < lengthBound) :
    readContent data position = .ok content := by
  have enough := le_roundedUp content.length
  have count : readNumber data position = .ok content.length :=
    readNumber_of_holds holds.left.left (lt_wordBound (by omega))
  -- The content and what fills it up are taken as one part and divided afterwards.
  have padded : Holds data (position + wordSize) (content ++
      List.replicate (roundedUp content.length - content.length) 0) := by
    have behind := holds
    unfold writeContent at behind
    rw [List.append_assoc] at behind
    have placed := behind.right
    rwa [word_length] at placed
  have whole : (content ++
      List.replicate (roundedUp content.length - content.length) 0).length =
        roundedUp content.length := by
    rw [List.length_append, List.length_replicate]
    omega
  have taken := padded.take_drop
  rw [whole] at taken
  unfold readContent
  rw [count]
  change (if lengthBound ≤ roundedUp content.length then _ else _) = _
  rw [if_neg (by omega), taken, whole, List.drop_left, List.take_left]
  rw [if_neg (Nat.lt_irrefl _), checkFilling_replicate]
  rfl

/-! ### Distances -/

theorem readPlace_of_holds {holder : Holder} {data : List UInt8}
    {frame heads location distance : Nat} (holds : Holds data location (word distance))
    (behindHeads : wordSize * heads ≤ distance) (inside : frame + distance < data.length)
    (fits : distance < Nat.pow 256 wordSize) :
    readPlace holder data frame heads location = .ok (frame + distance) := by
  unfold readPlace
  rw [readNumber_of_holds holds fits]
  change (if frame + distance < frame + wordSize * heads ∨ data.length ≤ frame + distance
    then _ else _) = _
  rw [if_neg (by omega)]
  rfl

/-- The places of items that follow one another from a place on. -/
def placesFrom (place : Nat) : List (List UInt8) → List Nat
  | [] => []
  | item :: rest => place :: placesFrom (place + item.length) rest

/-- The distances of a list of items lead to the places of the items. -/
theorem readPlaces_of_holds {data : List UInt8} {frame heads index distance : Nat}
    {items : List (List UInt8)}
    (offsets : Holds data (frame + wordSize * index) (writeOffsets distance items))
    (tail : Holds data (frame + distance) items.flatten)
    (nonempty : ∀ item ∈ items, item ≠ [])
    (behindHeads : wordSize * heads ≤ distance)
    (size : distance + items.flatten.length < Nat.pow 256 wordSize) :
    readPlaces data frame heads index items.length =
      .ok (placesFrom (frame + distance) items) := by
  -- Heads and tail are followed side by side.  Without bytes of its own an item could be
  -- placed at the end of the data, where no distance may lead.
  induction items generalizing index distance with
  | nil => rfl
  | cons item rest ih =>
      have positive : 0 < item.length :=
        List.length_pos_iff.mpr (nonempty item (List.mem_cons_self ..))
      have inside := tail.length_le
      rw [List.flatten_cons, List.length_append] at inside size
      have place : readPlace .array data frame heads (frame + wordSize * index) =
          .ok (frame + distance) :=
        readPlace_of_holds offsets.left behindHeads (by omega)
          (Nat.lt_of_le_of_lt (Nat.le_add_right ..) size)
      have laterOffsets : Holds data (frame + wordSize * (index + 1))
          (writeOffsets (distance + item.length) rest) := by
        have behind := offsets.right
        rwa [word_length, Nat.add_assoc, ← Nat.mul_succ] at behind
      have laterTail : Holds data (frame + (distance + item.length)) rest.flatten := by
        have behind := tail.right
        rwa [Nat.add_assoc] at behind
      have later := ih laterOffsets laterTail
        (fun other member => nonempty other (List.mem_cons_of_mem item member)) (by omega)
        (by rwa [Nat.add_assoc])
      rw [List.length_cons, readPlaces, place, ok_bind, later, ← Nat.add_assoc]
      rfl

/-! ### Lists -/

section Lists

variable {Item : Type} {data : List UInt8} {read : Nat → Except Fault Item}
  {write : Item → List UInt8} {items : List Item}

theorem readEach_of_holds {place : Nat}
    (tail : Holds data place (items.map write).flatten)
    (back : ∀ item ∈ items, ∀ position, Holds data position (write item) →
      read position = .ok item) :
    readEach read (placesFrom place (items.map write)) = .ok items := by
  induction items generalizing place with
  | nil => rfl
  | cons item rest ih =>
      have first := back item (List.mem_cons_self ..) place tail.left
      have later := ih tail.right
        (fun other member => back other (List.mem_cons_of_mem item member))
      rw [List.map_cons, placesFrom, readEach, first, ok_bind, later]
      rfl

theorem writeOffsets_length (distance : Nat) (parts : List (List UInt8)) :
    (writeOffsets distance parts).length = wordSize * parts.length := by
  induction parts generalizing distance with
  | nil => rfl
  | cons part rest ih =>
      rw [writeOffsets, List.length_append, word_length, ih, List.length_cons, Nat.mul_succ,
        Nat.add_comm]

/-- A list is read as it was written when each of its items is. -/
theorem readArray_of_holds {position : Nat}
    (holds : Holds data position (writeArray (items.map write)))
    (nonempty : ∀ item ∈ items, write item ≠ [])
    (back : ∀ item ∈ items, ∀ place, Holds data place (write item) →
      read place = .ok item)
    (size : (writeArray (items.map write)).length < Nat.pow 256 wordSize) :
    readArray read data position = .ok items := by
  unfold writeArray at holds size
  simp only [List.length_append, word_length, writeOffsets_length, List.length_map] at size
  have count : readNumber data position = .ok items.length := by
    have written := holds.left.left
    rw [List.length_map] at written
    refine readNumber_of_holds written (Nat.lt_of_le_of_lt ?_ size)
    unfold wordSize
    omega
  rw [List.append_assoc] at holds
  have body := holds.right
  rw [word_length, List.length_map] at body
  have tail := body.right
  rw [writeOffsets_length, List.length_map] at tail
  have written : ∀ part ∈ items.map write, part ≠ [] := by
    intro part member
    obtain ⟨item, present, rfl⟩ := List.mem_map.mp member
    exact nonempty item present
  have places : readPlaces data (position + wordSize) items.length 0
      (items.map write).length =
        .ok (placesFrom (position + wordSize + wordSize * items.length)
          (items.map write)) :=
    readPlaces_of_holds body.left tail written (Nat.le_refl _)
      (Nat.lt_of_le_of_lt (by omega) size)
  rw [List.length_map] at places
  unfold readArray
  rw [count, ok_bind, places, ok_bind]
  exact readEach_of_holds tail back

end Lists

/-! ### Results and calls -/

theorem writeResult_ne_nil (result : Bool × List UInt8) : writeResult result ≠ [] := by
  intro empty
  have size := congrArg List.length empty
  unfold writeResult writeFlag at size
  rw [List.length_append, List.length_append, word_length] at size
  change wordSize + _ + _ = 0 at size
  unfold wordSize at size
  omega

theorem readResult_of_holds {data : List UInt8} {position : Nat}
    {result : Bool × List UInt8} (holds : Holds data position (writeResult result))
    (countable : roundedUp result.2.length < lengthBound) :
    readResult data position = .ok result := by
  have inside := holds.length_le
  unfold writeResult at holds inside
  have flag := readFlag_of_holds holds.left.left
  have flagSize : (writeFlag result.1).length = wordSize := word_length _
  simp only [List.length_append, flagSize, word_length, writeContent_length] at inside
  have distance := holds.left.right
  rw [flagSize] at distance
  have content := holds.right
  rw [List.length_append, flagSize, word_length, ← Nat.two_mul] at content
  have place : readPlace .tuple data position 2 (position + wordSize) =
      .ok (position + 2 * wordSize) :=
    readPlace_of_holds distance (Nat.le_of_eq (Nat.mul_comm ..))
      (by unfold wordSize at *; omega) (by decide)
  unfold readResult
  rw [flag, ok_bind, place, ok_bind, readContent_of_holds content countable]
  rfl

theorem writeArray_length_pos (items : List (List UInt8)) :
    0 < (writeArray items).length := by
  unfold writeArray
  rw [List.length_append, List.length_append, word_length]
  unfold wordSize
  omega

theorem roundedUp_le_writeResults {results : List (Bool × List UInt8)}
    {result : Bool × List UInt8} (member : result ∈ results) :
    roundedUp result.2.length ≤ (writeResults results).length := by
  obtain ⟨front, behind, rfl⟩ := List.append_of_mem member
  unfold writeResults writeArray
  simp only [List.map_append, List.map_cons, List.flatten_append, List.flatten_cons,
    List.length_append, writeResult, writeContent_length]
  omega

/-- A list of results is read as it was written, whatever stands behind it. -/
theorem readResults_writeResults (results : List (Bool × List UInt8))
    (behind : List UInt8) (size : (writeResults results).length < lengthBound) :
    readResults (writeResults results ++ behind) = .ok results := by
  have countable : ∀ result ∈ results, roundedUp result.2.length < lengthBound :=
    fun result member => Nat.lt_of_le_of_lt (roundedUp_le_writeResults member) size
  have whole := holds_front (writeResults results) behind
  generalize writeResults results ++ behind = data at whole ⊢
  have array := whole.right
  rw [word_length, Nat.zero_add] at array
  have inside := array.length_le
  have positive := writeArray_length_pos (results.map writeResult)
  have place : readPlace .tuple data 0 1 0 = .ok wordSize := by
    have found : readPlace .tuple data 0 1 0 = .ok (0 + wordSize) :=
      readPlace_of_holds whole.left (by decide) (by omega) (by decide)
    rwa [Nat.zero_add] at found
  have fits : (writeArray (results.map writeResult)).length < Nat.pow 256 wordSize := by
    unfold writeResults at size
    rw [List.length_append] at size
    exact lt_wordBound (Nat.lt_of_le_of_lt (Nat.le_add_left ..) size)
  have read : readArray (readResult data) data wordSize = .ok results :=
    readArray_of_holds array (fun result _ => writeResult_ne_nil result)
      (fun result member _ holds => readResult_of_holds holds (countable result member)) fits
  unfold readResults
  rw [place, ok_bind]
  exact read

theorem writeCall_ne_nil (call : List UInt8 × List UInt8) : writeCall call ≠ [] := by
  intro empty
  have size := congrArg List.length empty
  unfold writeCall at size
  rw [List.length_append, List.length_append, word_length] at size
  change _ + wordSize + _ = 0 at size
  unfold wordSize at size
  omega

theorem writeAddress_length {address : List UInt8} (twenty : address.length = 20) :
    (writeAddress address).length = wordSize := by
  unfold writeAddress
  rw [List.length_append, List.length_replicate, twenty]
  rfl

theorem readCall_of_holds {data : List UInt8} {position : Nat}
    {call : List UInt8 × List UInt8} (holds : Holds data position (writeCall call))
    (twenty : call.1.length = 20) (countable : roundedUp call.2.length < lengthBound) :
    readCall data position = .ok call := by
  have inside := holds.length_le
  unfold writeCall at holds inside
  have target := readAddress_of_holds holds.left.left twenty
  have targetSize := writeAddress_length twenty
  simp only [List.length_append, targetSize, word_length, writeContent_length] at inside
  have distance := holds.left.right
  rw [targetSize] at distance
  have content := holds.right
  rw [List.length_append, targetSize, word_length, ← Nat.two_mul] at content
  have place : readPlace .tuple data position 2 (position + wordSize) =
      .ok (position + 2 * wordSize) :=
    readPlace_of_holds distance (Nat.le_of_eq (Nat.mul_comm ..))
      (by unfold wordSize at *; omega) (by decide)
  unfold readCall
  rw [target, ok_bind, place, ok_bind, readContent_of_holds content countable]
  rfl

/-- A list of calls is read as it was written, whatever stands behind it. -/
theorem readCalls_writeCalls (flag : Bool) (calls : List (List UInt8 × List UInt8))
    (twenty : ∀ call ∈ calls, call.1.length = 20)
    (countable : ∀ call ∈ calls, roundedUp call.2.length < lengthBound) (behind : List UInt8)
    (size : (writeCalls flag calls ++ behind).length < Nat.pow 256 wordSize) :
    readCalls (writeCalls flag calls ++ behind) = .ok (flag, calls) := by
  have whole := holds_front (writeCalls flag calls) behind
  generalize writeCalls flag calls ++ behind = data at size whole ⊢
  have flagSize : (writeFlag flag).length = wordSize := word_length _
  have first := readFlag_of_holds whole.left.left
  have distance := whole.left.right
  rw [flagSize, Nat.zero_add] at distance
  have array := whole.right
  rw [List.length_append, flagSize, word_length, Nat.zero_add, ← Nat.two_mul] at array
  have inside := array.length_le
  have positive := writeArray_length_pos (calls.map writeCall)
  have place : readPlace .tuple data 0 2 wordSize = .ok (2 * wordSize) := by
    have found : readPlace .tuple data 0 2 wordSize = .ok (0 + 2 * wordSize) :=
      readPlace_of_holds distance (Nat.le_of_eq (Nat.mul_comm ..)) (by omega) (by decide)
    rwa [Nat.zero_add] at found
  have read : readArray (readCall data) data (2 * wordSize) = .ok calls :=
    readArray_of_holds array (fun call _ => writeCall_ne_nil call)
      (fun call member _ holds =>
        readCall_of_holds holds (twenty call member) (countable call member))
      (Nat.lt_of_le_of_lt (by omega) size)
  unfold readCalls
  rw [first, ok_bind, place, ok_bind, read]
  rfl

/-! ### The size of calls -/

theorem writeCall_length {call : List UInt8 × List UInt8} (twenty : call.1.length = 20) :
    (writeCall call).length = 3 * wordSize + roundedUp call.2.length := by
  unfold writeCall
  rw [List.length_append, List.length_append, word_length, writeContent_length,
    writeAddress_length twenty]
  omega

theorem writeCalls_length (flag : Bool) (calls : List (List UInt8 × List UInt8)) :
    (writeCalls flag calls).length =
      3 * wordSize + wordSize * calls.length + (calls.map writeCall).flatten.length := by
  unfold writeCalls writeArray writeFlag
  simp only [List.length_append, word_length, writeOffsets_length, List.length_map]
  omega

/-- Calls that are bounded one by one are bounded as a whole. -/
theorem flatten_writeCall_length_le {bound : Nat} {calls : List (List UInt8 × List UInt8)}
    (each : ∀ call ∈ calls, (writeCall call).length ≤ bound) :
    (calls.map writeCall).flatten.length ≤ calls.length * bound := by
  induction calls with
  | nil => simp
  | cons call rest ih =>
      have first := each call (List.mem_cons_self ..)
      have later := ih fun other member => each other (List.mem_cons_of_mem call member)
      rw [List.map_cons, List.flatten_cons, List.length_append, List.length_cons,
        Nat.succ_mul]
      omega

end Abi
end ContractSurvey
