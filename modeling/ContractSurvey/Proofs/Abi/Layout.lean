/-
Lists of results in data.

A list of results stands in data when a word at the front leads to it, when it begins with their
number, and when as many words behind the number lead to the results.  What these words lead to
may stand anywhere behind them, off the bounds of words and twice over.  A strict reading finds
exactly the lists that stand in data.  Since each result has a word of its own that leads to it,
their number is bounded by the data.
-/

import ContractSurvey.Proofs.Abi.Strict

namespace ContractSurvey
namespace Abi

variable {data : List UInt8} {frame heads index count : Nat} {places : List Nat}

/-! ### Layouts -/

/-- The word at a location is the distance from a frame to a place, which lies behind the heads
of the frame and inside the data. -/
def Leads (data : List UInt8) (frame heads location place : Nat) : Prop :=
  ∃ distance, Holds data location (word distance) ∧ distance < Nat.pow 256 wordSize ∧
    wordSize * heads ≤ distance ∧ frame + distance < data.length ∧ place = frame + distance

/-- The heads of a frame from an index on lead to places, one after another. -/
inductive LeadFrom (data : List UInt8) (frame heads : Nat) : Nat → List Nat → Prop
  | nil {index : Nat} : LeadFrom data frame heads index []
  | cons {index place : Nat} {places : List Nat}
      (first : Leads data frame heads (frame + wordSize * index) place)
      (later : LeadFrom data frame heads (index + 1) places) :
      LeadFrom data frame heads index (place :: places)

/-- A result stands at a position: its flag, and a word that leads to its byte string. -/
structure HoldsResult (data : List UInt8) (position : Nat) (result : Bool × List UInt8) :
    Prop where
  flag : Holds data position (writeFlag result.1)
  content : ∃ place, Leads data position 2 (position + wordSize) place ∧
    Holds data place (writeContent result.2)
  countable : roundedUp result.2.length < lengthBound

/-- Results stand in data: a word that leads to their number, and behind it the words that lead
to the results. -/
def HoldsResults (data : List UInt8) (results : List (Bool × List UInt8)) : Prop :=
  ∃ start places, Leads data 0 1 0 start ∧ Holds data start (word results.length) ∧
    results.length < Nat.pow 256 wordSize ∧
    LeadFrom data (start + wordSize) results.length 0 places ∧
    List.Forall₂ (HoldsResult data) places results

/-! ### Bounds -/

theorem LeadFrom.length_le (led : LeadFrom data frame heads index places)
    (start : frame + wordSize * index ≤ data.length) :
    frame + wordSize * (index + places.length) ≤ data.length := by
  induction led with
  | nil => exact start
  | @cons index place places first later ih =>
      obtain ⟨_, held, _⟩ := first
      have inside := held.length_le
      rw [word_length, Nat.add_assoc, ← Nat.mul_succ] at inside
      have rest := ih inside
      rw [List.length_cons]
      rwa [Nat.add_assoc, Nat.add_comm 1] at rest

/-- Two words stand in front of the words that lead to the results. -/
theorem HoldsResults.length_le {results : List (Bool × List UInt8)}
    (held : HoldsResults data results) : 64 + 32 * results.length ≤ data.length := by
  obtain ⟨start, places, front, number, _, led, each⟩ := held
  obtain ⟨distance, _, _, behindHead, _, rfl⟩ := front
  have inside := number.length_le
  rw [word_length] at inside
  have bound := led.length_le inside
  rw [each.length_eq] at bound
  unfold wordSize at behindHead bound
  omega

/-- Each of the results stands somewhere. -/
theorem HoldsResults.exists_position {results : List (Bool × List UInt8)}
    {result : Bool × List UInt8} (held : HoldsResults data results)
    (member : result ∈ results) : ∃ position, HoldsResult data position result := by
  obtain ⟨start, places, _, _, _, _, each⟩ := held
  clear * - each member
  induction each with
  | nil => cases member
  | cons first _ ih =>
      rcases List.mem_cons.mp member with rfl | later
      · exact ⟨_, first⟩
      · exact ih later

theorem HoldsResult.isInfix {position : Nat} {result : Bool × List UInt8}
    (held : HoldsResult data position result) : result.2 <:+: data := by
  obtain ⟨place, _, written⟩ := held.content
  exact written.left.right.isInfix

/-! ### Reading -/

private theorem writeFlag_eq (flag : Bool) :
    writeFlag flag = List.replicate 31 0 ++ [if flag then 1 else 0] := by
  cases flag <;> decide

/-- A truth value is read where its word stands, and nowhere else. -/
theorem readFlag_eq_ok_iff (data : List UInt8) (position : Nat) (flag : Bool) :
    readFlag data position = .ok flag ↔ Holds data position (writeFlag flag) := by
  constructor
  · intro given
    obtain ⟨found, read, checked⟩ := exists_of_bind_eq_ok given
    obtain ⟨held, size⟩ := (readWord_eq_ok_iff ..).mp read
    rcases List.eq_nil_or_concat found with rfl | ⟨front, last, rfl⟩
    · cases size
    rw [List.concat_eq_append] at held size checked
    simp only [List.getLastD_concat, List.dropLast_concat] at checked
    split at checked
    · cases checked
    rename_i small
    obtain ⟨_, filled, same⟩ := exists_of_bind_eq_ok checked
    have zeros := eq_replicate_of_checkFilling filled
    have short : front.length = 31 := by
      rw [List.length_append] at size
      exact Nat.succ.inj size
    have written : writeFlag flag = front ++ [last] := by
      cases same
      rw [writeFlag_eq, zeros, short]
      congr 2
      have bound : last.toNat ≤ 1 := Nat.le_of_not_lt small
      rcases Nat.le_one_iff_eq_zero_or_eq_one.mp bound with zero | one
      · rw [UInt8.toNat_inj.mp (zero.trans rfl : last.toNat = (0 : UInt8).toNat)]
        rfl
      · rw [UInt8.toNat_inj.mp (one.trans rfl : last.toNat = (1 : UInt8).toNat)]
        rfl
    rwa [written]
  · exact readFlag_of_holds

theorem readPlaces_eq_ok_iff :
    readPlaces data frame heads index count = .ok places ↔
      LeadFrom data frame heads index places ∧ places.length = count := by
  constructor
  · intro given
    induction count generalizing index places with
    | zero =>
        cases given
        exact ⟨.nil, rfl⟩
    | succ remaining ih =>
        obtain ⟨place, first, onward⟩ := exists_of_bind_eq_ok given
        obtain ⟨others, later, same⟩ := exists_of_bind_eq_ok onward
        cases same
        obtain ⟨led, length⟩ := ih later
        exact ⟨.cons ((readPlace_eq_ok_iff ..).mp first) led, congrArg (· + 1) length⟩
  · rintro ⟨led, rfl⟩
    induction led with
    | nil => rfl
    | cons first later ih =>
        rw [List.length_cons, readPlaces, (readPlace_eq_ok_iff ..).mpr first, ih]
        rfl

theorem readEach_eq_mapM {Item : Type} (read : Nat → Except Fault Item) (places : List Nat) :
    readEach read places = places.mapM read := by
  induction places with
  | nil => rfl
  | cons place rest ih =>
      rw [List.mapM_cons, ← ih]
      rfl

theorem readResult_eq_ok_iff (data : List UInt8) (position : Nat)
    (result : Bool × List UInt8) :
    readResult data position = .ok result ↔ HoldsResult data position result := by
  constructor
  · intro given
    obtain ⟨flag, flagged, onward⟩ := exists_of_bind_eq_ok given
    obtain ⟨place, led, further⟩ := exists_of_bind_eq_ok onward
    obtain ⟨content, read, same⟩ := exists_of_bind_eq_ok further
    cases same
    obtain ⟨written, countable⟩ := (readContent_eq_ok_iff ..).mp read
    exact ⟨(readFlag_eq_ok_iff ..).mp flagged,
      ⟨place, (readPlace_eq_ok_iff ..).mp led, written⟩, countable⟩
  · rintro ⟨flag, ⟨place, led, written⟩, countable⟩
    unfold readResult
    rw [(readFlag_eq_ok_iff ..).mpr flag]
    change (readPlace _ _ _ _ _ >>= _) = _
    rw [(readPlace_eq_ok_iff ..).mpr led]
    change (readContent _ _ >>= _) = _
    rw [(readContent_eq_ok_iff ..).mpr ⟨written, countable⟩]
    rfl

/-- The results that are read from data are those that stand in it. -/
theorem readResults_eq_ok_iff (data : List UInt8) (results : List (Bool × List UInt8)) :
    readResults data = .ok results ↔ HoldsResults data results := by
  constructor
  · intro given
    obtain ⟨start, front, listed⟩ := exists_of_bind_eq_ok given
    obtain ⟨count, number, onward⟩ := exists_of_bind_eq_ok listed
    obtain ⟨places, located, read⟩ := exists_of_bind_eq_ok onward
    obtain ⟨held, fits⟩ := (readNumber_eq_ok_iff ..).mp number
    obtain ⟨led, length⟩ := readPlaces_eq_ok_iff.mp located
    have each : List.Forall₂ (HoldsResult data) places results := by
      rw [readEach_eq_mapM, mapM_eq_ok_iff] at read
      simpa only [readResult_eq_ok_iff] using read
    have same : count = results.length := length.symm.trans each.length_eq
    subst same
    exact ⟨start, places, (readPlace_eq_ok_iff ..).mp front, held, fits, led, each⟩
  · rintro ⟨start, places, front, number, fits, led, each⟩
    have read : readEach (readResult data) places = .ok results := by
      rw [readEach_eq_mapM, mapM_eq_ok_iff]
      simpa only [readResult_eq_ok_iff] using each
    unfold readResults
    rw [(readPlace_eq_ok_iff ..).mpr front]
    change readArray _ _ _ = _
    unfold readArray
    rw [(readNumber_eq_ok_iff ..).mpr ⟨number, fits⟩]
    change (readPlaces _ _ _ _ _ >>= _) = _
    rw [readPlaces_eq_ok_iff.mpr ⟨led, each.length_eq⟩]
    exact read

end Abi
end ContractSurvey
