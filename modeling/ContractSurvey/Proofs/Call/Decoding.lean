/-
Results read from the aggregator.

The aggregator writes the results of its calls as a list of flags and byte strings, and may
leave anything behind them.  What is read is one result for each that was written, in the
order of the calls, and nothing of what stands behind the list.  Only the list itself has to
stay below the bound on lengths.

Other data may come from anyone.  Whatever numbers and distances stand there, what is read is
made of stretches and words of the data, and there cannot be more results than words to lead to
them.
-/

import ContractSurvey.Proofs.Abi.Layout
import ContractSurvey.Proofs.Call.Batch

namespace ContractSurvey
namespace Call
namespace Batch

/-- Results that were written for the aggregator are read one by one, each with its flag and
with the small digits of its bytes behind the marker, whatever follows them. -/
theorem decode_writeResults (written : List (Bool × List UInt8)) (junk : List UInt8)
    (size : (Abi.writeResults written).length < Abi.lengthBound) :
    decode (Abi.writeResults written ++ junk) = .ok (written.map fun result =>
      { succeeded := result.1
        returnData := "0x".toList ++ result.2.flatMap fun byte =>
          [Text.hexDigit (byte.toNat / 16), Text.hexDigit (byte.toNat % 16)] }) := by
  have read := Abi.readResults_writeResults written junk size
  exact decode_of_readResults read

/-- An empty result, one that does not fill its last word, and one that fills it. -/
def threeResults : List (Bool × List UInt8) :=
  [(true, []), (false, List.replicate 33 0xab), (true, List.replicate 32 0x07)]

theorem decode_threeResults :
    (Abi.writeResults threeResults).length < Abi.lengthBound ∧
    decode (Abi.writeResults threeResults ++ [0xff, 0x01]) = .ok [
      { succeeded := true, returnData := "0x".toList },
      { succeeded := false
        returnData := "0x".toList ++ (List.replicate 33 ['a', 'b']).flatten },
      { succeeded := true
        returnData := "0x".toList ++ (List.replicate 32 ['0', '7']).flatten }] := by
  have size : (Abi.writeResults threeResults).length < Abi.lengthBound := by
    decide +kernel
  refine ⟨size, ?_⟩
  rw [decode_writeResults threeResults [0xff, 0x01] size]
  rfl

/-! ### Data from anyone -/

/-- A result is taken from data: its bytes are a stretch of the data, and its flag is the number
that a word of the data holds. -/
structure Result.IsTakenFrom (data : List UInt8) (result : Result) : Prop where
  content : ∃ bytes, bytes <:+: data ∧ bytes.length ≤ data.length ∧
    result.returnData = "0x".toList ++ Hex.ofBytes bytes
  flag : ∃ position, Abi.Holds data position (Abi.word (if result.succeeded then 1 else 0))

theorem resultOf_isTakenFrom {data : List UInt8} {position : Nat} {held : Bool × List UInt8}
    (holds : Abi.HoldsResult data position held) : (resultOf held).IsTakenFrom data where
  content := ⟨held.2, holds.isInfix, holds.isInfix.length_le, rfl⟩
  flag := ⟨position, holds.flag⟩

theorem decode_eq_ok_iff (data : List UInt8) (results : List Result) :
    decode data = .ok results ↔
      ∃ held, Abi.HoldsResults data held ∧ results = held.map resultOf := by
  constructor
  · intro given
    cases read : Abi.readResults data with
    | error fault =>
        unfold decode at given
        rw [read] at given
        cases given
    | ok held =>
        rw [decode_of_readResults read] at given
        exact ⟨held, (Abi.readResults_eq_ok_iff ..).mp read, (Except.ok.inj given).symm⟩
  · rintro ⟨held, holds, rfl⟩
    exact decode_of_readResults ((Abi.readResults_eq_ok_iff ..).mpr holds)

/-- Data are decoded exactly when results stand in them, and then to these results.  They leave
room for two words and one for each result, and each result is taken from them.  All other data
are refused. -/
theorem decode_invents_nothing (data : List UInt8) :
    (∀ results, decode data = .ok results ↔
      ∃ held, Abi.HoldsResults data held ∧ results = held.map resultOf) ∧
    (∀ results, decode data = .ok results →
      64 + 32 * results.length ≤ data.length ∧ ∀ result ∈ results, result.IsTakenFrom data) ∧
    ((¬∃ results, decode data = .ok results) →
      ∃ cause, decode data = .error (.encoding cause)) := by
  refine ⟨decode_eq_ok_iff data, ?_, ?_⟩
  · intro results given
    obtain ⟨held, holds, rfl⟩ := (decode_eq_ok_iff ..).mp given
    refine ⟨?_, ?_⟩
    · rw [List.length_map]
      exact holds.length_le
    · intro result member
      obtain ⟨pair, present, rfl⟩ := List.mem_map.mp member
      obtain ⟨position, stands⟩ := holds.exists_position present
      exact resultOf_isTakenFrom stands
  · intro refused
    cases read : Abi.readResults data with
    | ok held => exact absurd ⟨_, decode_of_readResults read⟩ refused
    | error cause =>
        refine ⟨cause, ?_⟩
        unfold decode
        rw [read]
        rfl

/-- Two distances to one result, which stands off the bounds of words. -/
def sharedResult : List UInt8 :=
  Abi.word 32 ++ Abi.word 2 ++ Abi.word 65 ++ Abi.word 65 ++ [0xff] ++
    Abi.writeResult (true, [0x01, 0x02, 0x03])

theorem decode_sharedResult :
    let result : Result := { succeeded := true, returnData := "0x010203".toList }
    decode sharedResult = .ok [result, result] ∧ 64 + 32 * 2 ≤ sharedResult.length ∧
      result.IsTakenFrom sharedResult := by
  intro result
  have shown : (decode sharedResult).toOption = some [result, result] := by decide +kernel
  have given : decode sharedResult = .ok [result, result] := by
    cases decoded : decode sharedResult with
    | error fault =>
        rw [decoded] at shown
        cases shown
    | ok results =>
        rw [decoded] at shown
        exact congrArg Except.ok (Option.some.inj shown)
  obtain ⟨room, taken⟩ := (decode_invents_nothing sharedResult).2.1 _ given
  exact ⟨given, room, taken result List.mem_cons_self⟩

end Batch
end Call
end ContractSurvey
