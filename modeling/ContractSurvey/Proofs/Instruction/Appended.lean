/-
Code behind code.

The reading of a bytecode ends behind complete instructions, or at a push that is cut short.
What is read behind complete instructions does not depend on them, so two bytecodes that
stand one after the other push what the first pushes and then what the second pushes.  Where
the first ends in a push that is cut short, the second may complete it: the reading goes on
at that push, and what was pushed before it stays as it was.

Leaving out repetitions does not disturb this, whether it is done before the lists are joined
or only afterwards.
-/

import ContractSurvey.Proofs.Instruction.Selectors

namespace ContractSurvey

/-! ### Lists without repetitions, one behind the other -/

section Kept

variable {Item : Type} [BEq Item] [LawfulBEq Item]

theorem eraseDups_of_nodup {items : List Item} (distinct : items.Nodup) :
    items.eraseDups = items := by
  induction items with
  | nil => rfl
  | cons first rest ih =>
      obtain ⟨fresh, later⟩ := List.nodup_cons.mp distinct
      have others : rest.filter (fun other => !other == first) = rest := by
        rw [List.filter_eq_self]
        intro item member
        have different : item ≠ first := by
          rintro rfl
          exact fresh member
        simpa using different
      rw [List.eraseDups_cons, others, ih later]

-- The recursion is on the length, because what is left behind the first item is not the tail.
theorem eraseDups_filter (keep : Item → Bool) (items : List Item) :
    (items.filter keep).eraseDups = items.eraseDups.filter keep := by
  match items with
  | [] => rfl
  | first :: rest =>
      have fewer := List.length_filter_le (fun other => !other == first) rest
      have onward := eraseDups_filter keep (rest.filter fun other => !other == first)
      rw [List.filter_filter] at onward
      rw [List.eraseDups_cons]
      by_cases kept : keep first = true
      · rw [List.filter_cons_of_pos kept, List.filter_cons_of_pos kept,
          List.eraseDups_cons, List.filter_filter, ← onward]
        simp only [Bool.and_comm]
      · have passed : rest.filter keep =
            rest.filter fun other => keep other && !other == first := by
          apply List.filter_congr
          intro item _
          by_cases same : item = first
          · simp [same, kept]
          · simp [same]
        rw [List.filter_cons_of_neg kept, List.filter_cons_of_neg kept, ← onward, passed]
termination_by items.length
decreasing_by
  simp only [List.length_cons]
  omega

theorem eraseDups_append_eraseDups (first second : List Item) :
    (first.eraseDups ++ second.eraseDups).eraseDups = (first ++ second).eraseDups := by
  have once := eraseDups_of_nodup (nodup_eraseDups (second.removeAll first))
  have known : (fun item => !first.eraseDups.elem item) = fun item => !first.elem item := by
    funext item
    simp
  unfold List.removeAll at once
  rw [List.eraseDups_append, List.eraseDups_append, List.removeAll, List.removeAll, known,
    ← eraseDups_filter, once, eraseDups_of_nodup (nodup_eraseDups first)]

end Kept

namespace Instruction

/-- The reading of a bytecode ends at a push that is cut short. -/
def EndsCutShort (code : Bytecode) : Prop :=
  ∃ last, (decode code).getLast? = some last ∧ last.IsCutShortIn code

/-- The selectors that a bytecode pushes, each as often as it is pushed. -/
def pushed (code : Bytecode) : List Text :=
  (decode code).filterMap selector?

/-! ### Where a reading ends -/

private theorem drop_eq_encoded_append {code : Bytecode} {offset : Nat} {opcode : UInt8}
    (here : code[offset]? = some opcode) (size : Nat) :
    code.drop offset = encoded ⟨offset, opcode, operandAt code offset size⟩ ++
      code.drop (offset + 1 + size) := by
  have whole : code.take offset ++ code.drop offset = code.take offset ++
      (encoded ⟨offset, opcode, operandAt code offset size⟩ ++
        code.drop (offset + 1 + size)) := by
    rw [← List.append_assoc, take_append_encoded here, List.take_append_drop,
      List.take_append_drop]
  exact List.append_cancel_left whole

/-- A walk lists complete instructions, which write what it goes through, or it ends at a push
that is cut short. -/
theorem Walk.exists_assembled {code : Bytecode} {offset : Nat} {listed : List Instruction}
    (walk : Walk code offset listed) :
    ∃ complete : List Instruction, (∀ instruction ∈ complete, instruction.IsComplete) ∧
      (listed = complete ∧ code.drop offset = assemble complete ∨
        ∃ last, listed = complete ++ [last] ∧ last.IsCutShortIn code ∧
          code.drop offset = assemble complete ++ code.drop last.offset) := by
  induction walk with
  | finished => exact ⟨[], List.forall_mem_nil _, Or.inl ⟨rfl, List.drop_length⟩⟩
  | @read offset opcode later here fits _ ih =>
      obtain ⟨complete, each, ending⟩ := ih
      have written := drop_eq_encoded_append here (Opcode.operandSize opcode.toNat)
      refine ⟨_ :: complete,
        List.forall_mem_cons.mpr ⟨(operandAt_isReadFrom code offset opcode fits).1, each⟩, ?_⟩
      rcases ending with ⟨rfl, rest⟩ | ⟨last, rfl, short, rest⟩
      · refine Or.inl ⟨rfl, ?_⟩
        rw [written, rest]
        rfl
      · refine Or.inr ⟨last, rfl, short, ?_⟩
        rw [written, rest, ← List.append_assoc]
        rfl
  | @cut offset opcode here short =>
      obtain ⟨inside, _⟩ := List.getElem?_eq_some_iff.mp here
      refine ⟨[], List.forall_mem_nil _, Or.inr ⟨_, rfl, ⟨?_, rfl, inside, ?_⟩, rfl⟩⟩
      · change 0 < Opcode.operandSize opcode.toNat
        omega
      · change code.length < offset + 1 + Opcode.operandSize opcode.toNat
        omega

/-! ### What is read behind complete instructions -/

/-- What is read does not depend on the offset that the reading counts from. -/
theorem content_decodeFrom (first second : Nat) (code : Bytecode) :
    (decodeFrom first code).map content = (decodeFrom second code).map content := by
  fun_induction decodeFrom first code generalizing second with
  | case1 => rw [decodeFrom]
  | case2 first opcode rest size plain ih =>
      rw [decodeFrom]
      simp only [show Opcode.operandSize opcode.toNat = 0 from plain, if_true, List.map_cons,
        ih (second + 1)]
      rfl
  | case3 first opcode rest size operand push short =>
      rw [decodeFrom]
      simp only [show ¬Opcode.operandSize opcode.toNat = 0 from push, if_false,
        show (rest.take (Opcode.operandSize opcode.toNat)).length <
          Opcode.operandSize opcode.toNat from short, if_true]
      rfl
  | case4 first opcode rest size operand push long ih =>
      rw [decodeFrom]
      simp only [show ¬Opcode.operandSize opcode.toNat = 0 from push, if_false,
        show ¬(rest.take (Opcode.operandSize opcode.toNat)).length <
          Opcode.operandSize opcode.toNat from long, List.map_cons]
      rw [ih (second + 1 + size)]
      rfl

/-- What an instruction pushes is told by its content. -/
private theorem filterMap_selector?_congr {first second : List Instruction}
    (same : first.map content = second.map content) :
    first.filterMap selector? = second.filterMap selector? := by
  have told (listed : List Instruction) : listed.filterMap selector? =
      (listed.map content).filterMap fun (opcode, operand) =>
        if opcode = Opcode.push4 then operand.map Hex.marked else none := by
    rw [List.filterMap_map]
    rfl
  rw [told, told, same]

theorem pushed_assemble_append {complete : List Instruction}
    (each : ∀ instruction ∈ complete, instruction.IsComplete) (code : Bytecode) :
    pushed (assemble complete ++ code) = complete.filterMap selector? ++ pushed code := by
  obtain ⟨behind, same⟩ := content_decodeFrom_assemble complete each 0 code
  rw [content_decodeFrom behind 0, ← List.map_append] at same
  unfold pushed decode
  rw [filterMap_selector?_congr same, List.filterMap_append]

/-- A bytecode that ends behind a complete instruction and the code behind it push what each of
them pushes. -/
theorem pushed_append_of_whole {first : Bytecode} (whole : ¬EndsCutShort first)
    (second : Bytecode) : pushed (first ++ second) = pushed first ++ pushed second := by
  obtain ⟨complete, each, ending⟩ := (walk_decode first).exists_assembled
  rcases ending with ⟨listed, written⟩ | ⟨last, listed, short, _⟩
  · have own : pushed first = complete.filterMap selector? := by rw [pushed, listed]
    rw [List.drop_zero] at written
    rw [own, ← pushed_assemble_append each, ← written]
  · exact absurd ⟨last, by simp [listed], short⟩ whole

/-- Behind a push that is cut short the reading goes on at that push. -/
theorem pushed_append_of_cut {first : Bytecode} {last : Instruction}
    (atEnd : (decode first).getLast? = some last) (short : last.IsCutShortIn first)
    (second : Bytecode) :
    pushed (first ++ second) = pushed first ++ pushed (first.drop last.offset ++ second) := by
  obtain ⟨complete, each, ending⟩ := (walk_decode first).exists_assembled
  rcases ending with ⟨listed, _⟩ | ⟨other, listed, _, written⟩
  · -- A complete instruction has the operand that it announces.
    rw [listed] at atEnd
    obtain ⟨bytes, held, _⟩ := (each last (List.mem_of_getLast? atEnd)).2 short.1
    rw [short.2.1] at held
    cases held
  · obtain rfl : other = last := by simpa [listed] using atEnd
    have silent : other.selector? = none := by simp [selector?, short.2.1]
    have own : pushed first = complete.filterMap selector? := by
      simp [pushed, listed, silent]
    rw [List.drop_zero] at written
    rw [own, ← pushed_assemble_append each, ← List.append_assoc, ← written]

/-- Code behind a bytecode takes none of its selectors away and moves none.  Behind complete
instructions it adds its own new selectors; behind a push that is cut short it adds those of
this push together with the code that may complete it. -/
theorem selectors_append (first second : Bytecode) :
    first.selectors <+: (first ++ second).selectors ∧
    (¬EndsCutShort first →
      (first ++ second).selectors = (first.selectors ++ second.selectors).eraseDups) ∧
    (∀ last, (decode first).getLast? = some last → last.IsCutShortIn first →
      (first ++ second).selectors =
        (first.selectors ++
          Bytecode.selectors (first.drop last.offset ++ second)).eraseDups) := by
  have joined {rest : Bytecode} (pushes : pushed (first ++ second) = pushed first ++ pushed rest) :
      (first ++ second).selectors = (first.selectors ++ rest.selectors).eraseDups := by
    change (pushed _).eraseDups = ((pushed _).eraseDups ++ (pushed _).eraseDups).eraseDups
    rw [pushes, eraseDups_append_eraseDups]
  have whole (ends : ¬EndsCutShort first) := joined (pushed_append_of_whole ends second)
  have cut (last : Instruction) (atEnd : (decode first).getLast? = some last)
      (short : last.IsCutShortIn first) := joined (pushed_append_of_cut atEnd short second)
  refine ⟨?_, whole, cut⟩
  have front {rest : Bytecode}
      (same : (first ++ second).selectors = (first.selectors ++ rest.selectors).eraseDups) :
      first.selectors <+: (first ++ second).selectors := by
    rw [same, List.eraseDups_append, eraseDups_of_nodup first.selectors_nodup]
    exact List.prefix_append ..
  by_cases ends : EndsCutShort first
  · obtain ⟨last, atEnd, short⟩ := ends
    exact front (cut last atEnd short)
  · exact front (whole ends)

/-- Code that begins with the two bytes that a push lacks. -/
def completion : Bytecode :=
  [7, 8, 0x63, 1, 2, 3, 4, 0x63, 9, 10, 11, 12]

theorem selectors_append_completion :
    let whole : Bytecode := [0x63, 1, 2, 3, 4]
    let cut : Bytecode := [0x63, 1, 2, 3, 4, 0x63, 5, 6]
    let push : Instruction := ⟨5, 0x63, none⟩
    ¬EndsCutShort whole ∧
    Bytecode.selectors (whole ++ completion) = ["0x01020304".toList, "0x090a0b0c".toList] ∧
    (decode cut).getLast? = some push ∧ push.IsCutShortIn cut ∧
    Bytecode.selectors (cut ++ completion) =
      ["0x01020304".toList, "0x05060708".toList, "0x090a0b0c".toList] := by
  intro whole cut push
  have ends : ¬EndsCutShort whole := by
    rintro ⟨last, atEnd, _, missing, _⟩
    have listed : (decode whole).getLast? = some ⟨0, 0x63, some [1, 2, 3, 4]⟩ := by
      decide +kernel
    obtain rfl := Option.some.inj (listed.symm.trans atEnd)
    cases missing
  have atEnd : (decode cut).getLast? = some push := by decide +kernel
  have short : push.IsCutShortIn cut := ⟨by decide, rfl, by decide, by decide⟩
  obtain ⟨_, onward, _⟩ := selectors_append whole completion
  obtain ⟨_, _, completed⟩ := selectors_append cut completion
  refine ⟨ends, ?_, atEnd, short, ?_⟩
  · rw [onward ends]
    decide +kernel
  · rw [completed push atEnd short]
    decide +kernel

end Instruction
end ContractSurvey
