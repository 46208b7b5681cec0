/-
Signatures and the types in them.

The type of an argument is elementary, an array or a tuple, nested to any depth, and a signature
is the name of a function with the types of its arguments in brackets.  No type is written with
an opening bracket at its end.  So the two brackets of an empty argument list stand at the end of
a signature only when the function takes no arguments, whatever tuples it takes otherwise.
-/

import ContractSurvey.Proofs.Analysis.Inspection
import ContractSurvey.Proofs.Text.CodePoint

namespace ContractSurvey

namespace Signature

/-! ### The grammar -/

/-- The name of an elementary type: characters among which there is no bracket and no comma. -/
structure ElementaryName where
  text : Text
  filled : text ≠ []
  plain : ∀ character ∈ text, character ∉ "(),".toList

/-- The type of an argument.  An array has a number of items or any number of them. -/
inductive ArgumentType
  | elementary (name : ElementaryName)
  | array (item : ArgumentType) (size : Option Nat)
  | tuple (parts : List ArgumentType)

namespace ArgumentType

/-- The square brackets behind the type of the items of an array. -/
def bounds : Option Nat → Text
  | none => "[]".toList
  | some size => '[' :: Numeral.ofNat size ++ [']']

mutual

def written : ArgumentType → Text
  | .elementary name => name.text
  | .array item size => written item ++ bounds size
  | .tuple parts => '(' :: Text.joined [','] (writtenParts parts) ++ [')']

def writtenParts : List ArgumentType → List Text
  | [] => []
  | part :: rest => written part :: writtenParts rest

end

end ArgumentType

/-- The signature of a function: its name, and the types of its arguments in brackets. -/
def writtenWith (name : Text) (arguments : List ArgumentType) : Text :=
  name ++ ("(".toList ++ Text.joined ",".toList (arguments.map ArgumentType.written) ++ ")".toList)

/-! ### The last character -/

/-- A text has a last character, and it is no opening bracket. -/
def EndsClosed (text : Text) : Prop :=
  ∃ front last, text = front ++ [last] ∧ last ≠ '('

theorem EndsClosed.behind {text : Text} (closed : EndsClosed text) (front : Text) :
    EndsClosed (front ++ text) := by
  obtain ⟨before, last, rfl, apart⟩ := closed
  exact ⟨front ++ before, last, (List.append_assoc ..).symm, apart⟩

theorem bounds_endsClosed (size : Option Nat) : EndsClosed (ArgumentType.bounds size) := by
  cases size with
  | none => exact ⟨['['], ']', rfl, by decide⟩
  | some size => exact ⟨'[' :: Numeral.ofNat size, ']', rfl, by decide⟩

theorem ElementaryName.endsClosed (name : ElementaryName) : EndsClosed name.text := by
  refine ⟨name.text.dropLast, name.text.getLast name.filled,
    (List.dropLast_append_getLast name.filled).symm, ?_⟩
  intro opening
  have member := List.getLast_mem name.filled
  rw [opening] at member
  exact name.plain '(' member (by decide)

/-- However a type is nested, it does not end with an opening bracket. -/
theorem ArgumentType.written_endsClosed (type : ArgumentType) : EndsClosed type.written := by
  cases type with
  | elementary name => exact name.endsClosed
  | array item size => exact (bounds_endsClosed size).behind item.written
  | tuple parts =>
      exact ⟨'(' :: Text.joined [','] (ArgumentType.writtenParts parts), ')', rfl, by decide⟩

/-- The last of the types in a list decides how the list ends. -/
theorem joined_endsClosed {arguments : List ArgumentType} (filled : arguments ≠ []) :
    EndsClosed (Text.joined ",".toList (arguments.map ArgumentType.written)) := by
  induction arguments with
  | nil => exact absurd rfl filled
  | cons first rest ih =>
      cases rest with
      | nil => exact first.written_endsClosed
      | cons second later => exact (ih (List.cons_ne_nil second later)).behind _

/-! ### Classification -/

/-- Only an empty argument list looks like one. -/
theorem finishesWith_writtenWith (name : Text) (arguments : List ArgumentType) :
    Text.finishesWith "()".toList (writtenWith name arguments) = true ↔ arguments = [] := by
  unfold Text.finishesWith
  rw [List.isSuffixOf_iff_suffix]
  constructor
  · intro looksEmpty
    refine Classical.byContradiction fun filled => ?_
    obtain ⟨front, last, same, apart⟩ := joined_endsClosed filled
    have shape : writtenWith name arguments = (name ++ '(' :: front) ++ [last, ')'] := by
      rw [writtenWith, same]
      simp
    rw [shape] at looksEmpty
    have ending : "()".toList <:+ [last, ')'] :=
      List.suffix_of_suffix_length_le looksEmpty (List.suffix_append ..) (Nat.le_refl 2)
    exact apart (List.cons.inj (ending.eq_of_length rfl)).1.symm
  · rintro rfl
    exact List.suffix_append ..

theorem functionName_writtenWith {name : Text} (unopened : '(' ∉ name)
    (arguments : List ArgumentType) :
    functionName (Text.codes (writtenWith name arguments)) = Text.codes name := by
  have closed : ∀ code ∈ Text.codes name, decide (code ≠ '('.toNat) = true := by
    intro code member
    obtain ⟨letter, present, rfl⟩ := List.mem_map.mp member
    apply decide_eq_true
    intro same
    rw [Char.toNat_inj.mp same] at present
    exact unopened present
  unfold functionName writtenWith
  rw [Text.codes_append, List.takeWhile_append_of_pos closed]
  exact List.append_nil _

/-- A function is callable exactly when its signature has no types between its brackets, and it
is known by the name in front of them.  No tuple at the end of a signature, and be it empty or
end with an empty one, makes the function callable. -/
theorem classify_writtenWith (selector : Text) {name : Text} (unopened : '(' ∉ name)
    (arguments : List ArgumentType) :
    ∃ info, classifyValue selector (.text (writtenWith name arguments)) = .ok info ∧
      info.selector = selector ∧
      info.signature = some (Text.codes (writtenWith name arguments)) ∧
      (info.isCallable = true ↔ arguments = []) ∧
      info.functionName = some (Text.codes name) ∧
      ∀ front parts, arguments = front ++ [.tuple parts] → info.isCallable = false := by
  have filled : (Text.codes (writtenWith name arguments)).isEmpty = false := by
    unfold writtenWith
    simp [Text.codes]
  have callable :
      isCallable (some (Text.codes (writtenWith name arguments))) = true ↔ arguments = [] := by
    change (List.isEmpty _ || _) = true ↔ _
    rw [filled, Bool.false_or, Text.isSuffixOf_codes]
    exact finishesWith_writtenWith name arguments
  refine ⟨_, classifyValue_text selector _, rfl, rfl, callable, ?_, ?_⟩
  · change (if List.isEmpty _ = true then none else _) = _
    rw [filled, if_neg Bool.false_ne_true, functionName_writtenWith unopened]
  · rintro front parts rfl
    apply Bool.eq_false_iff.mpr
    intro taken
    exact List.append_ne_nil_of_right_ne_nil front (List.cons_ne_nil _ []) (callable.mp taken)

/-- An array of a given size, and a tuple that ends with an empty one. -/
def nestedArguments : List ArgumentType :=
  let number : ElementaryName :=
    ⟨"uint256".toList, by decide, List.all_iff_forall_prop.mp (by decide)⟩
  let account : ElementaryName :=
    ⟨"address".toList, by decide, List.all_iff_forall_prop.mp (by decide)⟩
  [.array (.elementary number) (some 3), .tuple [.elementary account, .tuple []]]

theorem classify_nestedArguments :
    '(' ∉ "fill".toList ∧
    writtenWith "fill".toList nestedArguments = "fill(uint256[3],(address,()))".toList ∧
    ∃ info, classifyValue "0x01020304".toList
        (.text (writtenWith "fill".toList nestedArguments)) = .ok info ∧
      info.isCallable = false ∧ info.functionName = some (Text.codes "fill".toList) := by
  have unopened : '(' ∉ "fill".toList := by decide
  obtain ⟨info, classified, _, _, _, named, closed⟩ :=
    classify_writtenWith "0x01020304".toList unopened nestedArguments
  have last : nestedArguments = nestedArguments.take 1 ++ [.tuple _] := rfl
  exact ⟨unopened, by decide +kernel, info, classified, closed _ _ last, named⟩

end Signature
end ContractSurvey
