/-
The functions in a report.

Both renderings of a report list every function once.  The text puts the functions that
describe a token in front, in the order of the standard for tokens, when they can be called;
behind them stand the other callable functions and then those that want arguments, each in the
order of the signatures.  The document has the same functions without moving any to the front.

What stands under the name of a function in the text is a rule on the parts of the report that
belong to its selector, and is stated without the functions that write it.  The text is given
by its code points, whether or not all of them are characters.
-/

import Mathlib.Data.List.Perm.Basic
import ContractSurvey.Proofs.Register
import ContractSurvey.Proofs.Report.Render
import ContractSurvey.Report.Document

namespace ContractSurvey
namespace Report

/-! ### The rules -/

/-- The first four bytes of the digest of a function's name with its arguments. -/
def selectorOf (signature : String) : Text :=
  Hex.marked ((Keccak.digest (signature.toList.map fun letter => UInt8.ofNat letter.toNat)).take 4)

/-- The selectors by which the standard for tokens describes a token. -/
def metadata : List Text :=
  ["name()", "symbol()", "decimals()", "totalSupply()"].map selectorOf

section Rules

variable (report : Report)

def callableKeys : List Text :=
  (report.signatures.filter fun (_, info) => info.isCallable).map Prod.fst

def nonCallableKeys : List Text :=
  (report.signatures.filter fun (_, info) => !info.isCallable).map Prod.fst

/-- The selectors in the order in which the text lists them. -/
def shownKeys : List Text :=
  metadata.filter (· ∈ report.callableKeys) ++ report.callableKeys.filter (· ∉ metadata) ++
    report.nonCallableKeys

variable (selector : Text)

/-- The line that names a function: its selector, and its signature where one is known. -/
inductive IsHeadline : List Nat → Prop
  | named {info : Signature.Info} {name : List Nat}
      (listed : report.signatures.get? selector = some info)
      (known : info.signature = some name) (filled : name ≠ []) :
      IsHeadline (Text.codes (selector ++ " ".toList) ++ name)
  | unnamed {info : Signature.Info} (listed : report.signatures.get? selector = some info)
      (unknown : ∀ name, info.signature = some name → name = []) :
      IsHeadline (Text.codes (selector ++ " unknown".toList))

/-- What is said about a callable function: its decoded value, or else why its call failed. -/
inductive IsRemark : Text → Prop
  | value {text : Text} (decoded : report.decoded.get? selector = some text)
      (filled : text ≠ []) : IsRemark text
  | reason {outcome : Call.Outcome} {text : Text}
      (undecoded : ∀ value, report.decoded.get? selector = some value → value = [])
      (called : report.outcomes.get? selector = some outcome)
      (failed : outcome.succeeded = false) (told : outcome.revertReason = some text)
      (filled : text ≠ []) : IsRemark text

/-- The lines of a function: its headline, what is said about it, and an empty line. -/
inductive IsBlock : List (List Nat) → Prop
  | remarked {line : List Nat} {text : Text} (headline : report.IsHeadline selector line)
      (callable : selector ∈ report.callableKeys) (remark : report.IsRemark selector text) :
      IsBlock [line, Text.codes ("  -> ".toList ++ text), []]
  | plain {line : List Nat} (headline : report.IsHeadline selector line)
      (nothing : selector ∈ report.callableKeys → ∀ text, ¬report.IsRemark selector text) :
      IsBlock [line, []]

end Rules

theorem tokenSelectors_eq : tokenSelectors = metadata := by
  decide +kernel

/-! ### Every selector once -/

section Order

variable {report : Report}

private theorem keys_perm (report : Report) :
    (report.callableKeys ++ report.nonCallableKeys).Perm report.signatures.keys := by
  unfold callableKeys nonCallableKeys
  rw [← List.map_append]
  refine List.Perm.map Prod.fst ?_
  simpa using List.filter_append_perm (fun entry => entry.2.isCallable) report.signatures

private theorem callableKeys_nodup (distinct : report.signatures.keys.Nodup) :
    report.callableKeys.Nodup :=
  distinct.sublist (List.filter_sublist.map Prod.fst)

/-- Moving the metadata of a token to the front loses and repeats no selector. -/
theorem shownKeys_perm (distinct : report.signatures.keys.Nodup) :
    report.shownKeys.Perm report.signatures.keys := by
  have moved : (metadata.filter (· ∈ report.callableKeys)).Perm
      (report.callableKeys.filter (· ∈ metadata)) := by
    rw [List.perm_ext_iff_of_nodup]
    · intro selector
      simp [and_comm]
    · have once : metadata.Nodup := by
        rw [← tokenSelectors_eq]
        decide
      exact once.filter _
    · exact (callableKeys_nodup distinct).filter _
  have whole : (report.callableKeys.filter (· ∈ metadata) ++
      report.callableKeys.filter (· ∉ metadata)).Perm report.callableKeys := by
    simpa using List.filter_append_perm (· ∈ metadata) report.callableKeys
  exact (((moved.append_right _).trans whole).append_right _).trans (keys_perm report)

end Order

/-! ### Blocks -/

theorem filled?_eq_some_iff {Letter : Type} (text : Option (List Letter))
    (shown : List Letter) :
    filled? text = some shown ↔ text = some shown ∧ shown ≠ [] := by
  cases text with
  | none => simp [filled?]
  | some content =>
      cases content with
      | nil =>
          simp only [filled?, Option.some.injEq, reduceCtorEq, false_iff, not_and, not_not]
          exact Eq.symm
      | cons first rest =>
          simp only [filled?, Option.some.injEq, iff_self_and]
          rintro rfl
          exact List.cons_ne_nil first rest

theorem filled?_eq_none_iff {Letter : Type} (text : Option (List Letter)) :
    filled? text = none ↔ ∀ shown, text = some shown → shown = [] := by
  rw [Option.eq_none_iff_forall_ne_some]
  simp only [ne_eq, filled?_eq_some_iff, not_and, not_not]

section Blocks

variable {report : Report} {selector : Text} {info : Signature.Info}

theorem mem_keysWhere_iff (distinct : report.signatures.keys.Nodup)
    (holds : Signature.Info → Bool) :
    selector ∈ (report.signatures.filter fun (_, info) => holds info).map Prod.fst ↔
      ∃ info, report.signatures.get? selector = some info ∧ holds info = true := by
  simp [Register.get?_eq_some_iff distinct]

private theorem heading_isHeadline (listed : report.signatures.get? selector = some info) :
    report.IsHeadline selector (heading (report.function selector)) := by
  have signed : (report.function selector).signature = info.signature := by
    simp only [function, listed, Option.getD_some]
  unfold heading
  rw [signed]
  cases named : filled? info.signature with
  | some name =>
      obtain ⟨known, filled⟩ := (filled?_eq_some_iff ..).mp named
      exact .named listed known filled
  | none =>
      have line : Text.codes (selector ++ " ".toList) ++ Text.codes "unknown".toList =
          Text.codes (selector ++ " unknown".toList) := by
        rw [← Text.codes_append, List.append_assoc]
        rfl
      change report.IsHeadline selector
        (Text.codes (selector ++ " ".toList) ++ Text.codes "unknown".toList)
      rw [line]
      exact .unnamed listed ((filled?_eq_none_iff ..).mp named)

/-- The decoded value of a function comes before the reason of its failure. -/
private theorem isRemark_iff (report : Report) (selector text : Text) :
    report.IsRemark selector text ↔
      (filled? (report.function selector).decoded).or
        (filled? (report.function selector).revert) = some text := by
  have reverted : (report.function selector).revert = some text ↔
      ∃ outcome, report.outcomes.get? selector = some outcome ∧ outcome.succeeded = false ∧
        outcome.revertReason = some text := by
    simp [function, Option.bind_eq_some_iff]
  rw [Option.or_eq_some_iff, filled?_eq_some_iff, filled?_eq_none_iff, filled?_eq_some_iff,
    reverted]
  constructor
  · intro remark
    cases remark with
    | value decoded filled => exact Or.inl ⟨decoded, filled⟩
    | reason undecoded called failed told filled =>
        exact Or.inr ⟨undecoded, ⟨_, called, failed, told⟩, filled⟩
  · rintro (⟨decoded, filled⟩ | ⟨undecoded, ⟨outcome, called, failed, told⟩, filled⟩)
    · exact .value decoded filled
    · exact .reason undecoded called failed told filled

private theorem callableBlock_isBlock (listed : report.signatures.get? selector = some info)
    (callable : selector ∈ report.callableKeys) :
    report.IsBlock selector (callableBlock (report.function selector)) := by
  have headline := heading_isHeadline listed
  have said := isRemark_iff report selector
  unfold callableBlock
  cases decoded : filled? (report.function selector).decoded with
  | some value =>
      exact .remarked headline callable ((said value).mpr (by rw [decoded]; rfl))
  | none =>
      cases reverted : filled? (report.function selector).revert with
      | some reason =>
          exact .remarked headline callable
            ((said reason).mpr (by rw [decoded, reverted]; rfl))
      | none =>
          refine .plain headline fun _ text remark => ?_
          have shown := (said text).mp remark
          rw [decoded, reverted] at shown
          cases shown

end Blocks

/-! ### The text -/

section Lines

variable {report : Report}

private theorem find?_function (keys : List Text) (selector : Text) :
    (keys.map report.function).find? (fun function => function.selector == selector) =
      if selector ∈ keys then some (report.function selector) else none := by
  induction keys with
  | nil => rfl
  | cons key rest ih =>
      rw [List.map_cons, List.find?_cons]
      by_cases same : key = selector
      · simp [function, same]
      · have other : ((report.function key).selector == selector) = false := by
          simpa [function] using same
        simp only [other, ih, List.mem_cons, Ne.symm same, false_or]

private theorem callable_eq (report : Report) :
    report.callable = report.callableKeys.map report.function := by
  unfold callable functionsWhere callableKeys
  rw [List.map_map]
  rfl

private theorem nonCallable_eq (report : Report) :
    report.nonCallable = report.nonCallableKeys.map report.function := by
  unfold nonCallable functionsWhere nonCallableKeys
  rw [List.map_map]
  rfl

/-- The functions in front are those of the metadata that are callable. -/
private theorem filterMap_find?_eq (report : Report) (front : List Text) :
    front.filterMap (fun selector =>
        report.callable.find? fun function => function.selector == selector) =
      (front.filter (· ∈ report.callableKeys)).map report.function := by
  simp only [callable_eq, find?_function]
  rw [← List.filterMap_eq_map, List.filterMap_filter]
  simp

private theorem filter_not_contains_eq (report : Report) (front : List Text) :
    report.callable.filter (fun function => !front.contains function.selector) =
      (report.callableKeys.filter (· ∉ front)).map report.function := by
  rw [callable_eq, List.filter_map]
  congr 1
  apply List.filter_congr
  intro selector _
  by_cases member : selector ∈ front <;> simp [function, member]

theorem shownCallable_eq (report : Report) :
    report.shownCallable = (metadata.filter (· ∈ report.callableKeys) ++
      report.callableKeys.filter (· ∉ metadata)).map report.function := by
  unfold shownCallable
  rw [tokenSelectors_eq, List.map_append, ← filterMap_find?_eq, ← filter_not_contains_eq]

/-- The functions of a report are written as blocks, in the order of the text. -/
theorem exists_blocks (distinct : report.signatures.keys.Nodup) :
    ∃ blocks : List (List (List Nat)), List.Forall₂ report.IsBlock report.shownKeys blocks ∧
      report.lines =
        (report.titleLines ++ report.statisticsLines).map Text.codes ++ blocks.flatten := by
  refine ⟨(metadata.filter (· ∈ report.callableKeys) ++
      report.callableKeys.filter (· ∉ metadata)).map (callableBlock ∘ report.function) ++
    report.nonCallableKeys.map (nonCallableBlock ∘ report.function), ?_, ?_⟩
  · refine List.rel_append ?_ ?_
    · rw [List.forall₂_map_right_iff, List.forall₂_same]
      intro selector member
      have callable : selector ∈ report.callableKeys := by
        rcases List.mem_append.mp member with front | behind
        · simpa using (List.mem_filter.mp front).2
        · exact (List.mem_filter.mp behind).1
      obtain ⟨info, listed, _⟩ := (mem_keysWhere_iff distinct _).mp callable
      exact callableBlock_isBlock listed callable
    · rw [List.forall₂_map_right_iff, List.forall₂_same]
      intro selector member
      obtain ⟨info, listed, uncallable⟩ := (mem_keysWhere_iff distinct fun info =>
        !info.isCallable).mp member
      refine .plain (heading_isHeadline listed) fun callable => ?_
      obtain ⟨other, again, called⟩ := (mem_keysWhere_iff distinct _).mp callable
      obtain rfl := Option.some.inj (listed.symm.trans again)
      simp [called] at uncallable
  · unfold lines
    rw [shownCallable_eq, nonCallable_eq, List.flatten_append, List.append_assoc]
    simp only [List.flatMap_def, List.map_map]

/-- The blanks at the end of the text give way to a single line break. -/
theorem exists_trimmed (contract : report.isContract = true) :
    ∃ body blanks, Text.joined (Text.codes ['\n']) report.lines = body ++ blanks ∧
      (∀ code ∈ blanks, Text.isBlankCode code = true) ∧
      report.written = body ++ Text.codes ['\n'] ∧
      ∃ last, body.getLast? = some last ∧ Text.isBlankCode last = false := by
  obtain ⟨first, rest, written, letter⟩ := report.exists_written
  have text : report.written =
      Text.trimEnd Text.isBlankCode (Text.joined (Text.codes ['\n']) report.lines) ++
        Text.codes ['\n'] := if_pos contract
  have filled :
      Text.trimEnd Text.isBlankCode (Text.joined (Text.codes ['\n']) report.lines) ≠ [] := by
    intro empty
    rw [text, empty] at written
    obtain ⟨same, _⟩ := List.cons.inj written
    rcases letter with rfl | rfl <;> cases same
  refine ⟨_, _, (List.rdropWhile_append_rtakeWhile ..).symm, ?_, text, _,
    List.getLast?_eq_some_getLast filled, ?_⟩
  · exact fun code member => List.mem_rtakeWhile_imp member
  · exact Bool.not_eq_true _ ▸ List.rdropWhile_last_not _ _ filled

end Lines

/-! ### The document -/

private theorem listed_selectors (report : Report) :
    (report.listedFunctions.map functionValue).map (Value.member? "selector".toList) =
      (report.callableKeys ++ report.nonCallableKeys).map fun selector =>
        some (Value.text selector) := by
  unfold listedFunctions
  rw [callable_eq, nonCallable_eq, ← List.map_append, List.map_map, List.map_map]
  rfl

/-- The text of a report and its document list every function once. -/
theorem render_lists_each_once {report : Report} (contract : report.isContract = true)
    (distinct : report.signatures.keys.Nodup) :
    (∃ blocks body blanks, List.Forall₂ report.IsBlock report.shownKeys blocks ∧
      Text.joined (Text.codes ['\n'])
        ((report.titleLines ++ report.statisticsLines).map Text.codes ++ blocks.flatten) =
        body ++ blanks ∧
      (∀ code ∈ blanks, Text.isBlankCode code = true) ∧
      report.written = body ++ Text.codes ['\n'] ∧
      report.render = Text.ofCodes body ++ ['\n'] ∧
      ∃ last, body.getLast? = some last ∧ Text.isBlankCode last = false) ∧
    report.shownKeys.Perm report.signatures.keys ∧
    (∃ functions, report.value.member? "functions".toList = some (.list functions) ∧
      functions.map (Value.member? "selector".toList) =
        (report.callableKeys ++ report.nonCallableKeys).map fun selector =>
          some (Value.text selector)) ∧
    (report.callableKeys ++ report.nonCallableKeys).Perm report.signatures.keys ∧
    report.callableKeys.Sublist report.signatures.keys ∧
    report.nonCallableKeys.Sublist report.signatures.keys := by
  refine ⟨?_, shownKeys_perm distinct, ⟨_, rfl, listed_selectors report⟩, keys_perm report,
    List.filter_sublist.map Prod.fst, List.filter_sublist.map Prod.fst⟩
  obtain ⟨blocks, written, lines⟩ := exists_blocks distinct
  obtain ⟨body, blanks, split, dropped, text, ends⟩ := exists_trimmed contract
  rw [lines] at split
  have printed : report.render = Text.ofCodes body ++ ['\n'] := by
    unfold render
    rw [text, Text.ofCodes_append, Text.ofCodes_codes]
  exact ⟨blocks, body, blanks, written, split, dropped, text, printed, ends⟩

/-- A token whose name stands last among its signatures and whose symbol wants an argument, and
a call that failed. -/
def tokenReport : Report :=
  let supply := "0x18160ddd".toList
  let unknown := "0xaabbccdd".toList
  let symbol := "0x95d89b41".toList
  let name := "0x06fdde03".toList
  { address := "0x".toList ++ List.replicate 40 '1'
    targetAddress := "0x".toList ++ List.replicate 40 '1'
    bytecodeSize := 20
    selectorCount := 4
    signatures := [(supply, Signature.classify supply (some (Text.codes "totalSupply()".toList))),
      (unknown, Signature.classify unknown none),
      (symbol, Signature.classify symbol (some (Text.codes "symbol(uint256)".toList))),
      (name, Signature.classify name (some (Text.codes "name()".toList)))]
    outcomes := [(supply, { selector := supply, succeeded := true }),
      (unknown, { selector := unknown, succeeded := false, revertReason := some "paused".toList }),
      (name, { selector := name, succeeded := true })]
    decoded := [(supply, "7".toList), (name, "".toList)] }

theorem render_lists_token_once :
    tokenReport.isContract = true ∧ tokenReport.signatures.keys.Nodup ∧
    tokenReport.shownKeys = ["0x06fdde03".toList, "0x18160ddd".toList, "0xaabbccdd".toList,
      "0x95d89b41".toList] ∧
    tokenReport.shownKeys.Perm tokenReport.signatures.keys ∧
    ∃ blocks body blanks, List.Forall₂ tokenReport.IsBlock tokenReport.shownKeys blocks ∧
      Text.joined (Text.codes ['\n'])
        ((tokenReport.titleLines ++ tokenReport.statisticsLines).map Text.codes ++
          blocks.flatten) = body ++ blanks ∧
      tokenReport.written = body ++ Text.codes ['\n'] ∧
      tokenReport.render = Text.ofCodes body ++ ['\n'] := by
  have contract : tokenReport.isContract = true := rfl
  have distinct : tokenReport.signatures.keys.Nodup := by decide
  obtain ⟨⟨blocks, body, blanks, written, split, _, text, printed, _⟩, order, _⟩ :=
    render_lists_each_once contract distinct
  exact ⟨contract, distinct, by decide +kernel, order, blocks, body, blanks, written, split,
    text, printed⟩

end Report
end ContractSurvey
