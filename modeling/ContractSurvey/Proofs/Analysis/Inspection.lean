/-
What a survey says about the functions of code.

Selectors are described one after another, each under itself.  Because no selector comes
twice, nothing that was kept for an earlier one is ever used for a later one: with fixed
replies every description depends on its own selector alone.
-/

import ContractSurvey.Proofs.Analysis.Stage
import ContractSurvey.Proofs.Instruction.Selectors
import ContractSurvey.Proofs.Register

namespace ContractSurvey

/-! ### Classification -/

namespace Signature

theorem classifyValue_null (selector : Text) :
    classifyValue selector .null = .ok (classify selector none) :=
  rfl

/-- A text is classified by its code points, whether or not all of them are characters. -/
theorem classifyValue_of_points (selector : Text) {signature : Value} {points : List Nat}
    (spelled : signature.points? = some points) :
    classifyValue selector signature = .ok (classify selector (some points)) := by
  cases signature with
  | text content =>
      obtain rfl := Option.some.inj spelled
      cases content <;> rfl
  | codes content =>
      obtain rfl := Option.some.inj spelled
      cases content <;> rfl
  | _ => cases spelled

/-- Half of a surrogate pair in front of an empty argument list. -/
example : classifyValue [] (.codes [0xD800, 0x28, 0x29]) = .ok
    { selector := []
      signature := some [0xD800, 0x28, 0x29]
      functionName := some [0xD800]
      isCallable := true } :=
  rfl

theorem classifyValue_text (selector content : Text) :
    classifyValue selector (.text content) =
      .ok (classify selector (some (Text.codes content))) :=
  classifyValue_of_points selector rfl

private theorem functionNameOf_cases (signature : Value) :
    (∃ name, functionNameOf signature = .ok name) ∨
      ∃ cause, functionNameOf signature = .error (.misuse cause) := by
  unfold functionNameOf
  split
  · exact Or.inl ⟨_, rfl⟩
  · exact Or.inl ⟨_, rfl⟩
  · split
    · exact Or.inr ⟨_, rfl⟩
    · exact Or.inl ⟨_, rfl⟩
  · split
    · exact Or.inr ⟨_, rfl⟩
    · split
      · exact Or.inr ⟨_, rfl⟩
      · exact Or.inl ⟨_, rfl⟩

private theorem isCallableValue_cases (signature : Value) :
    (∃ callable, isCallableValue signature = .ok callable) ∨
      ∃ cause, isCallableValue signature = .error (.misuse cause) := by
  unfold isCallableValue
  split
  · exact Or.inl ⟨_, rfl⟩
  · split
    · exact Or.inl ⟨_, rfl⟩
    · exact Or.inl ⟨_, rfl⟩
    · exact Or.inr ⟨_, rfl⟩

/-- A signature that is neither absent nor a text is misused. -/
private theorem classifyValue_of_other (selector : Text) {signature : Value}
    (present : signature ≠ .null) (other : signature.points? = none) :
    ∃ cause, classifyValue selector signature = .error (.misuse cause) := by
  unfold classifyValue
  rcases isCallableValue_cases signature with ⟨callable, checked⟩ | ⟨cause, refused⟩
  · rw [checked]
    by_cases filled : signature.isPresent = true
    · rcases functionNameOf_cases signature with ⟨name, named⟩ | ⟨cause, refused⟩
      · rw [named]
        cases signature with
        | null => exact absurd rfl present
        | text content => cases other
        | codes content => cases other
        | _ => exact ⟨_, if_pos filled⟩
      · rw [refused]
        exact ⟨cause, if_pos filled⟩
    · cases signature with
      | null => exact absurd rfl present
      | text content => cases other
      | codes content => cases other
      | _ => exact ⟨_, if_neg filled⟩
  · rw [refused]
    by_cases filled : signature.isPresent = true
    · rcases functionNameOf_cases signature with ⟨name, named⟩ | ⟨other, unnamed⟩
      · rw [named]
        exact ⟨cause, if_pos filled⟩
      · rw [unnamed]
        exact ⟨other, if_pos filled⟩
    · exact ⟨cause, if_neg filled⟩

/-- A signature is absent, a text or misused. -/
private theorem classifyValue_outcome (selector : Text) (signature : Value) :
    (signature = .null ∧ classifyValue selector signature = .ok (classify selector none)) ∨
      (∃ points, signature.points? = some points ∧
        classifyValue selector signature = .ok (classify selector (some points))) ∨
      ∃ cause, classifyValue selector signature = .error (.misuse cause) := by
  by_cases absent : signature = .null
  · rw [absent]
    exact Or.inl ⟨rfl, classifyValue_null selector⟩
  · right
    cases spelled : signature.points? with
    | some points => exact Or.inl ⟨points, rfl, classifyValue_of_points selector spelled⟩
    | none => exact Or.inr (classifyValue_of_other selector absent spelled)

theorem classifyValue_cases {selector : Text} {signature : Value} {info : Info}
    (classified : classifyValue selector signature = .ok info) :
    (signature = .null ∧ info = classify selector none) ∨
      ∃ points, signature.points? = some points ∧ info = classify selector (some points) := by
  rcases classifyValue_outcome selector signature with
    ⟨absent, given⟩ | ⟨points, spelled, given⟩ | ⟨cause, refused⟩
  · exact Or.inl ⟨absent, Except.ok.inj (classified.symm.trans given)⟩
  · exact Or.inr ⟨points, spelled, Except.ok.inj (classified.symm.trans given)⟩
  · cases classified.symm.trans refused

theorem classifyValue_error {selector : Text} {signature : Value} {fault : Fault}
    (refused : classifyValue selector signature = .error fault) :
    ∃ cause, fault = .misuse cause := by
  rcases classifyValue_outcome selector signature with
    ⟨_, given⟩ | ⟨_, _, given⟩ | ⟨cause, misused⟩
  · cases refused.symm.trans given
  · cases refused.symm.trans given
  · exact ⟨cause, Except.error.inj (refused.symm.trans misused)⟩

theorem classifyValue_selector {selector : Text} {signature : Value} {info : Info}
    (classified : classifyValue selector signature = .ok info) : info.selector = selector := by
  rcases classifyValue_cases classified with ⟨_, rfl⟩ | ⟨content, _, rfl⟩
  · rfl
  · rfl

end Signature

namespace Analysis

open Dialogue

/-! ### Descriptions -/

theorem describe_selectors {lookups : List Signature.Lookup} {cache : Signature.Cache}
    {selectors : List Text} {exchanges : List (Signature.Query × Reply)}
    {infos : List Signature.Info}
    (path : Path (describe lookups cache selectors) exchanges (.ok infos)) :
    infos.map (·.selector) = selectors := by
  induction selectors generalizing cache exchanges infos with
  | nil =>
      obtain ⟨_, same⟩ := (path_done_iff ..).mp path
      cases same
      rfl
  | cons selector rest ih =>
      obtain ⟨front, behind, ⟨outcome, later⟩, rfl, _, onward⟩ :=
        (path_andThen_iff ..).mp path
      simp only at onward
      cases classified : outcome.bind (Signature.classifyValue selector) with
      | error fault =>
          rw [classified] at onward
          obtain ⟨_, impossible⟩ := (path_done_iff ..).mp onward
          cases impossible
      | ok info =>
          rw [classified] at onward
          obtain ⟨others, described, same⟩ := (path_andThen_done_iff ..).mp onward
          cases others with
          | error fault => cases same
          | ok others =>
              cases same
              cases outcome with
              | error fault => cases classified
              | ok signature =>
                  rw [List.map_cons, ih described,
                    Signature.classifyValue_selector classified]

/-- The description of one selector when every question has a fixed reply. -/
def described (lookups : List Signature.Lookup) (replies : Signature.Query → Reply)
    (selector : Text) : Except Fault Signature.Info :=
  ((Signature.search selector lookups).run.answeredBy replies).bind
    (Signature.classifyValue selector)

private theorem resolve_answeredBy (lookups : List Signature.Lookup)
    (replies : Signature.Query → Reply) {cache : Signature.Cache} {selector : Text}
    (fresh : cache.get? selector = none) :
    ∃ later, (Signature.resolve lookups cache selector).answeredBy replies =
        ((Signature.search selector lookups).run.answeredBy replies, later) ∧
      ∀ other, other ≠ selector → later.get? other = cache.get? other := by
  unfold Signature.resolve
  rw [fresh]
  change ∃ later, (Dialogue.andThen _ _).answeredBy replies = _ ∧ _
  rw [answeredBy_andThen]
  cases (Signature.search selector lookups).run.answeredBy replies with
  | error fault => exact ⟨cache, rfl, fun _ _ => rfl⟩
  | ok found =>
      exact ⟨cache.put selector found, rfl,
        fun other different => Register.get?_put_of_ne different found⟩

theorem describe_answeredBy (lookups : List Signature.Lookup)
    (replies : Signature.Query → Reply) {cache : Signature.Cache} {selectors : List Text}
    (distinct : selectors.Nodup)
    (fresh : ∀ selector ∈ selectors, cache.get? selector = none) :
    (describe lookups cache selectors).answeredBy replies =
      selectors.mapM (described lookups replies) := by
  -- The cache grows, but no selector that is still to come is ever entered.
  induction selectors generalizing cache with
  | nil => rfl
  | cons selector rest ih =>
      obtain ⟨absent, apart⟩ := List.nodup_cons.mp distinct
      obtain ⟨later, resolved, kept⟩ := resolve_answeredBy lookups replies
        (fresh selector (List.mem_cons_self ..))
      have stillFresh : ∀ other ∈ rest, later.get? other = none := by
        intro other member
        have different : other ≠ selector := by
          rintro rfl
          exact absent member
        rw [kept other different]
        exact fresh other (List.mem_cons_of_mem _ member)
      have first : ((Signature.search selector lookups).run.answeredBy replies).bind
          (Signature.classifyValue selector) = described lookups replies selector := by
        rfl
      rw [describe, answeredBy_andThen, resolved, List.mapM_cons]
      simp only [first]
      cases described lookups replies selector with
      | error fault => rfl
      | ok info =>
          simp only
          rw [answeredBy_andThen, ih apart stillFresh]
          cases rest.mapM (described lookups replies) with
          | error fault => rfl
          | ok others => rfl

/-! ### Inspections -/

def inspected (located : Report) (code : Bytecode) (infos : List Signature.Info) : Report :=
  { located with
    isContract := !code.isEmpty
    bytecodeSize := (code.length : Int)
    selectorCount := (code.selectors.length : Int)
    signatures := infos.map fun info => (info.selector, info) }

def counted (located : Report) (code : Bytecode) : Report :=
  { located with
    bytecodeSize := (code.length : Int)
    selectorCount := (code.selectors.length : Int) }

theorem inspect_nil (lookups : List Signature.Lookup) (located : Report) :
    inspect lookups located (.bytes []) = pure { located with isContract := false } :=
  rfl

theorem inspect_cons (lookups : List Signature.Lookup) (located : Report) (first : UInt8)
    (rest : List UInt8) :
    inspect lookups located (.bytes (first :: rest)) = (do
      let infos ← Stage.ofSources (counted located (first :: rest))
        (describe lookups [] (Bytecode.selectors (first :: rest)))
      return { counted located (first :: rest) with
        signatures := infos.map fun info => (info.selector, info) }) :=
  rfl

/-- An inspection that gives a report asks for the descriptions of the selectors of the code and
for nothing else. -/
theorem inspect_describes {lookups : List Signature.Lookup} {address target : Text}
    {proxy : Option Proxy.Resolution} {code : Bytecode} {exchanges : List (Query × Reply)}
    {report : Report}
    (path : Path (inspect lookups
      { address := address, targetAddress := target, proxy := proxy } (.bytes code)).run
        exchanges (.ok report)) :
    ∃ inner infos, exchanges = inner.map (Prod.map Query.signature id) ∧
      Path (describe lookups [] code.selectors) inner (.ok infos) ∧
      report = inspected { address := address, targetAddress := target, proxy := proxy } code
        infos := by
  cases code with
  | nil =>
      rw [inspect_nil] at path
      obtain ⟨rfl, same⟩ := (path_done_iff ..).mp path
      cases same
      unfold inspected
      rw [Bytecode.selectors_nil]
      exact ⟨[], [], rfl, .done _, rfl⟩
  | cons first rest =>
      rw [inspect_cons] at path
      obtain ⟨infos, front, behind, rfl, asked, ended⟩ := (path_bind_ok_iff ..).mp path
      obtain ⟨rfl, same⟩ := (path_done_iff ..).mp ended
      cases same
      obtain ⟨inner, rfl, described⟩ := (Stage.path_ofSources_ok_iff ..).mp asked
      exact ⟨inner, infos, List.append_nil _, described, rfl⟩

/-- An inspection lists the selectors of the code, each with its description. -/
theorem inspect_ok {lookups : List Signature.Lookup} {address target : Text}
    {proxy : Option Proxy.Resolution} {code : Bytecode} {exchanges : List (Query × Reply)}
    {report : Report}
    (path : Path (inspect lookups
      { address := address, targetAddress := target, proxy := proxy } (.bytes code)).run
        exchanges (.ok report)) :
    ∃ infos : List Signature.Info, infos.map (·.selector) = code.selectors ∧
      report = inspected { address := address, targetAddress := target, proxy := proxy } code
        infos := by
  obtain ⟨inner, infos, _, described, same⟩ := inspect_describes path
  exact ⟨infos, describe_selectors described, same⟩

/-- Whatever stands for the code, an inspection that gives a report keeps the target and
lists the selectors of some code. -/
theorem inspect_lists {lookups : List Signature.Lookup} {located report : Report}
    {value : Value} {exchanges : List (Query × Reply)} (blank : located.signatures = [])
    (path : Path (inspect lookups located value).run exchanges (.ok report)) :
    ∃ (code : Bytecode) (infos : List Signature.Info),
      infos.map (·.selector) = code.selectors ∧
      report.signatures = infos.map (fun info => (info.selector, info)) ∧
      report.targetAddress = located.targetAddress := by
  unfold inspect at path
  split at path
  · obtain ⟨_, same⟩ := (path_done_iff ..).mp path
    cases same
    exact ⟨[], [], Bytecode.selectors_nil.symm, blank, rfl⟩
  · obtain ⟨size, _, _, _, _, measured⟩ := (path_bind_ok_iff ..).mp path
    obtain ⟨code, _, _, _, _, read⟩ := (path_bind_ok_iff ..).mp measured
    obtain ⟨infos, _, _, _, asked, ended⟩ := (path_bind_ok_iff ..).mp read
    obtain ⟨_, same⟩ := (path_done_iff ..).mp ended
    cases same
    obtain ⟨inner, _, described⟩ := (Stage.path_ofSources_ok_iff ..).mp asked
    exact ⟨code, infos, describe_selectors described, rfl, rfl⟩

private theorem ofSources_fixed {lookups : List Signature.Lookup} {soFar : Report}
    {code : Bytecode} {exchanges : List (Query × Reply)} {answers : Signature.Query → Reply}
    {outcome : Except Interruption (List Signature.Info)}
    (fixed : ∀ query reply, (Query.signature query, reply) ∈ exchanges →
      reply = answers query)
    (path : Path (Stage.ofSources soFar (describe lookups [] code.selectors)).run exchanges
      outcome) :
    outcome = (code.selectors.mapM (described lookups answers)).mapError
      fun fault => ⟨fault, soFar⟩ := by
  obtain ⟨inner, infos, rfl, told, rfl⟩ := (Stage.path_ofSources_iff ..).mp path
  have same : infos = (describe lookups [] code.selectors).answeredBy answers :=
    told.eq_answeredBy fun exchange member =>
      fixed _ _ (List.mem_map.mpr ⟨exchange, member, rfl⟩)
  rw [same, describe_answeredBy lookups answers code.selectors_nodup fun _ _ => rfl]

/-- With fixed replies an inspection describes each selector by itself, and the first
description that fails stops it. -/
theorem inspect_fixed {lookups : List Signature.Lookup} {address target : Text}
    {proxy : Option Proxy.Resolution} {code : Bytecode} {exchanges : List (Query × Reply)}
    {answers : Signature.Query → Reply} {outcome : Except Interruption Report}
    (fixed : ∀ query reply, (Query.signature query, reply) ∈ exchanges →
      reply = answers query)
    (path : Path (inspect lookups
      { address := address, targetAddress := target, proxy := proxy } (.bytes code)).run
        exchanges outcome) :
    let located : Report := { address := address, targetAddress := target, proxy := proxy }
    outcome = ((code.selectors.mapM (described lookups answers)).map
      (inspected located code)).mapError fun fault => ⟨fault, counted located code⟩ := by
  intro located
  cases code with
  | nil =>
      rw [inspect_nil] at path
      obtain ⟨_, rfl⟩ := (path_done_iff ..).mp path
      rw [Bytecode.selectors_nil]
      unfold inspected
      rw [Bytecode.selectors_nil]
      rfl
  | cons first rest =>
      rw [inspect_cons] at path
      rcases (path_bind_iff ..).mp path with
        ⟨stop, rfl, stopped⟩ | ⟨infos, front, behind, rfl, told, ended⟩
      · have failed := ofSources_fixed fixed stopped
        cases listed : (Bytecode.selectors (first :: rest)).mapM
            (described lookups answers) with
        | error fault =>
            rw [listed] at failed
            cases failed
            rfl
        | ok infos =>
            rw [listed] at failed
            cases failed
      · have given := ofSources_fixed
          (fun query reply member => fixed query reply (List.mem_append_left behind member))
          told
        have listed := (mapError_eq_ok_iff ..).mp given.symm
        obtain ⟨_, rfl⟩ := (path_done_iff ..).mp ended
        rw [listed]
        rfl

end Analysis
end ContractSurvey
