/-
Reports of surveys that were interrupted.

A survey enters what it finds out into its report step by step, each entry made of the replies
that the step was given.  The checkpoints below are the reports between two entries, and the
steps lead from one checkpoint to the next in a fixed order.  A survey that is interrupted has
come to a checkpoint, its next step has failed, and the report at the checkpoint is the one
that comes with the fault.  So whatever holds at all checkpoints holds of that report.

Only two steps can fail while the chain gives bytes or ordinary faults: the question about the
code of the account itself, and the description of the functions.
-/

import ContractSurvey.Proofs.Analysis.Inspection
import ContractSurvey.Proofs.Analysis.Invocation
import ContractSurvey.Proofs.Analysis.Location

namespace ContractSurvey
namespace Analysis

open Dialogue

/-! ### Checkpoints -/

/-- The reports of a survey between its steps, with the code once it is known. -/
inductive Checkpoint
  | begun (report : Report)
  | resolved (report : Report)
  | located (report : Report) (code : Bytecode)
  | measured (report : Report) (code : Bytecode)
  | counted (report : Report) (code : Bytecode)
  | described (report : Report) (code : Bytecode)

namespace Checkpoint

def report : Checkpoint → Report
  | .begun report => report
  | .resolved report => report
  | .located report _ => report
  | .measured report _ => report
  | .counted report _ => report
  | .described report _ => report

def code? : Checkpoint → Option Bytecode
  | .begun _ => none
  | .resolved _ => none
  | .located _ code => some code
  | .measured _ code => some code
  | .counted _ code => some code
  | .described _ code => some code

/-- The size of code that a report at a checkpoint tells. -/
def size : Checkpoint → Int
  | .measured _ code => code.length
  | .counted _ code => code.length
  | .described _ code => code.length
  | _ => 0

/-- The number of selectors that a report at a checkpoint tells. -/
def count : Checkpoint → Int
  | .counted _ code => code.selectors.length
  | .described _ code => code.selectors.length
  | _ => 0

/-- The selectors that a report at a checkpoint lists. -/
def listed : Checkpoint → List Text
  | .described _ code => code.selectors
  | _ => []

end Checkpoint

/-- The steps of a survey: each leads to the next checkpoint along the exchanges that it
takes, and makes one entry of what it was replied. -/
inductive Advances (plan : Plan) : Checkpoint → List (Query × Reply) → Checkpoint → Prop
  | pass {report : Report} (direct : plan.followsProxy = false) :
      Advances plan (.begun report) [] (.resolved report)
  | resolve {report : Report} {resolution : Proxy.Resolution}
      {inner : List (Chain.Query × Reply)} (follows : plan.followsProxy = true)
      (unresolved : report.proxy = none)
      (path : Path (Proxy.resolve report.address).run inner (.ok resolution)) :
      Advances plan (.begun report) (inner.map (Prod.map Query.chain id))
        (.resolved { report with proxy := some resolution })
  | move {report : Report} {resolution : Proxy.Resolution} {code : Bytecode}
      (held : report.proxy = some resolution) (proxied : resolution.isProxy = true)
      (spelled : implementationCode resolution = .ok code) :
      Advances plan (.resolved report) []
        (.located { report with targetAddress := resolution.implementationAddress } code)
  | fetch {report : Report} (code : Bytecode) (plain : report.isProxy = false) :
      Advances plan (.resolved report)
        [(.chain (.code report.targetAddress), .ok (.bytes code))] (.located report code)
  | measure {report : Report} {code : Bytecode} (present : code ≠ []) :
      Advances plan (.located report code) []
        (.measured { report with bytecodeSize := (code.length : Int) } code)
  | count {report : Report} {code : Bytecode} :
      Advances plan (.measured report code) []
        (.counted { report with selectorCount := (code.selectors.length : Int) } code)
  | describe {report : Report} {code : Bytecode} {infos : List Signature.Info}
      {inner : List (Signature.Query × Reply)}
      (path : Path (describe plan.lookups [] code.selectors) inner (.ok infos)) :
      Advances plan (.counted report code) (inner.map (Prod.map Query.signature id))
        (.described { report with
          signatures := infos.map fun info => (info.selector, info) } code)

/-- The checkpoints that a survey of an address comes to, and the exchanges behind them. -/
inductive Reaches (plan : Plan) (address : Text) :
    List (Query × Reply) → Checkpoint → Prop
  | start : Reaches plan address [] (.begun { address := address, targetAddress := address })
  | later {front behind : List (Query × Reply)} {checkpoint next : Checkpoint}
      (before : Reaches plan address front checkpoint)
      (step : Advances plan checkpoint behind next) : Reaches plan address (front ++ behind) next

/-- The steps that fail, with the exchanges that they took and the fault. -/
inductive BreaksOff (plan : Plan) : Checkpoint → List (Query × Reply) → Fault → Prop
  | fetch {report : Report} (fault : Fault) (plain : report.isProxy = false) :
      BreaksOff plan (.resolved report)
        [(.chain (.code report.targetAddress), .error fault)] fault
  | describe {report : Report} {code : Bytecode} {fault : Fault}
      {inner : List (Signature.Query × Reply)}
      (path : Path (describe plan.lookups [] code.selectors) inner (.error fault)) :
      BreaksOff plan (.counted report code) (inner.map (Prod.map Query.signature id)) fault

/-! ### What holds at every checkpoint -/

/-- A resolution is what a search gave along some of the exchanges. -/
def IsResolved (address : Text) (exchanges : List (Query × Reply))
    (resolution : Proxy.Resolution) : Prop :=
  ∃ inner, inner.map (Prod.map Query.chain id) <:+: exchanges ∧
    Path (Proxy.resolve address).run inner (.ok resolution)

/-- The code of an account was asked for and came back. -/
def IsCodeOf (account : Text) (exchanges : List (Query × Reply)) (code : Bytecode) : Prop :=
  (Query.chain (.code account), Except.ok (.bytes code)) ∈ exchanges

/-- The report at a checkpoint tells what the exchanges say and no more. -/
structure Checkpoint.IsSound (address : Text) (exchanges : List (Query × Reply))
    (checkpoint : Checkpoint) : Prop where
  surveyed : checkpoint.report.address = address
  outcomes : checkpoint.report.outcomes = []
  decoded : checkpoint.report.decoded = []
  proxy : ∀ resolution, checkpoint.report.proxy = some resolution →
    IsResolved address exchanges resolution
  target : checkpoint.report.targetAddress = address ∨
    ∃ resolution, checkpoint.report.proxy = some resolution ∧ resolution.isProxy = true ∧
      checkpoint.report.targetAddress = resolution.implementationAddress
  code : ∀ code, checkpoint.code? = some code →
    IsCodeOf checkpoint.report.targetAddress exchanges code
  size : checkpoint.report.bytecodeSize = checkpoint.size
  count : checkpoint.report.selectorCount = checkpoint.count
  signatures : checkpoint.report.signatures.keys = checkpoint.listed

/-- Every reply of the chain is bytes, unless it is a fault. -/
def ChainIsBytes (exchanges : List (Query × Reply)) : Prop :=
  ∀ query reply, (Query.chain query, reply) ∈ exchanges → reply.HoldsBytes

theorem IsResolved.left {address : Text} {front : List (Query × Reply)}
    {resolution : Proxy.Resolution} (known : IsResolved address front resolution)
    (behind : List (Query × Reply)) : IsResolved address (front ++ behind) resolution := by
  obtain ⟨inner, within, path⟩ := known
  exact ⟨inner, within.trans (List.prefix_append front behind).isInfix, path⟩

theorem IsCodeOf.left {account : Text} {front : List (Query × Reply)} {code : Bytecode}
    (known : IsCodeOf account front code) (behind : List (Query × Reply)) :
    IsCodeOf account (front ++ behind) code :=
  List.mem_append_left behind known

/-- The code that the resolution of a proxy spells is the code of the implementation. -/
theorem IsResolved.isCodeOf {address : Text} {exchanges : List (Query × Reply)}
    {resolution : Proxy.Resolution} {code : Bytecode} (bytes : ChainIsBytes exchanges)
    (known : IsResolved address exchanges resolution) (proxied : resolution.isProxy = true)
    (spelled : implementationCode resolution = .ok code) :
    IsCodeOf resolution.implementationAddress exchanges code := by
  obtain ⟨inner, within, path⟩ := known
  have present : ∀ exchange ∈ inner, Prod.map Query.chain id exchange ∈ exchanges :=
    fun exchange member => within.subset (List.mem_map_of_mem member)
  obtain ⟨content, _, answered, marked⟩ := Proxy.exists_code_of_isProxy
    (fun exchange member => bytes _ _ (present exchange member)) path proxied
  rw [implementationCode_marked resolution content marked] at spelled
  cases spelled
  exact present _ answered

/-- Each step keeps what holds at checkpoints: it makes one entry and leaves the others. -/
theorem Advances.keeps {plan : Plan} {address : Text} {front behind : List (Query × Reply)}
    {checkpoint next : Checkpoint} (step : Advances plan checkpoint behind next)
    (bytes : ChainIsBytes (front ++ behind)) (sound : checkpoint.IsSound address front) :
    next.IsSound address (front ++ behind) := by
  have resolved : ∀ resolution, checkpoint.report.proxy = some resolution →
      IsResolved address (front ++ behind) resolution :=
    fun resolution held => (sound.proxy resolution held).left behind
  have coded : ∀ code, checkpoint.code? = some code →
      IsCodeOf checkpoint.report.targetAddress (front ++ behind) code :=
    fun code known => (sound.code code known).left behind
  cases step with
  | pass direct => exact { sound with proxy := resolved, code := coded }
  | @resolve report resolution inner follows unresolved path =>
      have searched : IsResolved address (front ++ inner.map (Prod.map Query.chain id))
          resolution := by
        rw [← sound.surveyed]
        exact ⟨inner, (List.suffix_append front _).isInfix, path⟩
      refine { sound with proxy := ?_, target := ?_, code := coded }
      · rintro _ ⟨⟩
        exact searched
      · rcases sound.target with itself | ⟨earlier, held, _⟩
        · exact Or.inl itself
        · cases unresolved.symm.trans held
  | @move report resolution code held proxied spelled =>
      refine { sound with proxy := resolved, target := ?_, code := ?_ }
      · exact Or.inr ⟨resolution, held, proxied, rfl⟩
      · rintro _ ⟨⟩
        exact (resolved resolution held).isCodeOf bytes proxied spelled
  | @fetch report code plain =>
      refine { sound with proxy := resolved, code := ?_ }
      rintro _ ⟨⟩
      exact List.mem_append_right front (List.mem_singleton_self _)
  | measure present => exact { sound with proxy := resolved, code := coded, size := rfl }
  | count => exact { sound with proxy := resolved, code := coded, count := rfl }
  | @describe report code infos inner path =>
      refine { sound with proxy := resolved, code := coded, signatures := ?_ }
      change (infos.map fun info => (info.selector, info)).map Prod.fst = code.selectors
      rw [List.map_map, ← describe_selectors path]
      rfl

/-- What holds at every checkpoint that a survey comes to. -/
theorem Reaches.isSound {plan : Plan} {address : Text} {exchanges : List (Query × Reply)}
    {checkpoint : Checkpoint} (reached : Reaches plan address exchanges checkpoint)
    (bytes : ChainIsBytes exchanges) : checkpoint.IsSound address exchanges := by
  induction reached with
  | start =>
      constructor
      case surveyed => rfl
      case outcomes => rfl
      case decoded => rfl
      case proxy =>
        intro resolution impossible
        cases impossible
      case target => exact Or.inl rfl
      case code =>
        intro code impossible
        cases impossible
      case size => rfl
      case count => rfl
      case signatures => rfl
  | later before step ih =>
      have earlier := ih fun query reply member =>
        bytes query reply (List.mem_append_left _ member)
      exact step.keeps bytes earlier

/-! ### The steps of a survey as checkpoints -/

/-- A survey has come to a checkpoint, and its next step has failed. -/
def IsInterruptedAt (plan : Plan) (address : Text) (exchanges : List (Query × Reply))
    (checkpoint : Checkpoint) (fault : Fault) : Prop :=
  ∃ front behind, exchanges = front ++ behind ∧ Reaches plan address front checkpoint ∧
    BreaksOff plan checkpoint behind fault

section Steps

variable {plan : Plan} {address : Text} {front behind : List (Query × Reply)}

private theorem fetch_cases {report : Report} {outcome : Except Interruption Value}
    (before : Reaches plan address front (.resolved report)) (plain : report.isProxy = false)
    (bytes : ChainIsBytes behind)
    (path : Path (Stage.ofChain report (Attempt.question (.code report.targetAddress))).run
      behind outcome) :
    (∃ code, outcome = .ok (.bytes code) ∧
      Reaches plan address (front ++ behind) (.located report code)) ∨
    ∃ fault, outcome = .error ⟨fault, report⟩ ∧
      IsInterruptedAt plan address (front ++ behind) (.resolved report) fault := by
  obtain ⟨inner, ended, rfl, asked, rfl⟩ := (Stage.path_ofChain_iff ..).mp path
  rw [(Attempt.path_question_iff ..).mp asked] at bytes ⊢
  cases ended with
  | ok value =>
      obtain ⟨code, rfl⟩ := bytes _ _ (List.mem_cons_self ..) value rfl
      exact Or.inl ⟨code, rfl, before.later (.fetch code plain)⟩
  | error fault => exact Or.inr ⟨fault, rfl, front, _, rfl, before, .fetch fault plain⟩

/-- A question for the code of the account itself ends the search for the code. -/
private theorem fetch_returns {report : Report} {outcome : Except Interruption (Report × Value)}
    (before : Reaches plan address front (.resolved report)) (plain : report.isProxy = false)
    (bytes : ChainIsBytes behind)
    (path : Path (do
      let code ← Stage.ofChain report (Attempt.question (.code report.targetAddress))
      return (report, code) : Stage (Report × Value)).run behind outcome) :
    (∃ code, outcome = .ok (report, .bytes code) ∧
      Reaches plan address (front ++ behind) (.located report code)) ∨
    ∃ fault, outcome = .error ⟨fault, report⟩ ∧
      IsInterruptedAt plan address (front ++ behind) (.resolved report) fault := by
  rcases (path_bind_iff ..).mp path with
    ⟨stop, rfl, stopped⟩ | ⟨value, asked, rest, rfl, given, ended⟩
  · rcases fetch_cases before plain bytes stopped with
      ⟨code, impossible, _⟩ | ⟨fault, same, broken⟩
    · cases impossible
    · cases same
      exact Or.inr ⟨fault, rfl, broken⟩
  · obtain ⟨rfl, rfl⟩ := (path_done_iff ..).mp ended
    rw [List.append_nil] at bytes ⊢
    rcases fetch_cases before plain bytes given with
      ⟨code, same, reached⟩ | ⟨fault, impossible, _⟩
    · cases same
      exact Or.inl ⟨code, rfl, reached⟩
    · cases impossible

/-- The search for the code comes to the checkpoint where the code is known, or is interrupted
at one before. -/
theorem locate_reaches {exchanges : List (Query × Reply)}
    {outcome : Except Interruption (Report × Value)}
    (allowed : ∀ query reply, (Query.chain query, reply) ∈ exchanges →
      Proxy.Allowed query reply)
    (path : Path (locate plan.followsProxy address).run exchanges outcome) :
    (∃ report code, outcome = .ok (report, .bytes code) ∧
      Reaches plan address exchanges (.located report code)) ∨
    ∃ checkpoint fault, outcome = .error ⟨fault, checkpoint.report⟩ ∧
      IsInterruptedAt plan address exchanges checkpoint fault := by
  have bytes : ChainIsBytes exchanges := fun query reply member => (allowed query reply member).1
  cases follows : plan.followsProxy with
  | false =>
      rw [follows] at path
      have passed : Reaches plan address [] (.resolved _) :=
        Reaches.start.later (.pass follows)
      rcases fetch_returns passed rfl bytes path with ⟨code, rfl, reached⟩ | ⟨fault, rfl, broken⟩
      · exact Or.inl ⟨_, code, rfl, reached⟩
      · exact Or.inr ⟨_, fault, rfl, broken⟩
  | true =>
      rw [follows] at path
      rcases (path_bind_iff ..).mp path with
        ⟨stop, _, stopped⟩ | ⟨resolution, searched, rest, rfl, resolved, onward⟩
      · obtain ⟨inner, ended, rfl, search, same⟩ := (Stage.path_ofChain_iff ..).mp stopped
        obtain ⟨resolution, rfl, _⟩ := Proxy.yields_resolve address inner _
          (fun exchange member => allowed _ _ (List.mem_map_of_mem member)) search
        cases same
      · obtain ⟨inner, rfl, search⟩ := (Stage.path_ofChain_ok_iff ..).mp resolved
        have found : Reaches plan address (inner.map (Prod.map Query.chain id)) (.resolved _) :=
          Reaches.start.later (.resolve follows rfl search)
        have ofRest : ChainIsBytes rest := fun query reply member =>
          bytes query reply (List.mem_append_right _ member)
        cases proxied : resolution.isProxy with
        | false =>
            rw [proxied, if_neg Bool.false_ne_true] at onward
            rcases fetch_returns found proxied ofRest onward with
              ⟨code, rfl, reached⟩ | ⟨fault, rfl, broken⟩
            · exact Or.inl ⟨_, code, rfl, reached⟩
            · exact Or.inr ⟨_, fault, rfl, broken⟩
        | true =>
            rw [proxied, if_pos rfl] at onward
            obtain ⟨code, _, _, marked⟩ := Proxy.exists_code_of_isProxy
              (fun exchange member => bytes _ _
                (List.mem_append_left rest (List.mem_map_of_mem member))) search proxied
            have spelled := implementationCode_marked resolution code marked
            rw [spelled] at onward
            rcases (path_bind_iff ..).mp onward with
              ⟨stop, _, stopped⟩ | ⟨read, none, last, rfl, given, ended⟩
            · obtain ⟨_, impossible⟩ := (path_done_iff ..).mp stopped
              cases impossible
            · obtain ⟨rfl, same⟩ := (Stage.path_ofExcept_ok_iff ..).mp given
              cases same
              obtain ⟨rfl, rfl⟩ := (path_done_iff ..).mp ended
              exact Or.inl ⟨_, code, rfl, found.later (.move rfl proxied spelled)⟩

/-- An inspection of known code is interrupted only in the middle of the descriptions. -/
theorem inspect_reaches {report : Report} {code : Bytecode} {stop : Interruption}
    (before : Reaches plan address front (.located report code))
    (path : Path (inspect plan.lookups report (.bytes code)).run behind (.error stop)) :
    ∃ checkpoint, stop.soFar = checkpoint.report ∧
      IsInterruptedAt plan address (front ++ behind) checkpoint stop.fault := by
  cases code with
  | nil =>
      rw [inspect_nil] at path
      obtain ⟨_, impossible⟩ := (path_done_iff ..).mp path
      cases impossible
  | cons first rest =>
      rw [inspect_cons] at path
      rcases (path_bind_iff ..).mp path with
        ⟨same, equal, stopped⟩ | ⟨infos, asked, last, _, _, ended⟩
      · cases equal
        obtain ⟨inner, ended, rfl, told, same⟩ := (Stage.path_ofSources_iff ..).mp stopped
        cases ended with
        | ok infos => cases same
        | error fault =>
            cases same
            have measured := before.later (.measure (List.cons_ne_nil first rest))
            have reached := measured.later .count
            rw [List.append_nil, List.append_nil] at reached
            exact ⟨_, rfl, front, _, rfl, reached, .describe told⟩
      · obtain ⟨_, impossible⟩ := (path_done_iff ..).mp ended
        cases impossible

/-- Steps that are interrupted are so at a checkpoint: making calls fails with no outside that
reports ordinary faults only. -/
theorem stages_reaches {exchanges : List (Query × Reply)} {stop : Interruption}
    (allowed : ∀ query reply, (Query.chain query, reply) ∈ exchanges →
      Proxy.Allowed query reply)
    (path : Path (stages plan address).run exchanges (.error stop)) :
    ∃ checkpoint, stop.soFar = checkpoint.report ∧
      IsInterruptedAt plan address exchanges checkpoint stop.fault := by
  rcases (path_bind_iff ..).mp path with
    ⟨early, equal, stopped⟩ | ⟨⟨located, value⟩, first, rest, rfl, found, onward⟩
  · cases equal
    rcases locate_reaches allowed stopped with
      ⟨report, code, impossible, _⟩ | ⟨checkpoint, fault, same, broken⟩
    · cases impossible
    · cases same
      exact ⟨checkpoint, rfl, broken⟩
  · have ofFirst : ∀ query reply, (Query.chain query, reply) ∈ first →
        Proxy.Allowed query reply :=
      fun query reply member => allowed query reply (List.mem_append_left rest member)
    rcases locate_reaches ofFirst found with
      ⟨report, code, same, reached⟩ | ⟨checkpoint, fault, impossible, _⟩
    · cases same
      rcases (path_bind_iff ..).mp onward with
        ⟨early, equal, stopped⟩ | ⟨report, second, third, rfl, _, calls⟩
      · cases equal
        exact inspect_reaches reached stopped
      · rcases (path_bind_iff ..).mp calls with
          ⟨early, equal, stopped⟩ | ⟨outcomes, fourth, fifth, rfl, _, ended⟩
        · have ordinary : ∀ exchange ∈ third,
              (∃ asked, exchange.1 = .chain asked) → exchange.2.IsOrdinary := by
            rintro ⟨query, reply⟩ member ⟨asked, rfl⟩
            exact (allowed asked reply (List.mem_append_right first
              (List.mem_append_right second member))).2
          obtain ⟨outcomes, impossible, _⟩ := yields_invoke _ _ _ third _ ordinary stopped
          cases impossible
        · obtain ⟨_, impossible⟩ := (path_done_iff ..).mp ended
          cases impossible
    · cases impossible

end Steps

/-! ### Interrupted surveys -/

/-- What a report that comes with a fault is like: it names no outcomes, and what else it
tells is what it was before anything was found out, or what the exchanges say. -/
structure IsPartial (exchanges : List (Query × Reply)) (report : Report) : Prop where
  outcomes : report.outcomes = []
  decoded : report.decoded = []
  proxy : report.proxy = none ∨ ∃ resolution, report.proxy = some resolution ∧
    IsResolved report.address exchanges resolution
  target : report.targetAddress ≠ report.address → ∃ resolution,
    report.proxy = some resolution ∧ resolution.isProxy = true ∧
      report.targetAddress = resolution.implementationAddress
  size : report.bytecodeSize = 0 ∨ ∃ code : Bytecode,
    IsCodeOf report.targetAddress exchanges code ∧ report.bytecodeSize = code.length
  count : 0 < report.selectorCount → ∃ code : Bytecode,
    IsCodeOf report.targetAddress exchanges code ∧ report.bytecodeSize = code.length ∧
      report.selectorCount = code.selectors.length
  signatures : report.signatures = [] ∨
    (report.signatures.length : Int) = report.selectorCount

theorem Checkpoint.IsSound.isPartial {address : Text} {front : List (Query × Reply)}
    {checkpoint : Checkpoint} (sound : checkpoint.IsSound address front)
    (behind : List (Query × Reply)) : IsPartial (front ++ behind) checkpoint.report := by
  have coded : ∀ code, checkpoint.code? = some code →
      IsCodeOf checkpoint.report.targetAddress (front ++ behind) code :=
    fun code known => (sound.code code known).left behind
  constructor
  case outcomes => exact sound.outcomes
  case decoded => exact sound.decoded
  case proxy =>
    cases held : checkpoint.report.proxy with
    | none => exact Or.inl rfl
    | some resolution =>
        rw [sound.surveyed]
        exact Or.inr ⟨resolution, rfl, (sound.proxy resolution held).left behind⟩
  case target =>
    intro moved
    rw [sound.surveyed] at moved
    exact sound.target.resolve_left moved
  case size =>
    rw [sound.size]
    cases checkpoint with
    | begun | resolved | located => exact Or.inl rfl
    | measured _ code | counted _ code | described _ code =>
        exact Or.inr ⟨code, coded code rfl, rfl⟩
  case count =>
    rw [sound.size, sound.count]
    intro counts
    cases checkpoint with
    | begun | resolved | located | measured => cases counts
    | counted _ code | described _ code => exact ⟨code, coded code rfl, rfl, rfl⟩
  case signatures =>
    have keys := sound.signatures
    cases checkpoint with
    | begun | resolved | located | measured | counted =>
        exact Or.inl (List.map_eq_nil_iff.mp keys)
    | described report code =>
        right
        rw [sound.count, ← List.length_map Prod.fst]
        exact congrArg (fun listed => (listed.length : Int)) keys

theorem eq_of_failure_eq_interrupted {stop : Interruption} {fault : Fault} {soFar : Report}
    (same : stop.failure = .interrupted fault soFar) :
    fault = stop.fault ∧ soFar = stop.soFar ∧ fault.isInput = false := by
  unfold Interruption.failure at same
  split at same
  · cases same
  · rename_i passes
    cases same
    simp only [Bool.or_eq_true, not_or, Bool.not_eq_true] at passes
    exact ⟨rfl, rfl, passes.1⟩

/-- A survey that is interrupted was sent to an address, and not by a fault of its input.  The
report that comes with the fault is the one at the checkpoint whose next step has failed, and
it tells nothing that the exchanges do not say. -/
theorem survey_interruption_isPartial {plan : Plan} {address : Value}
    {exchanges : List (Query × Reply)} {fault : Fault} {soFar : Report}
    (allowed : ∀ query reply, (Query.chain query, reply) ∈ exchanges →
      Proxy.Allowed query reply)
    (path : Path (survey plan address) exchanges (.error (.interrupted fault soFar))) :
    (∃ text bytes, address = .text text ∧ bytes.length = Address.byteCount ∧
      Hex.Spells (Hex.dropMarker (Text.stripped text)) bytes ∧
      soFar.address = Address.checksummed (Hex.ofBytes bytes)) ∧
    (∃ checkpoint, soFar = checkpoint.report ∧
      IsInterruptedAt plan soFar.address exchanges checkpoint fault) ∧
    IsPartial exchanges soFar ∧ fault.isInput = false := by
  cases valid : Address.validateValue? address with
  | none =>
      unfold survey at path
      rw [valid] at path
      obtain ⟨_, impossible⟩ := (path_done_iff ..).mp path
      cases impossible
  | some checksummed =>
      obtain ⟨text, rfl⟩ : ∃ text, address = .text text := by
        cases address with
        | text content => exact ⟨content, rfl⟩
        | _ => cases valid
      obtain ⟨bytes, twenty, spells, spelled⟩ := Address.exists_spells_of_validate? valid
      rw [survey_of_valid plan valid] at path
      obtain ⟨outcome, steps, same⟩ := (path_andThen_done_iff ..).mp path
      cases outcome with
      | ok report => cases same
      | error stop =>
          obtain ⟨rfl, rfl, otherwise⟩ :=
            eq_of_failure_eq_interrupted (Except.error.inj same.symm)
          obtain ⟨checkpoint, entered, broken⟩ := stages_reaches allowed steps
          obtain ⟨front, behind, rfl, reached, fails⟩ := broken
          have sound := reached.isSound fun query reply member =>
            (allowed query reply (List.mem_append_left behind member)).1
          have named : stop.soFar.address = checksummed := by
            rw [entered]
            exact sound.surveyed
          refine ⟨⟨text, bytes, rfl, twenty, spells, named.trans spelled⟩, ?_, ?_, otherwise⟩
          · rw [named]
            exact ⟨checkpoint, entered, front, behind, rfl, reached, fails⟩
          · rw [entered]
            exact sound.isPartial behind

/-- A proxy whose implementation has two functions, of which a source names the first one and
gives a number for the second. -/
def halfDescribed : Query → Reply
  | .chain (.storage _ _) => .ok (.bytes (List.replicate 32 0x33))
  | .chain (.code _) => .ok (.bytes [0x63, 1, 2, 3, 4, 0x63, 5, 6, 7, 8])
  | .chain (.call _ _ _) => .error (.status 404)
  | .signature (.source _ selector) =>
      .ok (if selector = "0x01020304".toList then .text "total()".toList else .int 5)
  | .signature (.page _ _) => .error (.status 404)

private theorem halfDescribed_allowed (query : Chain.Query) :
    Proxy.Allowed query (halfDescribed (.chain query)) := by
  unfold Proxy.Allowed
  cases query <;> simp [halfDescribed, Fault.isFatal]

/-- The report that comes with the fault of a survey that was interrupted. -/
def interruptedReport? : Except Failure Report → Option Report
  | .error (.interrupted _ soFar) => some soFar
  | _ => none

theorem survey_halfDescribed_isPartial :
    let plan : Plan := { lookups := [Signature.sourceLookup 0], followsProxy := true }
    let dialogue := survey plan (.text ("0x".toList ++ List.replicate 40 'a'))
    let exchanges := (dialogue.asked halfDescribed).map fun query =>
      (query, halfDescribed query)
    (∀ query reply, (Query.chain query, reply) ∈ exchanges → Proxy.Allowed query reply) ∧
      ∃ fault soFar, Path dialogue exchanges (.error (.interrupted fault soFar)) ∧
        IsPartial exchanges soFar ∧
        soFar.targetAddress = "0x".toList ++ List.replicate 40 '3' ∧
        (soFar.bytecodeSize, soFar.selectorCount, soFar.signatures) = (10, 2, []) := by
  intro plan dialogue exchanges
  have allowed : ∀ query reply, (Query.chain query, reply) ∈ exchanges →
      Proxy.Allowed query reply := by
    intro query reply member
    rw [eq_reply_of_mem member]
    exact halfDescribed_allowed query
  have path := path_answeredBy halfDescribed dialogue
  have shown : (interruptedReport? (dialogue.answeredBy halfDescribed)).map (fun soFar =>
        (soFar.targetAddress, soFar.bytecodeSize, soFar.selectorCount, soFar.signatures)) =
      some ("0x".toList ++ List.replicate 40 '3', 10, 2, []) := by
    decide +kernel
  refine ⟨allowed, ?_⟩
  cases ended : dialogue.answeredBy halfDescribed with
  | ok report =>
      rw [ended] at shown
      cases shown
  | error failure =>
      rw [ended] at shown path
      cases failure with
      | passedOn fault => cases shown
      | interrupted fault soFar =>
          obtain ⟨target, told⟩ := Prod.mk.inj (Option.some.inj shown)
          obtain ⟨_, _, isPartial, _⟩ := survey_interruption_isPartial allowed path
          exact ⟨fault, soFar, path, isPartial, target, told⟩

end Analysis
end ContractSurvey
