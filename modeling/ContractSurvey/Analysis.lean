/-
Surveying a contract.

A survey finds the code, collects its selectors, resolves them to signatures, makes
the calls that need no arguments and decodes what they return.  It fills a report as
it goes.  When a step fails, the report as far as it was filled comes with the
failure, except that a malformed input and a fatal fault are passed on as they are.
-/

import ContractSurvey.Call.Batch
import ContractSurvey.Call.Parallel
import ContractSurvey.Instruction.Scanner
import ContractSurvey.Report.Basic
import ContractSurvey.ReturnData
import ContractSurvey.Settings
import ContractSurvey.Signature.Resolver

namespace ContractSurvey
namespace Analysis

/-- How a survey is made. -/
structure Plan where
  sender : Option Text := some ({} : Settings).sender
  lookups : List Signature.Lookup := Signature.defaultLookups
  aggregator : Text := Settings.defaultAggregator
  callLimit : Int := ({} : Settings).callLimit
  schedule : Pool.Schedule := []
  followsProxy : Bool := false
  usesBatch : Bool := false

/-- A question that a survey asks. -/
inductive Query
  | chain (query : Chain.Query)
  | signature (query : Signature.Query)
  deriving DecidableEq

/-- A fault with the report as far as it was filled. -/
structure Interruption where
  fault : Fault
  soFar : Report

/-- A step of a survey. -/
abbrev Stage := ExceptT Interruption (Dialogue Query)

namespace Stage

def ofExcept {Result : Type} (soFar : Report) (work : Except Fault Result) : Stage Result :=
  ExceptT.mk (.done (work.mapError fun fault => ⟨fault, soFar⟩))

def ofChain {Result : Type} (soFar : Report) (work : Attempt Chain.Query Result) :
    Stage Result :=
  ExceptT.mk ((work.run.via fun query => Dialogue.question (.chain query)).andThen
    fun outcome => .done (outcome.mapError fun fault => ⟨fault, soFar⟩))

def ofSources {Result : Type} (soFar : Report)
    (work : Dialogue Signature.Query (Except Fault Result)) : Stage Result :=
  ExceptT.mk ((work.via fun query => Dialogue.question (.signature query)).andThen
    fun outcome => .done (outcome.mapError fun fault => ⟨fault, soFar⟩))

end Stage

def implementationCode (resolution : Proxy.Resolution) : Except Fault (List UInt8) :=
  (Hex.read (resolution.implementationBytecode.drop 2)).mapError Fault.implementationText

/-- Finds the account whose code is surveyed, and the code. -/
def locate (followsProxy : Bool) (address : Text) : Stage (Report × Value) := do
  let empty : Report := { address := address, targetAddress := address }
  if followsProxy then
    let resolution ← Stage.ofChain empty (Proxy.resolve address)
    let seen := { empty with proxy := some resolution }
    if resolution.isProxy then
      let moved := { seen with targetAddress := resolution.implementationAddress }
      let code ← Stage.ofExcept moved (implementationCode resolution)
      return (moved, .bytes code)
    else
      let code ← Stage.ofChain seen (Attempt.question (.code address))
      return (seen, code)
  else
    let code ← Stage.ofChain empty (Attempt.question (.code address))
    return (empty, code)

/-- Resolves and classifies selectors one after another. -/
def describe (lookups : List Signature.Lookup) (cache : Signature.Cache) :
    List Text → Dialogue Signature.Query (Except Fault (List Signature.Info))
  | [] => .done (.ok [])
  | selector :: rest =>
      (Signature.resolve lookups cache selector).andThen fun (outcome, later) =>
        match outcome.bind (Signature.classifyValue selector) with
        | .error fault => .done (.error fault)
        | .ok info =>
            (describe lookups later rest).andThen fun others =>
              .done (others.map (info :: ·))

/-- Collects and describes the functions of code that was found. -/
def inspect (lookups : List Signature.Lookup) (located : Report) (code : Value) :
    Stage Report := do
  if !code.isPresent then return { located with isContract := false }
  let size ← Stage.ofExcept located (Fault.ofMisuse code.length)
  let sized := { located with bytecodeSize := (size : Int) }
  let bytecode ←
    Stage.ofExcept sized ((Bytecode.ofValue code).mapError Fault.bytecode)
  let selectors := Bytecode.selectors bytecode
  let counted := { sized with selectorCount := (selectors.length : Int) }
  let infos ← Stage.ofSources counted (describe lookups [] selectors)
  return { counted with
    signatures := infos.map fun info => (info.selector, info) }

/-- The calls that a report asks for: one to the target for each function that can be
called. -/
def requests (report : Report) : List Call.Request :=
  (report.signatures.filter fun (_, info) => info.isCallable).map fun (selector, _) =>
    { target := report.targetAddress, data := selector }

/-- Makes calls in the way that a plan asks for. -/
def invoke (plan : Plan) (report : Report) (calls : List Call.Request) :
    Stage (List Call.Outcome) :=
  if calls.isEmpty then return []
  else if plan.usesBatch then
    Stage.ofChain report (Call.Batch.outcomesThrough plan.aggregator calls)
  else
    Stage.ofChain report (ExceptT.mk
      ((Call.parallel plan.callLimit plan.schedule plan.sender calls).andThen
        fun outcomes => .done (.ok outcomes)))

/-- Enters outcomes and what they decode to. -/
def conclude (report : Report) (outcomes : List Call.Outcome) : Report :=
  { report with
    outcomes := Register.ofEntries
      (outcomes.map fun outcome => (outcome.selector, outcome))
    decoded := Register.ofEntries
      ((outcomes.filter (·.succeeded)).map fun outcome =>
        (outcome.selector, ReturnData.decode (.spelled outcome.returnData))) }

/-- The steps of a survey of a checksummed address. -/
def stages (plan : Plan) (address : Text) : Stage Report := do
  let (located, code) ← locate plan.followsProxy address
  let inspected ← inspect plan.lookups located code
  let outcomes ← invoke plan inspected (requests inspected)
  return conclude inspected outcomes

/-- The ways in which a survey fails. -/
inductive Failure
  | passedOn (fault : Fault)
  /-- A step failed, and the report was filled so far. -/
  | interrupted (fault : Fault) (soFar : Report)

/-- The message of a failed survey. -/
def Failure.message : Failure → Text
  | .passedOn fault => fault.message
  | .interrupted fault soFar =>
      "Analysis of ".toList ++ soFar.address ++ " failed: ".toList ++ fault.message

def Interruption.failure (interruption : Interruption) : Failure :=
  if interruption.fault.isInput || interruption.fault.isFatal then
    .passedOn interruption.fault
  else .interrupted interruption.fault interruption.soFar

def survey (plan : Plan) (address : Value) : Dialogue Query (Except Failure Report) :=
  match Address.validateValue? address with
  | none => .done (.error (.passedOn (.notAnAddress address)))
  | some checksummed =>
      (stages plan checksummed).run.andThen fun outcome =>
        .done (outcome.mapError Interruption.failure)

end Analysis
end ContractSurvey
