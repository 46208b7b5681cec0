/-
The command.

The command validates an address, chooses a network, surveys the contract there and
prints the report.  The network is the one behind a given server, the one that is
named, or else the first known one that has code at the address.  What the command
does is an outcome: the text it prints, the document it saves, and how it ends.
-/

import ContractSurvey.Analysis
import ContractSurvey.CommandLine.Arguments
import ContractSurvey.CommandLine.Usage
import ContractSurvey.Network
import ContractSurvey.Report.Document
import ContractSurvey.Report.Render

namespace ContractSurvey
namespace CommandLine

/-- What the command goes by besides its arguments. -/
structure Surroundings where
  program : Text
  logName : Text
  settings : Settings := {}
  networks : List Network := Network.known []
  networkName : Option Text := none
  probeSchedule : Pool.Schedule := []
  callSchedule : Pool.Schedule := []

def networkVariable : Text := "NETWORK".toList

def Surroundings.ofEnvironment (program logName : Text) (environment : Environment) :
    Surroundings :=
  { program := program
    logName := logName
    settings := Settings.ofEnvironment environment
    networks := Network.known environment
    networkName := environment.get? networkVariable }

/-- The names of the texts that a program looks up in its environment. -/
def variableNames : List Text :=
  networkVariable :: Settings.variableNames ++ Network.variableNames

/-- A question that the command asks. -/
inductive Query
  | connect (network : Network)
  | chain (network : Network) (query : Chain.Query)
  | signature (query : Signature.Query)
  deriving DecidableEq

def Query.ofProbe : Network.Query → Query
  | .connect network => .connect network
  | .chain network query => .chain network query

def Query.ofSurvey (network : Network) : Analysis.Query → Query
  | .chain query => .chain network query
  | .signature query => .signature query

inductive Ending
  | exited (code : Nat)
  /-- A fault is passed on to whoever runs the command. -/
  | escaped (fault : Fault)

/-- A document to save under a path. -/
structure Document where
  path : Text
  content : Text
  deriving DecidableEq

def logDirectory : Text := "output".toList

/-- What the command does.  A log has a name in the directory of logs. -/
structure Outcome where
  printed : Text := []
  complaint : Text := []
  document : Option Document := none
  log : Option Text := none
  ending : Ending

namespace Outcome

/-- Success. -/
def succeededCode : Nat := 0

/-- There is no contract to survey. -/
def notFoundCode : Nat := 1

/-- The survey failed, or the arguments were refused. -/
def failedCode : Nat := 2

/-- Lines as they are printed. -/
def linesText (lines : List Text) : Text :=
  lines.flatMap fun line => line ++ ['\n']

/-- Prints lines and ends with an exit code. -/
def said (lines : List Text) (code : Nat) : Outcome :=
  { printed := linesText lines, ending := .exited code }

/-- Prints lines in front of what else is printed. -/
def after (lines : List Text) (outcome : Outcome) : Outcome :=
  { outcome with printed := linesText lines ++ outcome.printed }

/-- The outcome of a finished survey. -/
def ofReport (path : Option Text) (report : Report) : Outcome :=
  { printed := linesText [report.render]
    document := path.map fun path => { path := path, content := report.document }
    ending := .exited (if report.isContract then succeededCode else notFoundCode) }

/-- The outcome of a failed survey. -/
def ofFailure : Analysis.Failure → Outcome
  | .passedOn fault => { ending := .escaped fault }
  | .interrupted _ soFar =>
      said ("Undefined error during decompilation!".toList ::
        if soFar.selectorCount = 0 then []
        else ["Selectors found before the failure: ".toList ++
          Numeral.ofInt soFar.selectorCount]) failedCode

end Outcome

/-- The choice of a network. -/
inductive Selection
  /-- No network goes by the name. -/
  | unknown (name : Text)
  /-- No network has code at the address. -/
  | absent
  | chosen (network : Network) (followsProxy : Bool) (lines : List Text)

def unknownNetwork (networks : List Network) (name : Text) : Text :=
  "Unknown network ".toList ++ Text.quoted name ++ " (supported: ".toList ++
    Text.joined ", ".toList (networks.map Network.name) ++ [')']

def listed (check : Network.Check) : Text :=
  check.network ++ (if check.isProxy then " (proxy)".toList else " (single)".toList)

/-- What is said about the networks in which an address was found, the first of which
is used. -/
def foundLines (first : Network.Check) (others : List Network.Check) : List Text :=
  (if others.isEmpty then []
    else ["Address found in multiple networks: ".toList ++
      Text.joined ", ".toList ((first :: others).map listed) ++ ". Using ".toList ++
      first.network ++ ['.']]) ++
  ["Address found on ".toList ++ first.network ++
    (if first.isProxy then ": Proxy Contract".toList else ": Single Contract".toList)] ++
  (if first.isProxy then ["Implementation: ".toList ++ first.implementation] else [])

/-- The choice among networks that were checked. -/
def selectFound (followsProxy : Bool) (checked : List (Network × Network.Check)) :
    Selection :=
  match checked.filter fun (_, check) => check.isContract with
  | [] => .absent
  | (network, first) :: others =>
      .chosen network (first.isProxy || followsProxy)
        (foundLines first (others.map Prod.snd))

/-- The network behind a server that a person names. -/
def customNetwork (url : Text) : Network :=
  { name := "custom".toList, chainNumber := 0, serverUrl := url }

def given? : Option Text → Option Text
  | some (first :: rest) => some (first :: rest)
  | _ => none

/-- Chooses the network on which an address is surveyed. -/
def select (surroundings : Surroundings) (options : Options) (address : Text) :
    Attempt Query Selection :=
  match given? options.server with
  | some url => return .chosen (customNetwork url) options.followsProxy []
  | none =>
      match given? (options.network <|> surroundings.networkName) with
      | some name =>
          match Network.named? surroundings.networks name with
          | some network => return .chosen network options.followsProxy []
          | none => return .unknown name
      | none => do
          let checks ← ExceptT.mk
            ((Network.probe surroundings.settings.callLimit surroundings.probeSchedule address
              surroundings.networks).run.via fun query => Dialogue.question (.ofProbe query))
          return selectFound options.followsProxy (surroundings.networks.zip checks)

/-- How a survey in a network is made. -/
def plan (surroundings : Surroundings) (options : Options) (network : Network)
    (followsProxy : Bool) : Analysis.Plan :=
  { sender := some surroundings.settings.sender
    aggregator := network.aggregator
    callLimit := surroundings.settings.callLimit
    schedule := surroundings.callSchedule
    followsProxy := followsProxy
    usesBatch := options.usesBatch }

def surveyIn (surroundings : Surroundings) (options : Options) (address : Text)
    (network : Network) (followsProxy : Bool) : Dialogue Query Outcome :=
  .ask (.connect network) fun reply =>
    match reply with
    | .error fault => .done { ending := .escaped fault }
    | .ok _ =>
        ((Analysis.survey (plan surroundings options network followsProxy)
          (.text address)).via fun query => Dialogue.question (.ofSurvey network query)).andThen
          fun found =>
            match found with
            | .ok report => .done (Outcome.ofReport options.document report)
            | .error failure => .done (Outcome.ofFailure failure)

def surveyValid (surroundings : Surroundings) (options : Options) (address : Text) :
    Dialogue Query Outcome :=
  (select surroundings options address).run.andThen fun selected =>
    match selected with
    | .error fault => .done { ending := .escaped fault }
    | .ok (.unknown name) =>
        .done (Outcome.said [unknownNetwork surroundings.networks name] Outcome.notFoundCode)
    | .ok .absent =>
        .done (Outcome.said ["Address not found: ".toList ++ address ++
          " is not a smart contract in any supported network.".toList] Outcome.notFoundCode)
    | .ok (.chosen network followsProxy lines) =>
        (surveyIn surroundings options address network followsProxy).andThen fun outcome =>
          .done (outcome.after lines)

/-- Surveys what a person names as an address. -/
def conduct (surroundings : Surroundings) (address : Text) (options : Options) :
    Dialogue Query Outcome :=
  match Address.validate? address with
  | none =>
      .done (Outcome.said ["Invalid EVM address: ".toList ++ address] Outcome.notFoundCode)
  | some checksummed => surveyValid surroundings options checksummed

def run (surroundings : Surroundings) (arguments : List Text) : Dialogue Query Outcome :=
  match read arguments with
  | .help =>
      .done { printed := Usage.help surroundings.program, ending := .exited 0 }
  | .refused refusal =>
      .done {
        complaint := Usage.complaint surroundings.program refusal.message
        ending := .exited Outcome.failedCode }
  | .survey address options =>
      (conduct surroundings address options).andThen fun outcome =>
        .done { outcome with
          log := if options.keepsLog then some surroundings.logName else none }

end CommandLine
end ContractSurvey
