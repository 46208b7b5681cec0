/-
The program.

Questions are written to standard output and replies are read from standard input, a
line each.  When the survey ends, its report follows on standard output.
-/

import ContractSurvey.CommandLine.Command
import ContractSurvey.Gateway

namespace ContractSurvey
namespace Program

/-- The name by which the program calls itself. -/
def name : Text := "contract-survey".toList

def logName : Text := "contract-survey.log".toList

/-- Writes a question and reads the reply. -/
def exchange (question : Value) : IO Text := do
  let target ← IO.getStdout
  target.putStrLn (String.ofList (Json.line question))
  target.flush
  let reply ← (← IO.getStdin).getLine
  return reply.toList

/-- Answers a question of the command through the gateway. -/
def respond (settings : Settings) : CommandLine.Query → IO Reply
  | .connect _ => return .ok .null
  | .chain network query =>
      (Chain.Client.answer query).runIn fun request => do
        let written ← exchange (Gateway.chainQuestion settings.chainTimeout network request)
        return Gateway.chainReply network written
  | .signature (.page service selector) => do
      let written ← exchange (Gateway.pageQuestion settings.lookupTimeout service selector)
      return Gateway.pageReply service written
  | .signature (.source _ selector) => return .ok (.text selector)

/-- The texts of the environment that the command looks up. -/
def environment : IO Environment := do
  let found ← CommandLine.variableNames.mapM fun key => do
    let content ← IO.getEnv (String.ofList key)
    return content.map fun content => (key, content.toList)
  return found.filterMap id

def keepLog (logName : Text) : IO Unit := do
  IO.FS.createDirAll (String.ofList CommandLine.logDirectory)
  IO.FS.writeFile (String.ofList (CommandLine.logDirectory ++ '/' :: logName)) ""

/-- Does what an outcome says and gives the exit code. -/
def perform (outcome : CommandLine.Outcome) : IO UInt32 := do
  if let some logName := outcome.log then keepLog logName
  IO.print (String.ofList outcome.printed)
  IO.eprint (String.ofList outcome.complaint)
  if let some document := outcome.document then
    IO.FS.writeFile (String.ofList document.path) (String.ofList document.content)
  match outcome.ending with
  | .exited code => return UInt32.ofNat code
  | .escaped fault =>
      IO.eprintln (String.ofList fault.message)
      return 1

/-- Surveys the contract that the arguments name. -/
def run (arguments : List String) : IO UInt32 := do
  let surroundings := CommandLine.Surroundings.ofEnvironment name logName (← environment)
  let outcome ← (CommandLine.run surroundings (arguments.map String.toList)).runIn
    (respond surroundings.settings)
  perform outcome

end Program
end ContractSurvey

/-- Runs the program with its arguments. -/
def main (arguments : List String) : IO UInt32 :=
  ContractSurvey.Program.run arguments
