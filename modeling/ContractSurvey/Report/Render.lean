/-
Reports as plain text.

A header names the contract and counts what was found.  A block per function follows:
first the callable ones, with the metadata of tokens in front of the others, then
those that want arguments.  Blocks are separated by empty lines and the text ends with
one line break.  The text is a list of code points, since a signature may hold half of a
surrogate pair; a replacement character stands for such a half where the text is printed.
-/

import ContractSurvey.Report.Basic

namespace ContractSurvey
namespace Report

/-- The selectors of the functions that describe a token: its name, symbol, decimals
and total supply. -/
def tokenSelectors : List Text :=
  ["0x06fdde03".toList, "0x95d89b41".toList, "0x313ce567".toList, "0x18160ddd".toList]

/-- A text that is present and not empty. -/
def filled? {Letter : Type} : Option (List Letter) → Option (List Letter)
  | some (first :: rest) => some (first :: rest)
  | _ => none

/-- The line that names a function. -/
def heading (function : Function) : List Nat :=
  Text.codes (function.selector ++ " ".toList) ++
    (filled? function.signature).getD (Text.codes "unknown".toList)

/-- The line that shows what a call gave. -/
def showing (shown : Text) : List Nat :=
  Text.codes ("  -> ".toList ++ shown)

/-- The lines of a callable function: its decoded value, or else the reason why it
has none. -/
def callableBlock (function : Function) : List (List Nat) :=
  let result :=
    match filled? function.decoded, filled? function.revert with
    | some decoded, _ => [showing decoded]
    | none, some reason => [showing reason]
    | none, none => []
  heading function :: result ++ [[]]

/-- The lines of a function that wants arguments. -/
def nonCallableBlock (function : Function) : List (List Nat) :=
  [heading function, []]

def shownCallable (report : Report) : List Function :=
  let listed := report.callable
  tokenSelectors.filterMap (fun selector =>
      listed.find? fun function => function.selector == selector) ++
    listed.filter fun function => !tokenSelectors.contains function.selector

/-- The lines that name the contract. -/
def titleLines (report : Report) : List Text :=
  if report.isProxy then
    ["Proxy Contract: ".toList ++ report.address,
      "Implementation: ".toList ++ report.targetAddress, []]
  else ["Contract: ".toList ++ report.address, []]

/-- The lines that count what was found. -/
def statisticsLines (report : Report) : List Text :=
  ["Statistics:".toList,
    "Bytecode size: ".toList ++ Numeral.ofInt report.bytecodeSize ++ " bytes".toList,
    "Total selectors: ".toList ++ Numeral.ofInt report.selectorCount, []]

def lines (report : Report) : List (List Nat) :=
  (report.titleLines ++ report.statisticsLines).map Text.codes ++
    report.shownCallable.flatMap callableBlock ++
    report.nonCallable.flatMap nonCallableBlock

/-- The text of a report by its code points.  What is not a contract is said in a single
line without a line break. -/
def written (report : Report) : List Nat :=
  if report.isContract then
    Text.trimEnd Text.isBlankCode (Text.joined (Text.codes ['\n']) report.lines) ++
      Text.codes ['\n']
  else
    Text.codes ("Contract ".toList ++ report.targetAddress ++
      " was not found (no code at address)".toList)

/-- The text of a report as it is printed. -/
def render (report : Report) : Text :=
  Text.ofCodes report.written

end Report
end ContractSurvey
