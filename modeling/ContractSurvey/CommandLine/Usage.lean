/-
Usage and help.

The usage names the program and its arguments, broken into lines that are not longer
than a terminal of usual width.  Help repeats it and says what every argument does.
-/

import ContractSurvey.CommandLine.Choice

namespace ContractSurvey
namespace CommandLine
namespace Usage

/-- The number of characters that a line may have. -/
def lineWidth : Nat := 78

/-- The words in front of a usage. -/
def opening : Text := "usage: ".toList

/-- The choices as a usage shows them. -/
def choiceParts : List Text :=
  ["[-h]".toList, "[--network NETWORK]".toList, "[--rpc RPC]".toList, "[--proxy]".toList,
    "[--batch]".toList, "[--json JSON]".toList, "[--debug]".toList]

def addressPart : Text := "address".toList

/-- Breaks parts into lines.  The line so far ends at a column, and every later line
begins at a margin. -/
def broken (margin column : Nat) (line : List Text) : List Text → List Text
  | [] => if line.isEmpty then [] else [Text.joined [' '] line]
  | part :: rest =>
      if !line.isEmpty && lineWidth < column + 1 + part.length then
        Text.joined [' '] line :: broken margin (margin + part.length) [part] rest
      else broken margin (column + 1 + part.length) (line ++ [part]) rest

def indented (margin : Nat) (line : Text) : Text :=
  List.replicate margin ' ' ++ line

/-- The longest opening, program name included, behind which arguments may stand. -/
def longestOpening : Nat := 58

def lines (program : Text) : List Text :=
  if opening.length + program.length ≤ longestOpening then
    let margin := opening.length + program.length + 1
    match broken margin (opening.length - 1) [] (program :: choiceParts) with
    | [] => []
    | first :: rest =>
        (opening ++ first) :: (rest ++ [addressPart]).map (indented margin)
  else
    let margin := opening.length
    (opening ++ program) ::
      (broken margin (margin - 1) [] choiceParts ++ [addressPart]).map (indented margin)

def text (program : Text) : Text :=
  Text.joined ['\n'] (lines program) ++ ['\n']

/-- What help says behind the usage. -/
def explanation : List String :=
  ["",
    "Analyze a deployed EVM contract without ABI or source code",
    "",
    "positional arguments:",
    "  address            Contract address to analyze",
    "",
    "options:",
    "  -h, --help         show this help message and exit",
    "  --network NETWORK  Network to analyze on (ETH, BSC, AVAX, BASE, BLAST,",
    "                     ARBITRUM); probes all networks when omitted (env:",
    "                     NETWORK)",
    "  --rpc RPC          Explicit RPC URL (overrides --network)",
    "  --proxy            Resolve an EIP-1967 proxy and analyze its implementation",
    "  --batch            Batch calls through Multicall3 (no revert reasons)",
    "  --json JSON        Also save the report as JSON to this path",
    "  --debug            Enable debug mode to log to file (default: False)",
    "",
    "Environment Variables (can also be set in .env file):",
    "  <NETWORK>_RPC_URL     RPC endpoint override per network (e.g. ETH_RPC_URL, BSC_RPC_URL)",
    "  CALL_SENDER           Sender address used for read calls",
    "  MULTICALL3_ADDRESS    Aggregator address used with --batch",
    "  MAX_CONCURRENT_CALLS  Concurrent eth_call limit (default: 8)",
    "",
    "Priority: Command-line arguments > Environment variables > Defaults",
    "        "]

def help (program : Text) : Text :=
  text program ++ explanation.flatMap fun line => line.toList ++ ['\n']

def complaint (program message : Text) : Text :=
  text program ++ program ++ ": error: ".toList ++ message ++ ['\n']

end Usage
end CommandLine
end ContractSurvey
