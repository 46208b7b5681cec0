import ContractSurvey.Abi.Reading
import ContractSurvey.Abi.Word
import ContractSurvey.Abi.Writing
import ContractSurvey.Address
import ContractSurvey.Analysis
import ContractSurvey.Binary64
import ContractSurvey.Bytecode
import ContractSurvey.Call.Basic
import ContractSurvey.Call.Batch
import ContractSurvey.Call.Parallel
import ContractSurvey.Chain.Client
import ContractSurvey.Chain.Query
import ContractSurvey.CommandLine.Arguments
import ContractSurvey.CommandLine.Choice
import ContractSurvey.CommandLine.Command
import ContractSurvey.CommandLine.Usage
import ContractSurvey.Dialogue
import ContractSurvey.Fault
import ContractSurvey.Gateway
import ContractSurvey.Hex
import ContractSurvey.Instruction.Basic
import ContractSurvey.Instruction.Scanner
import ContractSurvey.Json.Encoded
import ContractSurvey.Json.Printer
import ContractSurvey.Json.Reader
import ContractSurvey.Keccak
import ContractSurvey.Main
import ContractSurvey.Network
import ContractSurvey.Numeral
import ContractSurvey.Opcode
import ContractSurvey.Pool
import ContractSurvey.Proxy
import ContractSurvey.Register
import ContractSurvey.Report.Basic
import ContractSurvey.Report.Document
import ContractSurvey.Report.Render
import ContractSurvey.ReturnData
import ContractSurvey.RevertReason
import ContractSurvey.Settings
import ContractSurvey.Signature.Info
import ContractSurvey.Signature.Resolver
import ContractSurvey.Signature.Service
import ContractSurvey.Text.Basic
import ContractSurvey.Text.Blank
import ContractSurvey.Text.Cased
import ContractSurvey.Text.CodePoint
import ContractSurvey.Text.Digit
import ContractSurvey.Text.Printable
import ContractSurvey.Text.Quoted
import ContractSurvey.Text.Small
import ContractSurvey.Text.Utf8
import ContractSurvey.Text.Wide
import ContractSurvey.Value.Basic
import ContractSurvey.Value.Misuse
import ContractSurvey.Proofs.Dialogue.Path
import ContractSurvey.Proofs.Results
import ContractSurvey.Proofs.Instruction.Walk
import ContractSurvey.Proofs.Dialogue.Outside
import ContractSurvey.Proofs.Pool.Merge
import ContractSurvey.Proofs.Pool.Gather
import ContractSurvey.Proofs.Address.Canonical
import ContractSurvey.Proofs.Abi.RoundTrip
import ContractSurvey.Proofs.Instruction.Selectors
import ContractSurvey.Proofs.Instruction.Boundary
import ContractSurvey.Proofs.Register
import ContractSurvey.Proofs.Analysis.Stage
import ContractSurvey.Proofs.Proxy
import ContractSurvey.Proofs.Analysis.Location
import ContractSurvey.Proofs.Analysis.Inspection
import ContractSurvey.Proofs.Analysis.Invocation
import ContractSurvey.Proofs.Analysis.Consistency
import ContractSurvey.Proofs.Signature.Services
import ContractSurvey.Proofs.Analysis.Signatures
import ContractSurvey.Proofs.Call.Batch
import ContractSurvey.Proofs.Analysis.Agreement
import ContractSurvey.Proofs.Proxy.Protocol
import ContractSurvey.Proofs.Analysis.Transparency
import ContractSurvey.Proofs.Call.Encoding
import ContractSurvey.Proofs.Call.Parallel
import ContractSurvey.Proofs.Call.Decoding
import ContractSurvey.Proofs.Signature.Search
import ContractSurvey.Proofs.Analysis.Completion
import ContractSurvey.Proofs.Network.Isolation
import ContractSurvey.Proofs.Network.Probe
import ContractSurvey.Proofs.CommandLine.Selection
import ContractSurvey.Proofs.Numeral
import ContractSurvey.Proofs.Abi.Number
import ContractSurvey.Proofs.ReturnData.Spelling
import ContractSurvey.Proofs.ReturnData.Word
import ContractSurvey.Proofs.Text.Utf8
import ContractSurvey.Proofs.ReturnData.Encoded
import ContractSurvey.Proofs.Analysis.Calls
import ContractSurvey.Proofs.Report.Render
import ContractSurvey.Proofs.CommandLine.Ending
import ContractSurvey.Proofs.Call.Delivery
import ContractSurvey.Proofs.Analysis.Partial
import ContractSurvey.Proofs.Text.Trim
import ContractSurvey.Proofs.Text.Small
import ContractSurvey.Proofs.RevertReason.Parts
import ContractSurvey.Proofs.RevertReason.Framing
import ContractSurvey.Proofs.RevertReason.Stability
import ContractSurvey.Proofs.Abi.Strict
import ContractSurvey.Proofs.ReturnData.ErrorString
import ContractSurvey.Proofs.ReturnData.Display
import ContractSurvey.Proofs.Signature.Trial
import ContractSurvey.Proofs.Signature.History
import ContractSurvey.Proofs.Chain.Client
import ContractSurvey.Proofs.Call.Transmission
import ContractSurvey.Proofs.Instruction.Appended
import ContractSurvey.Proofs.Address.Typed
import ContractSurvey.Proofs.Report.Functions
import ContractSurvey.Proofs.Abi.Layout
import ContractSurvey.Proofs.Signature.Grammar
import ContractSurvey.Proofs.Bytecode
import ContractSurvey.Proofs.RevertReason.Form
import ContractSurvey.Proofs.Call.Reasons
import ContractSurvey.Proofs.Instruction.Scanner
import ContractSurvey.Proofs.Address.Word
import ContractSurvey.Proofs.Address.Account
import ContractSurvey.Proofs.Analysis.Returned
import ContractSurvey.Proofs.Chain.Requests
import ContractSurvey.Proofs.Numeral.Ten
