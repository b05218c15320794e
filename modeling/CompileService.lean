import CompileService.Calendar
import CompileService.Command
import CompileService.CommandLine
import CompileService.Diagnostic.Basic
import CompileService.Diagnostic.Report
import CompileService.Failure
import CompileService.FileTree.Access
import CompileService.FileTree.Basic
import CompileService.FileTree.Edit
import CompileService.Http
import CompileService.Identifier
import CompileService.Json.Basic
import CompileService.Json.Reader
import CompileService.Json.Writer
import CompileService.Log
import CompileService.Module.Listing
import CompileService.Module.Name
import CompileService.Moment
import CompileService.Number.Binary64
import CompileService.Number.Reading
import CompileService.Number.Shortest
import CompileService.Path
import CompileService.Preview
import CompileService.Process.Basic
import CompileService.Process.Scripted
import CompileService.Process.Start
import CompileService.Response
import CompileService.Service.Artifacts
import CompileService.Service.Basic
import CompileService.Service.Commands
import CompileService.Service.Modules
import CompileService.Settings.Basic
import CompileService.Settings.Dotenv
import CompileService.Settings.Reading
import CompileService.Text.Basic
import CompileService.Text.Blank
import CompileService.Text.Breaks
import CompileService.Text.Capital
import CompileService.Text.Digit
import CompileService.Text.Printable
import CompileService.Text.Quoted
import CompileService.Text.Range
import CompileService.Text.Small
import CompileService.Text.Uppercase
import CompileService.Text.Utf8
import CompileService.Text.Wide
import CompileService.Toolchain.Basic
import CompileService.Toolchain.Header
import CompileService.Validation
import CompileService.Wire
import CompileService.World
import CompileService.Main
import CompileService.Proofs.FileTree.View
import CompileService.Proofs.FileTree.Operations
import CompileService.Proofs.Action
import CompileService.Proofs.FileTree.Directories
import CompileService.Proofs.Identifier
import CompileService.Proofs.Path
import CompileService.Proofs.Service.Accounting
import CompileService.Proofs.Service.Leftovers
import CompileService.Proofs.Service.Beside
import CompileService.Proofs.Service.Independence
import CompileService.Proofs.Diagnostic.Blocks
import CompileService.Proofs.Diagnostic.Layout
import CompileService.Proofs.Diagnostic.Readable
import CompileService.Proofs.Service.Checks
import CompileService.Proofs.FileTree.Proper
import CompileService.Proofs.Service.CheckMeaning
import CompileService.Proofs.Service.CompileMeaning
import CompileService.Proofs.FileTree.Leaves
import CompileService.Proofs.Text.Order
import CompileService.Proofs.Module.Listing
import CompileService.Proofs.Module.Name
import CompileService.Proofs.Service.Release
import CompileService.Proofs.Service.Lookup
import CompileService.Proofs.Toolchain.Success
import CompileService.Proofs.Service.Starts
import CompileService.Proofs.Service.Realignment
import CompileService.Proofs.Service.Effects
import CompileService.Proofs.FileTree.Kept
import CompileService.Proofs.Service.Ownership
import CompileService.Proofs.Service.Lifetime
import CompileService.Proofs.Service.Deadlines
import CompileService.Proofs.Service.Steps
import CompileService.Proofs.FileTree.Within
import CompileService.Proofs.Service.Frame
import CompileService.Proofs.Command
import CompileService.Proofs.Service.Answers
import CompileService.Proofs.Service.Contract
import CompileService.Proofs.FileTree.Below
import CompileService.Proofs.Service.Confinement
import CompileService.Proofs.Text.Encodable
import CompileService.Proofs.Response
import CompileService.Proofs.Module.Encodable
import CompileService.Proofs.Diagnostic.Encodable
import CompileService.Proofs.Service.Replies
import CompileService.Proofs.Diagnostic.Concatenation
import CompileService.Proofs.Diagnostic.LineSkip
import CompileService.Proofs.Diagnostic.Message
import CompileService.Proofs.Toolchain.Header
import CompileService.Proofs.Service.Reported
import CompileService.Proofs.Module.Grammar
import CompileService.Proofs.Module.Rooted
import CompileService.Proofs.Diagnostic.Severity
import CompileService.Proofs.FileTree.Overlong
import CompileService.Proofs.Service.Absence
import CompileService.Proofs.Service.Listing
import CompileService.Proofs.Service.Identifiers
import CompileService.Proofs.Wire.Form
import CompileService.Proofs.Wire.Pruning
import CompileService.Proofs.Wire.Decoding
import CompileService.Proofs.Preview
import CompileService.Proofs.Module.Order
import CompileService.Proofs.Service.Walk
