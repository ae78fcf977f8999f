import Stemcell.Action
import Stemcell.Assembly
import Stemcell.CommandLine.Complaint
import Stemcell.CommandLine.Grammar
import Stemcell.CommandLine.Invocation
import Stemcell.CommandLine.Run
import Stemcell.CommandLine.Word
import Stemcell.Config.Field
import Stemcell.Config.File
import Stemcell.Config.Problem
import Stemcell.Config.Settings
import Stemcell.Connection
import Stemcell.Console
import Stemcell.Construct
import Stemcell.Enabling
import Stemcell.Environment
import Stemcell.Failure
import Stemcell.Files.Path
import Stemcell.Files.Tree
import Stemcell.Guest
import Stemcell.Json
import Stemcell.Log.Record
import Stemcell.Log.Template
import Stemcell.Main
import Stemcell.Number.Binary64
import Stemcell.Number.Decimal
import Stemcell.Number.Rounding
import Stemcell.Polling
import Stemcell.Powershell
import Stemcell.Preflight
import Stemcell.Program
import Stemcell.Progress
import Stemcell.Proofs.Action
import Stemcell.Proofs.Agreement
import Stemcell.Proofs.Assembly
import Stemcell.Proofs.CommandLine.Agreement
import Stemcell.Proofs.CommandLine.Gate
import Stemcell.Proofs.CommandLine.Secrecy
import Stemcell.Proofs.CommandLine.Verbosity
import Stemcell.Proofs.CommandLine.Words
import Stemcell.Proofs.Config.File
import Stemcell.Proofs.Config.Precedence
import Stemcell.Proofs.Config.Settings
import Stemcell.Proofs.Console
import Stemcell.Proofs.Construct.Agreement
import Stemcell.Proofs.Construct.Answers
import Stemcell.Proofs.Construct.Causes
import Stemcell.Proofs.Construct.History
import Stemcell.Proofs.Construct.Pairing
import Stemcell.Proofs.Construct.Passwords
import Stemcell.Proofs.Construct.Processes
import Stemcell.Proofs.Construct.Success
import Stemcell.Proofs.Construct.Telling
import Stemcell.Proofs.Construct.Trace
import Stemcell.Proofs.Ending
import Stemcell.Proofs.Journal
import Stemcell.Proofs.Json
import Stemcell.Proofs.Log.Placeholder
import Stemcell.Proofs.Log.Template
import Stemcell.Proofs.Log.Written
import Stemcell.Proofs.Polling
import Stemcell.Proofs.Powershell
import Stemcell.Proofs.Powershell.Language
import Stemcell.Proofs.Powershell.Layout
import Stemcell.Proofs.Program
import Stemcell.Proofs.Program.Child
import Stemcell.Proofs.Progress
import Stemcell.Proofs.Recording
import Stemcell.Proofs.Redaction.Filter
import Stemcell.Proofs.Redaction.Hiding
import Stemcell.Proofs.Redaction.Mask
import Stemcell.Proofs.Redaction.Numbers
import Stemcell.Proofs.Redaction.Order
import Stemcell.Proofs.Redaction.Pieces
import Stemcell.Proofs.Redaction.Registry
import Stemcell.Proofs.Redaction.Session
import Stemcell.Proofs.Rehearsal
import Stemcell.Proofs.Rehearsal.Crew
import Stemcell.Proofs.Rehearsal.Machine
import Stemcell.Proofs.Remote
import Stemcell.Proofs.Text.Base64
import Stemcell.Proofs.Text.Base64.Bits
import Stemcell.Proofs.Text.Base64.Reading
import Stemcell.Proofs.Text.Utf16
import Stemcell.Proofs.Text.Utf16.WellFormed
import Stemcell.Proofs.VCenter.Environment
import Stemcell.Proofs.VCenter.ExitCode
import Stemcell.Proofs.VCenter.Field
import Stemcell.Proofs.VCenter.Outcome
import Stemcell.Proofs.VCenter.PowerState
import Stemcell.Proofs.VCenter.Spelling
import Stemcell.Proofs.Value
import Stemcell.Redaction
import Stemcell.Rehearsal.Crew
import Stemcell.Rehearsal.Machine.Builtin
import Stemcell.Rehearsal.Machine.Condition
import Stemcell.Rehearsal.Machine.Disk
import Stemcell.Rehearsal.Machine.Execution
import Stemcell.Rehearsal.Machine.Expansion
import Stemcell.Rehearsal.Machine.Expression
import Stemcell.Rehearsal.Machine.Fields
import Stemcell.Rehearsal.Machine.Format
import Stemcell.Rehearsal.Machine.Host
import Stemcell.Rehearsal.Machine.Octets
import Stemcell.Rehearsal.Machine.Pattern
import Stemcell.Rehearsal.Machine.Regex
import Stemcell.Rehearsal.Machine.Script
import Stemcell.Rehearsal.Machine.Script.Parser
import Stemcell.Rehearsal.Machine.SearchPath
import Stemcell.Rehearsal.Machine.Shell
import Stemcell.Rehearsal.Machine.Tool
import Stemcell.Rehearsal.Machine.Tool.Bytes
import Stemcell.Rehearsal.Machine.Tool.Edit
import Stemcell.Rehearsal.Machine.Tool.Index
import Stemcell.Rehearsal.Machine.Tool.Lines
import Stemcell.Rehearsal.Machine.Tool.Order
import Stemcell.Rehearsal.Machine.Tool.Places
import Stemcell.Rehearsal.Machine.Tool.Search
import Stemcell.Rehearsal.Machine.Tool.Sum
import Stemcell.Rehearsal.Machine.Tool.Writing
import Stemcell.Rehearsal.Outside
import Stemcell.Rehearsal.World
import Stemcell.Remote.Call
import Stemcell.Remote.Manager
import Stemcell.Text.Base64
import Stemcell.Text.Blank
import Stemcell.Text.Digit
import Stemcell.Text.Lines
import Stemcell.Text.Printable
import Stemcell.Text.Quoted
import Stemcell.Text.Search
import Stemcell.Text.Surrogate
import Stemcell.Text.Utf16
import Stemcell.Text.Utf8
import Stemcell.VCenter.Answer
import Stemcell.VCenter.Client
import Stemcell.VCenter.Problem
import Stemcell.Value.Basic
import Stemcell.Value.Display
import Stemcell.Value.Fault
import Stemcell.Version
import Stemcell.Yaml.Build
import Stemcell.Yaml.Cursor
import Stemcell.Yaml.Document
import Stemcell.Yaml.Node
import Stemcell.Yaml.Node.Merge
import Stemcell.Yaml.Node.Parser
import Stemcell.Yaml.Problem
import Stemcell.Yaml.Scalar
import Stemcell.Yaml.Source
import Stemcell.Yaml.Tag
import Stemcell.Yaml.Timestamp
import Stemcell.Yaml.Token
import Stemcell.Yaml.Token.Lexer
import Stemcell.Yaml.Token.Name
import Stemcell.Yaml.Token.Scalar
