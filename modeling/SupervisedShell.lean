import SupervisedShell.Builtin
import SupervisedShell.Caesar
import SupervisedShell.Capture
import SupervisedShell.Command
import SupervisedShell.CommandLine
import SupervisedShell.Editor
import SupervisedShell.Environment
import SupervisedShell.ExitCode
import SupervisedShell.External
import SupervisedShell.Fibonacci
import SupervisedShell.Interpreter
import SupervisedShell.LineSource
import SupervisedShell.Log
import SupervisedShell.LogFilter
import SupervisedShell.Machine.Basic
import SupervisedShell.Machine.Ceiling
import SupervisedShell.Machine.Channel
import SupervisedShell.Machine.Course
import SupervisedShell.Machine.Files
import SupervisedShell.Machine.Image
import SupervisedShell.Machine.Program
import SupervisedShell.Machine.Rig
import SupervisedShell.Machine.Task
import SupervisedShell.Machine.Terminal
import SupervisedShell.Machine.World
import SupervisedShell.Main
import SupervisedShell.Number.Binary
import SupervisedShell.Number.Decimal
import SupervisedShell.Number.Notation
import SupervisedShell.Number.Pointed
import SupervisedShell.Number.Shortest
import SupervisedShell.Options
import SupervisedShell.Outcome
import SupervisedShell.Plugin
import SupervisedShell.Proofs.Builtin.Integer
import SupervisedShell.Proofs.Builtin.Lines
import SupervisedShell.Proofs.Builtin.Loss
import SupervisedShell.Proofs.Builtin.RoundTrip
import SupervisedShell.Proofs.Builtin.Table
import SupervisedShell.Proofs.Launch.Codes
import SupervisedShell.Proofs.Launch.Fates
import SupervisedShell.Proofs.Launch.Search
import SupervisedShell.Proofs.Launch.Target
import SupervisedShell.Proofs.Log.Filter
import SupervisedShell.Proofs.Machine.Input
import SupervisedShell.Proofs.Machine.Pipe
import SupervisedShell.Proofs.Machine.Promises
import SupervisedShell.Proofs.Number.Fibonacci
import SupervisedShell.Proofs.Number.Numeral
import SupervisedShell.Proofs.Options.Settings
import SupervisedShell.Proofs.Regex.Matching
import SupervisedShell.Proofs.Script.Pattern
import SupervisedShell.Proofs.Script.Quoting
import SupervisedShell.Proofs.Script.Reading
import SupervisedShell.Proofs.Script.Sums
import SupervisedShell.Proofs.Session.Along
import SupervisedShell.Proofs.Session.Attempt
import SupervisedShell.Proofs.Session.Children
import SupervisedShell.Proofs.Session.Dispatch
import SupervisedShell.Proofs.Session.Faults
import SupervisedShell.Proofs.Session.Journal
import SupervisedShell.Proofs.Session.Leaving
import SupervisedShell.Proofs.Session.Order
import SupervisedShell.Proofs.Session.Printout
import SupervisedShell.Proofs.Session.Steps
import SupervisedShell.Proofs.Session.Transcript
import SupervisedShell.Proofs.Session.Typed
import SupervisedShell.Proofs.Supervision.Alike
import SupervisedShell.Proofs.Supervision.Cadence
import SupervisedShell.Proofs.Supervision.Calls
import SupervisedShell.Proofs.Supervision.Custody
import SupervisedShell.Proofs.Supervision.Frame
import SupervisedShell.Proofs.Supervision.History
import SupervisedShell.Proofs.Supervision.Overtaken
import SupervisedShell.Proofs.Supervision.Pulse
import SupervisedShell.Proofs.Supervision.Timeline
import SupervisedShell.Proofs.Supervision.Verdict
import SupervisedShell.Proofs.Supervision.Watch
import SupervisedShell.Proofs.Text.Backspaces
import SupervisedShell.Proofs.Text.Chunks
import SupervisedShell.Proofs.Text.Cipher
import SupervisedShell.Proofs.Text.Decoding
import SupervisedShell.Proofs.Text.Encoding
import SupervisedShell.Proofs.Text.Forms
import SupervisedShell.Proofs.Text.Layouts
import SupervisedShell.Proofs.Text.Residues
import SupervisedShell.Proofs.Text.Runs
import SupervisedShell.Proofs.Text.Sets
import SupervisedShell.Proofs.Text.Stepwise
import SupervisedShell.Proofs.Text.Tokens
import SupervisedShell.Proofs.Tool.Interval
import SupervisedShell.Proofs.Tool.Quoting
import SupervisedShell.Regex.Basic
import SupervisedShell.Regex.Compiled
import SupervisedShell.Regex.Extent
import SupervisedShell.Regex.Fault
import SupervisedShell.Regex.Matching
import SupervisedShell.Regex.Meaning
import SupervisedShell.Regex.Nesting
import SupervisedShell.Regex.Reader
import SupervisedShell.Regex.Syntax
import SupervisedShell.Script.Arithmetic
import SupervisedShell.Script.Builtin.Bounds
import SupervisedShell.Script.Builtin.Condition
import SupervisedShell.Script.Builtin.Directory
import SupervisedShell.Script.Builtin.Jobs
import SupervisedShell.Script.Builtin.Letter
import SupervisedShell.Script.Builtin.Names
import SupervisedShell.Script.Builtin.Operand
import SupervisedShell.Script.Builtin.Printing
import SupervisedShell.Script.Builtin.Reading
import SupervisedShell.Script.Builtin.Rights
import SupervisedShell.Script.Builtin.Setting
import SupervisedShell.Script.Builtin.Signals
import SupervisedShell.Script.Builtin.Variables
import SupervisedShell.Script.Callee
import SupervisedShell.Script.Evaluation
import SupervisedShell.Script.Expansion
import SupervisedShell.Script.Field
import SupervisedShell.Script.Grammar
import SupervisedShell.Script.Integer
import SupervisedShell.Script.Lookup
import SupervisedShell.Script.Pattern
import SupervisedShell.Script.Process
import SupervisedShell.Script.Redirection
import SupervisedShell.Script.Run
import SupervisedShell.Script.Session
import SupervisedShell.Script.Simple
import SupervisedShell.Script.Source
import SupervisedShell.Script.Subprocess
import SupervisedShell.Script.Syntax
import SupervisedShell.Script.Within
import SupervisedShell.Script.Word
import SupervisedShell.Search
import SupervisedShell.Supervisor.Child
import SupervisedShell.Supervisor.Handle
import SupervisedShell.Supervisor.Limits
import SupervisedShell.System.Basic
import SupervisedShell.System.Focus
import SupervisedShell.System.IoError
import SupervisedShell.System.Path
import SupervisedShell.System.Printing
import SupervisedShell.System.WaitStatus
import SupervisedShell.Text.Blank
import SupervisedShell.Text.CaseFold
import SupervisedShell.Text.CharSet
import SupervisedShell.Text.Cluster
import SupervisedShell.Text.ClusterBreak
import SupervisedShell.Text.Extend
import SupervisedShell.Text.Octets
import SupervisedShell.Text.Quoted
import SupervisedShell.Text.Ranges
import SupervisedShell.Text.Unprintable
import SupervisedShell.Text.Utf8
import SupervisedShell.Text.Word
import SupervisedShell.Time
import SupervisedShell.Token
import SupervisedShell.Tool.Cat
import SupervisedShell.Tool.Echo
import SupervisedShell.Tool.Env
import SupervisedShell.Tool.Flags
import SupervisedShell.Tool.Interval
import SupervisedShell.Tool.Manual
import SupervisedShell.Tool.Quoting
import SupervisedShell.Tool.Sleep
import SupervisedShell.Tool.Split
import SupervisedShell.Unicode.Age
import SupervisedShell.Unicode.Binary
import SupervisedShell.Unicode.Break
import SupervisedShell.Unicode.Category
import SupervisedShell.Unicode.Query
import SupervisedShell.Unicode.Script
