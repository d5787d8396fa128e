import ScriptMatrix.Axis
import ScriptMatrix.Axis.Block
import ScriptMatrix.Axis.Odometer
import ScriptMatrix.Binding
import ScriptMatrix.Block
import ScriptMatrix.CommandLine
import ScriptMatrix.CommandLine.Options
import ScriptMatrix.CommandLine.Request
import ScriptMatrix.Decimal.Binary64
import ScriptMatrix.Decimal.Shortest
import ScriptMatrix.Defaults
import ScriptMatrix.Directive
import ScriptMatrix.Document
import ScriptMatrix.Document.Files
import ScriptMatrix.Document.Source
import ScriptMatrix.Error
import ScriptMatrix.Fault
import ScriptMatrix.FileName
import ScriptMatrix.Filter
import ScriptMatrix.Json
import ScriptMatrix.Main
import ScriptMatrix.Matrix
import ScriptMatrix.Path
import ScriptMatrix.Proofs.Axis.Count
import ScriptMatrix.Proofs.Axis.Cursor
import ScriptMatrix.Proofs.Axis.Descriptor
import ScriptMatrix.Proofs.Axis.Digits
import ScriptMatrix.Proofs.Axis.Enumeration
import ScriptMatrix.Proofs.Axis.Hint
import ScriptMatrix.Proofs.Axis.Names
import ScriptMatrix.Proofs.Axis.Product
import ScriptMatrix.Proofs.Block.Axes
import ScriptMatrix.Proofs.Block.Defaults
import ScriptMatrix.Proofs.Block.Reading
import ScriptMatrix.Proofs.CommandLine.Acceptance
import ScriptMatrix.Proofs.CommandLine.Refusal
import ScriptMatrix.Proofs.Decimal.Normal
import ScriptMatrix.Proofs.Decimal.Shortest
import ScriptMatrix.Proofs.Document.Body
import ScriptMatrix.Proofs.Document.Cycles
import ScriptMatrix.Proofs.Document.Expansion
import ScriptMatrix.Proofs.Document.Grammar
import ScriptMatrix.Proofs.Document.Lines
import ScriptMatrix.Proofs.Document.Meaning
import ScriptMatrix.Proofs.Document.Paste
import ScriptMatrix.Proofs.Document.Progress
import ScriptMatrix.Proofs.Document.Queue
import ScriptMatrix.Proofs.Document.Stack
import ScriptMatrix.Proofs.Document.Termination
import ScriptMatrix.Proofs.Document.Unfolding
import ScriptMatrix.Proofs.Files.Containment
import ScriptMatrix.Proofs.Files.Counter
import ScriptMatrix.Proofs.Files.Course
import ScriptMatrix.Proofs.Files.Join
import ScriptMatrix.Proofs.Files.Render
import ScriptMatrix.Proofs.Files.Tree
import ScriptMatrix.Proofs.Files.Unique
import ScriptMatrix.Proofs.Files.Writes
import ScriptMatrix.Proofs.Regex.Preference
import ScriptMatrix.Proofs.Run.Account
import ScriptMatrix.Proofs.Run.Action
import ScriptMatrix.Proofs.Run.Interpreter
import ScriptMatrix.Proofs.Run.Machine
import ScriptMatrix.Proofs.Run.Play
import ScriptMatrix.Proofs.Run.Visit
import ScriptMatrix.Proofs.Script.History
import ScriptMatrix.Proofs.Script.Names
import ScriptMatrix.Proofs.Script.Overrides
import ScriptMatrix.Proofs.Script.Parameter
import ScriptMatrix.Proofs.Script.Reading
import ScriptMatrix.Proofs.Script.Recovery
import ScriptMatrix.Proofs.Shell.Lines
import ScriptMatrix.Proofs.Shell.Marks
import ScriptMatrix.Proofs.Shell.Quote
import ScriptMatrix.Proofs.Shell.Reader
import ScriptMatrix.Proofs.Text.Decoding
import ScriptMatrix.Proofs.Text.Trim
import ScriptMatrix.Proofs.Yaml.Equality
import ScriptMatrix.Proofs.Yaml.Keys
import ScriptMatrix.Proofs.Yaml.NumberText
import ScriptMatrix.Regex
import ScriptMatrix.Regex.Automaton.Octets
import ScriptMatrix.Regex.Automaton.Plan
import ScriptMatrix.Regex.Automaton.Size
import ScriptMatrix.Regex.Brackets
import ScriptMatrix.Regex.Error
import ScriptMatrix.Regex.Escape
import ScriptMatrix.Regex.Expr
import ScriptMatrix.Regex.Look
import ScriptMatrix.Regex.Match
import ScriptMatrix.Regex.Meaning
import ScriptMatrix.Regex.Pattern
import ScriptMatrix.Regex.Reader
import ScriptMatrix.Regex.Scan
import ScriptMatrix.Run.Host
import ScriptMatrix.Run.Outcome
import ScriptMatrix.Run.Report
import ScriptMatrix.Run.Runner
import ScriptMatrix.Sandbox.Calendar
import ScriptMatrix.Sandbox.Chars
import ScriptMatrix.Sandbox.Expression
import ScriptMatrix.Sandbox.Glob
import ScriptMatrix.Sandbox.Machine
import ScriptMatrix.Sandbox.Options
import ScriptMatrix.Sandbox.Program
import ScriptMatrix.Sandbox.Program.Basic
import ScriptMatrix.Sandbox.Program.Edit
import ScriptMatrix.Sandbox.Program.Files
import ScriptMatrix.Sandbox.Program.Launch
import ScriptMatrix.Sandbox.Program.Letters
import ScriptMatrix.Sandbox.Program.Lines
import ScriptMatrix.Sandbox.Program.Names
import ScriptMatrix.Sandbox.Program.Order
import ScriptMatrix.Sandbox.Program.Search
import ScriptMatrix.Sandbox.Program.Sum
import ScriptMatrix.Sandbox.Real
import ScriptMatrix.Sandbox.Shell.Arithmetic
import ScriptMatrix.Sandbox.Shell.Assign
import ScriptMatrix.Sandbox.Shell.Brace
import ScriptMatrix.Sandbox.Shell.Builtin.Basic
import ScriptMatrix.Sandbox.Shell.Builtin.Declare
import ScriptMatrix.Sandbox.Shell.Builtin.Describe
import ScriptMatrix.Sandbox.Shell.Builtin.Directory
import ScriptMatrix.Sandbox.Shell.Builtin.Job
import ScriptMatrix.Sandbox.Shell.Builtin.Jump
import ScriptMatrix.Sandbox.Shell.Builtin.Limit
import ScriptMatrix.Sandbox.Shell.Builtin.Mask
import ScriptMatrix.Sandbox.Shell.Builtin.Running
import ScriptMatrix.Sandbox.Shell.Builtin.Setting
import ScriptMatrix.Sandbox.Shell.Builtin.Signal
import ScriptMatrix.Sandbox.Shell.Builtin.Text
import ScriptMatrix.Sandbox.Shell.Conditional
import ScriptMatrix.Sandbox.Shell.Evaluation
import ScriptMatrix.Sandbox.Shell.Expansion
import ScriptMatrix.Sandbox.Shell.Field
import ScriptMatrix.Sandbox.Shell.Format
import ScriptMatrix.Sandbox.Shell.Invoke
import ScriptMatrix.Sandbox.Shell.Lookup
import ScriptMatrix.Sandbox.Shell.Loop
import ScriptMatrix.Sandbox.Shell.Parameter
import ScriptMatrix.Sandbox.Shell.Quoting
import ScriptMatrix.Sandbox.Shell.Read.Command
import ScriptMatrix.Sandbox.Shell.Read.Condition
import ScriptMatrix.Sandbox.Shell.Read.Document
import ScriptMatrix.Sandbox.Shell.Read.Escape
import ScriptMatrix.Sandbox.Shell.Read.Scan
import ScriptMatrix.Sandbox.Shell.Read.Word
import ScriptMatrix.Sandbox.Shell.Redirection
import ScriptMatrix.Sandbox.Shell.Script
import ScriptMatrix.Sandbox.Shell.Simple
import ScriptMatrix.Sandbox.Shell.Start
import ScriptMatrix.Sandbox.Shell.State
import ScriptMatrix.Sandbox.Shell.Stream
import ScriptMatrix.Sandbox.Shell.Subshell
import ScriptMatrix.Sandbox.Shell.Syntax
import ScriptMatrix.Sandbox.Shell.Test
import ScriptMatrix.Sandbox.Shell.Test.Basic
import ScriptMatrix.Sandbox.Shell.Test.Counted
import ScriptMatrix.Sandbox.Shell.Test.Marked
import ScriptMatrix.Sandbox.Shell.Variable
import ScriptMatrix.Sandbox.Tree
import ScriptMatrix.Script
import ScriptMatrix.Settings
import ScriptMatrix.Shell.Name
import ScriptMatrix.Shell.Quote
import ScriptMatrix.Text.Blank
import ScriptMatrix.Text.Utf8
import ScriptMatrix.Toml.Document
import ScriptMatrix.Toml.Error
import ScriptMatrix.Toml.Number
import ScriptMatrix.Toml.Scan
import ScriptMatrix.Toml.Value
import ScriptMatrix.Unicode.Age
import ScriptMatrix.Unicode.Break
import ScriptMatrix.Unicode.CaseFolding
import ScriptMatrix.Unicode.Category
import ScriptMatrix.Unicode.CharSet
import ScriptMatrix.Unicode.Lookup
import ScriptMatrix.Unicode.Partition
import ScriptMatrix.Unicode.Property
import ScriptMatrix.Unicode.Script
import ScriptMatrix.Unicode.Table
import ScriptMatrix.Yaml.Cursor
import ScriptMatrix.Yaml.Error
import ScriptMatrix.Yaml.Node
import ScriptMatrix.Yaml.Number
import ScriptMatrix.Yaml.Reading
import ScriptMatrix.Yaml.Scalar
import ScriptMatrix.Yaml.Token
import ScriptMatrix.Yaml.Token.Lexer
import ScriptMatrix.Yaml.Token.Scalar
import ScriptMatrix.Yaml.Token.Tag
import ScriptMatrix.Yaml.Value
