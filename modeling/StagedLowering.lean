import StagedLowering.Command.Arguments
import StagedLowering.Command.Session
import StagedLowering.Command.Tool
import StagedLowering.ConfigError
import StagedLowering.Decimal.Binary
import StagedLowering.Decimal.Fixed
import StagedLowering.Decimal.Shortest
import StagedLowering.Diagnostic
import StagedLowering.Dict
import StagedLowering.Disk
import StagedLowering.Executor
import StagedLowering.Json.Basic
import StagedLowering.Json.Fault
import StagedLowering.Json.Numeral
import StagedLowering.Json.Print
import StagedLowering.Json.Read
import StagedLowering.Json.Scan
import StagedLowering.Legality
import StagedLowering.Lower
import StagedLowering.Main
import StagedLowering.Options.Basic
import StagedLowering.Options.Choice
import StagedLowering.Options.Environment
import StagedLowering.Options.Field
import StagedLowering.Options.File
import StagedLowering.Options.Group
import StagedLowering.Options.Provenance
import StagedLowering.Options.Resolve
import StagedLowering.Options.Yaml
import StagedLowering.Pass.Basic
import StagedLowering.Pass.Builtin
import StagedLowering.Pass.Folding
import StagedLowering.PipelineError
import StagedLowering.Program.Attr
import StagedLowering.Program.Basic
import StagedLowering.Program.Edit
import StagedLowering.Program.Json
import StagedLowering.Program.Location
import StagedLowering.Program.Path
import StagedLowering.Program.Walk
import StagedLowering.Registry
import StagedLowering.Report
import StagedLowering.Stage.Basic
import StagedLowering.Stage.Json
import StagedLowering.Stage.Plan
import StagedLowering.Statistics
import StagedLowering.Text.Blank
import StagedLowering.Text.Casing
import StagedLowering.Text.Column
import StagedLowering.Text.EditDistance
import StagedLowering.Text.Hidden
import StagedLowering.Text.Lowercase
import StagedLowering.Text.Quoted
import StagedLowering.Text.Utf8
import StagedLowering.Yaml.Cursor
import StagedLowering.Yaml.Node
import StagedLowering.Yaml.Plain
import StagedLowering.Yaml.Reader
import StagedLowering.Yaml.Scalar
import StagedLowering.Yaml.Writer
import StagedLowering.Proofs.Addressing
import StagedLowering.Proofs.Outcome
import StagedLowering.Proofs.Substitution
import StagedLowering.Proofs.Sweep
import StagedLowering.Proofs.Diagnostics
import StagedLowering.Proofs.Running
import StagedLowering.Proofs.Lowering
import StagedLowering.Proofs.Inspection
import StagedLowering.Proofs.Visiting
import StagedLowering.Proofs.Scopes
import StagedLowering.Proofs.ScopedGate
import StagedLowering.Proofs.Guarding
import StagedLowering.Proofs.Json.Reading
import StagedLowering.Proofs.Json.Scanning
import StagedLowering.Proofs.ProgramText
import StagedLowering.Proofs.Options.Slots
import StagedLowering.Proofs.Options.Variables
import StagedLowering.Proofs.Options.Environment
import StagedLowering.Proofs.Options.Layers
import StagedLowering.Proofs.Options.YamlText
import StagedLowering.Proofs.Yaml.Scalars
import StagedLowering.Proofs.Yaml.Documents
import StagedLowering.Proofs.Text.Utf8
import StagedLowering.Proofs.Options.RawVariables
import StagedLowering.Proofs.Interleaving
import StagedLowering.Proofs.Planning
import StagedLowering.Proofs.Legality
import StagedLowering.Proofs.Folding
import StagedLowering.Proofs.Json.Reordering
import StagedLowering.Proofs.StageJson
import StagedLowering.Proofs.Refusal
import StagedLowering.Proofs.Command.Session
import StagedLowering.Proofs.Command.Status
import StagedLowering.Proofs.Composition
import StagedLowering.Proofs.Splitting
import StagedLowering.Proofs.Retention
import StagedLowering.Proofs.Stability
import StagedLowering.Proofs.Text.Edits
import StagedLowering.Proofs.Text.EditDistance
import StagedLowering.Proofs.Statistics
import StagedLowering.Proofs.StatisticsDump
import StagedLowering.Proofs.Positions
