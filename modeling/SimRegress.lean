import SimRegress.Decimal.Shortest
import SimRegress.Decimal.Layout
import SimRegress.Decimal.Reading
import SimRegress.Text.Escaped
import SimRegress.Text.Blank
import SimRegress.Json.Value
import SimRegress.Json.Reader
import SimRegress.Dataset.Basic
import SimRegress.Dataset.Csv
import SimRegress.Dataset.Document
import SimRegress.Comparison.Tolerance
import SimRegress.Comparison.Outcome
import SimRegress.Comparison.Engine
import SimRegress.Comparison.Encode
import SimRegress.Time.Duration
import SimRegress.Job.Basic
import SimRegress.Job.Filter
import SimRegress.Job.Plan
import SimRegress.Job.Progress
import SimRegress.Text.Utf8
import SimRegress.Text.Search
import SimRegress.Run.Output
import SimRegress.Run.State
import SimRegress.Report.Locale
import SimRegress.Run.Outcome
import SimRegress.Report.Console
import SimRegress.Tree.Basic
import SimRegress.Tree.Outputs
import SimRegress.Tree.CoreFiles
import SimRegress.Tree.Load
import SimRegress.Job.Discovery
import SimRegress.Comparison.Paths
import SimRegress.Toml.Value
import SimRegress.Toml.Token
import SimRegress.Toml.Syntax
import SimRegress.Toml.Strings
import SimRegress.Toml.Datetime
import SimRegress.Toml.Scalar
import SimRegress.Toml.Document
import SimRegress.Toml.Snippet
import SimRegress.Text.CodeRanges
import SimRegress.Text.Alphanumeric
import SimRegress.Shell.Words
import SimRegress.Shell.Expand
import SimRegress.Config.Runner
import SimRegress.Config.Context
import SimRegress.Config.Settings
import SimRegress.Main
import SimRegress.Proofs.Traversal
import SimRegress.Proofs.Dataset.Shape
import SimRegress.Proofs.Comparison.Replay
import SimRegress.Proofs.Comparison.Counting
import SimRegress.Proofs.Comparison.Cap
import SimRegress.Proofs.Comparison.Files
import SimRegress.Proofs.Comparison.Samples
import SimRegress.Proofs.Comparison.Passing
import SimRegress.Proofs.Job.Sharding
import SimRegress.Proofs.Text.Stream
import SimRegress.Proofs.Float.Order
import SimRegress.Proofs.Float.Rounding
import SimRegress.Proofs.Comparison.Loosening
import SimRegress.Proofs.Json.Reading
import SimRegress.Proofs.Json.Values
import SimRegress.Proofs.Dataset.Roundtrip
import SimRegress.Proofs.Comparison.Verdict
import SimRegress.Proofs.Dataset.Validation
import SimRegress.Proofs.Job.Eta
import SimRegress.Proofs.Job.Order
import SimRegress.Proofs.Job.EtaFaults
import SimRegress.Proofs.Config.Context
import SimRegress.Proofs.Tree.Files
import SimRegress.Proofs.Tree.Promote
import SimRegress.Proofs.Tree.Walk
import SimRegress.Proofs.Job.Ids
import SimRegress.Proofs.Job.Discovery
import SimRegress.Proofs.Dataset.Csv
import SimRegress.Proofs.Text.Pending
import SimRegress.Proofs.Tree.LoadOrder
import SimRegress.Proofs.Tree.Clean
import SimRegress.Proofs.Text.Search
import SimRegress.Proofs.Tree.CoreFiles
import SimRegress.Proofs.Comparison.Artifacts
import SimRegress.Proofs.Text.Strict
import SimRegress.Proofs.Tree.Names
