import Lookalike.AgentTools
import Lookalike.Demonstration
import Lookalike.Json.Reader
import Lookalike.Main
import Lookalike.Report.Percentage
import Lookalike.Proofs.Number.Rounding
import Lookalike.Proofs.Similarity.LengthTest
import Lookalike.Proofs.Matching.Pairs
import Lookalike.Proofs.Matching.Pruning
import Lookalike.Proofs.Harvest.Occurrence
import Lookalike.Proofs.Harvest.Run
import Lookalike.Proofs.Harvest.Frames
import Lookalike.Proofs.Harvest.Bindings
import Lookalike.Proofs.Harvest.ScopeTree
import Lookalike.Proofs.Harvest.Propagation
import Lookalike.Proofs.Harvest.Outcome
import Lookalike.Proofs.Harvest.OwnNames
import Lookalike.Proofs.Check.Collection
import Lookalike.Proofs.Check.Totals
import Lookalike.Proofs.Check.Schedule
import Lookalike.Proofs.Matching.HarvestedScopes
import Lookalike.Proofs.Check.Failures
import Lookalike.Proofs.Check.Preparation
import Lookalike.Proofs.Check.Balance
import Lookalike.Proofs.Check.Propagation
import Lookalike.Proofs.Files.Resolution
import Lookalike.Proofs.Harvest.Courses
import Lookalike.Proofs.Check.Places
import Lookalike.Proofs.Check.RaisedThreshold
import Lookalike.Proofs.Harvest.Declarations
import Lookalike.Proofs.Harvest.Reuse
import Lookalike.Proofs.Number.Integers
import Lookalike.Proofs.Config.Clients
import Lookalike.Proofs.AgentTools.Answers
import Lookalike.Proofs.Config.Settings
import Lookalike.Proofs.Text.ControlSequence
import Lookalike.Proofs.Number.Text
import Lookalike.Proofs.Json.Printer
import Lookalike.Proofs.Files.RealPlaces
import Lookalike.Proofs.Number.Numeral
import Lookalike.Proofs.CommandLine.Words
import Lookalike.Proofs.CommandLine.Options
import Lookalike.Proofs.CommandLine.Session
import Lookalike.Proofs.CommandLine.Comparison
import Lookalike.Proofs.CommandLine.Check
import Lookalike.Proofs.Similarity.CommonLength
import Lookalike.Proofs.Similarity.Table
import Lookalike.Proofs.Number.Nearest
import Lookalike.Proofs.Similarity.Score
import Lookalike.Proofs.Similarity.Canonical
import Lookalike.Proofs.Similarity.Traceback
import Lookalike.Proofs.Similarity.Alignment
import Lookalike.Proofs.Files.Listing
import Lookalike.Proofs.Number.Scaling
import Lookalike.Proofs.Files.Candidates
import Lookalike.Proofs.Files.SourceFiles
import Lookalike.Proofs.Similarity.ReachableScore
import Lookalike.Proofs.Matching.Reordering
import Lookalike.Proofs.Matching.Faults
import Lookalike.Proofs.Number.Percentage
import Lookalike.Proofs.AgentTools.Percentage
import Lookalike.Proofs.Similarity.RowsInPlace
import Lookalike.Proofs.Similarity.Metric
import Lookalike.Proofs.Matching.Accounting
import Lookalike.Proofs.Text.CodePoints
import Lookalike.Proofs.Text.Namable
import Lookalike.Proofs.Text.Normal
import Lookalike.Proofs.Source.Names
import Lookalike.Proofs.Source.Reader
import Lookalike.Proofs.Source.Parameters
import Lookalike.Proofs.Source.Template
import Lookalike.Proofs.Source.Expression
import Lookalike.Proofs.Source.Pattern
import Lookalike.Proofs.Source.Statement
import Lookalike.Proofs.Harvest.Names
import Lookalike.Proofs.Report.Compact
import Lookalike.Proofs.Report.Readable
