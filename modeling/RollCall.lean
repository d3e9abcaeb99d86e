import RollCall.Aggregation.Aggregator
import RollCall.Aggregation.Basic
import RollCall.Artifact
import RollCall.Binary64
import RollCall.Calendar.Date
import RollCall.Calendar.Reading
import RollCall.Cell.Basic
import RollCall.Cell.Key
import RollCall.CharSet.Ascii
import RollCall.CharSet.Basic
import RollCall.CharSet.Property
import RollCall.Checked
import RollCall.Command.Arguments
import RollCall.Command.Basic
import RollCall.Condition.Basic
import RollCall.Condition.Clause
import RollCall.Decimal.Layout
import RollCall.Decimal.Reading
import RollCall.Decimal.Shortest
import RollCall.Expression.Basic
import RollCall.Expression.Operator
import RollCall.Failure
import RollCall.Fields
import RollCall.Join
import RollCall.Json.Basic
import RollCall.Json.Printer
import RollCall.Json.Reader
import RollCall.Json.Token
import RollCall.Library
import RollCall.Library.LinearAlgebra
import RollCall.Library.Standard
import RollCall.Library.StudentT
import RollCall.Main
import RollCall.Operation.Basic
import RollCall.Operation.Execution
import RollCall.Operation.Reading
import RollCall.Parliament
import RollCall.Pattern.Automaton
import RollCall.Pattern.Basic
import RollCall.Pattern.Class
import RollCall.Pattern.Escape
import RollCall.Pattern.Matching
import RollCall.Pattern.Reader
import RollCall.Pattern.Utf8
import RollCall.Pipeline.Basic
import RollCall.Pipeline.Event
import RollCall.Pipeline.Lint
import RollCall.Pipeline.Reading
import RollCall.Pipeline.Run
import RollCall.Proofs.ColumnKinds
import RollCall.Proofs.CompleteRows
import RollCall.Proofs.ConcurrentFetches
import RollCall.Proofs.DecimalTexts
import RollCall.Proofs.EditedTables
import RollCall.Proofs.Entries
import RollCall.Proofs.ExactArithmetic
import RollCall.Proofs.ExactDelays
import RollCall.Proofs.ExactTotals
import RollCall.Proofs.ExactValues
import RollCall.Proofs.ExtremeCells
import RollCall.Proofs.ExtremeOperands
import RollCall.Proofs.FailureAttribution
import RollCall.Proofs.FetchedOnce
import RollCall.Proofs.Fetching
import RollCall.Proofs.FilteredJoins
import RollCall.Proofs.Filtering
import RollCall.Proofs.FixedSource
import RollCall.Proofs.FlaggedMembers
import RollCall.Proofs.FloatComparison
import RollCall.Proofs.GroupedRows
import RollCall.Proofs.GroupedTables
import RollCall.Proofs.InnerJoins
import RollCall.Proofs.JoinRows
import RollCall.Proofs.KeyOrder
import RollCall.Proofs.KeyedConditions
import RollCall.Proofs.KindsInJoins
import RollCall.Proofs.KindsInOperations
import RollCall.Proofs.KindsInRuns
import RollCall.Proofs.LabelledPeriods
import RollCall.Proofs.LeastRecentlyUsed
import RollCall.Proofs.Lengths
import RollCall.Proofs.LintAgreement
import RollCall.Proofs.LooseComparison
import RollCall.Proofs.NearestDoubles
import RollCall.Proofs.NestedLoop
import RollCall.Proofs.NumbersInRange
import RollCall.Proofs.NumericKeys
import RollCall.Proofs.OrderedAssignments
import RollCall.Proofs.Outcome
import RollCall.Proofs.PassingFailures
import RollCall.Proofs.PayloadReading
import RollCall.Proofs.PermutedRows
import RollCall.Proofs.PhraseFilters
import RollCall.Proofs.PlacedColumns
import RollCall.Proofs.RawKeys
import RollCall.Proofs.RecordRoundTrip
import RollCall.Proofs.RepeatedAttempts
import RollCall.Proofs.RequestedMetrics
import RollCall.Proofs.RescaledNumbers
import RollCall.Proofs.RescaledTargets
import RollCall.Proofs.RolledUpGroups
import RollCall.Proofs.Rolls
import RollCall.Proofs.RoundedIntegers
import RollCall.Proofs.Rows
import RollCall.Proofs.RowwiseConditions
import RollCall.Proofs.RowwiseEvaluation
import RollCall.Proofs.RuledGroups
import RollCall.Proofs.RuledJoins
import RollCall.Proofs.RunEvents
import RollCall.Proofs.SelectedGroups
import RollCall.Proofs.SelectedMetrics
import RollCall.Proofs.StepOrder
import RollCall.Proofs.Strict.Aggregation
import RollCall.Proofs.Strict.Basic
import RollCall.Proofs.Strict.Join
import RollCall.Proofs.Strict.Operation
import RollCall.Proofs.Strict.Statistics
import RollCall.Proofs.SuffixedNames
import RollCall.Proofs.Tables
import RollCall.Proofs.TestSamples
import RollCall.Proofs.VoteMatrices
import RollCall.Proofs.WellFormedRuns
import RollCall.Proofs.WholeDoubles
import RollCall.Proofs.WrittenConditions
import RollCall.Proofs.WrittenDates
import RollCall.Proofs.WrittenExpressions
import RollCall.Statistics.Basic
import RollCall.Statistics.LeastSquares
import RollCall.Statistics.Matrix
import RollCall.Statistics.Tests
import RollCall.Table.Basic
import RollCall.Table.Grouping
import RollCall.Table.Records
import RollCall.TableStore
import RollCall.Text.Blank
import RollCall.Text.Integer
import RollCall.Text.Lowercase
import RollCall.Text.Quoted
import RollCall.Text.Search
import RollCall.Transform.Basic
import RollCall.Transform.Periods
import RollCall.Transform.Rescaling
import RollCall.Unicode.Age
import RollCall.Unicode.Case
import RollCall.Unicode.Category
import RollCall.Unicode.Edition
import RollCall.Unicode.Named
import RollCall.Unicode.Property
import RollCall.Unicode.Script
import RollCall.Unicode.Segmentation
import RollCall.Unicode.Table
import RollCall.Votes.Backoff
import RollCall.Votes.Cache
import RollCall.Votes.Division
import RollCall.Votes.Fetch
import RollCall.Votes.Matrix
import RollCall.Votes.Retry
import RollCall.Votes.Roll
import RollCall.Votes.Settings
