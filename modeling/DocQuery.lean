import DocQuery.Config
import DocQuery.Document
import DocQuery.Engine
import DocQuery.Entries
import DocQuery.Eval.Apply
import DocQuery.Eval.Arithmetic
import DocQuery.Eval.Collection
import DocQuery.Eval.Comparison
import DocQuery.Eval.Context
import DocQuery.Eval.Demand
import DocQuery.Eval.Error
import DocQuery.Eval.Evaluate
import DocQuery.Eval.Logic
import DocQuery.Eval.Observed
import DocQuery.Eval.Text
import DocQuery.Eval.Time
import DocQuery.Eval.Vector
import DocQuery.Expr.Basic
import DocQuery.Expr.Builtin
import DocQuery.Json.Basic
import DocQuery.Json.Reader
import DocQuery.Log.Event
import DocQuery.Log.Line
import DocQuery.Log.Logger
import DocQuery.Log.Severity
import DocQuery.Metrics
import DocQuery.Number.Double
import DocQuery.Number.DoubleText
import DocQuery.Number.Rounding
import DocQuery.Path.Field
import DocQuery.Path.Resource
import DocQuery.Pattern.Basic
import DocQuery.Pattern.Cache
import DocQuery.Pipeline.Basic
import DocQuery.Pipeline.Canonical
import DocQuery.Pipeline.Error
import DocQuery.Pipeline.Execute
import DocQuery.Pipeline.Group
import DocQuery.Pipeline.Interpreted
import DocQuery.Pipeline.Nearest
import DocQuery.Pipeline.Project
import DocQuery.Pipeline.Sort
import DocQuery.Pipeline.Stage
import DocQuery.Pipeline.Tally
import DocQuery.Regex.Basic
import DocQuery.Regex.CharClass
import DocQuery.Regex.ClassReader
import DocQuery.Regex.EncodedRanges
import DocQuery.Regex.Escape
import DocQuery.Regex.Fault
import DocQuery.Regex.Library
import DocQuery.Regex.Matcher
import DocQuery.Regex.Reader
import DocQuery.Regex.Rules
import DocQuery.Regex.Weight
import DocQuery.Sorting
import DocQuery.Text.Base64
import DocQuery.Text.Digits
import DocQuery.Text.Quoted
import DocQuery.Text.Search
import DocQuery.Text.Split
import DocQuery.Unicode.Age
import DocQuery.Unicode.Blank
import DocQuery.Unicode.Case
import DocQuery.Unicode.CaseTables
import DocQuery.Unicode.Category
import DocQuery.Unicode.CodeRanges
import DocQuery.Unicode.GraphemeBreak
import DocQuery.Unicode.Lookup
import DocQuery.Unicode.NamedRanges
import DocQuery.Unicode.Printable
import DocQuery.Unicode.Property
import DocQuery.Unicode.Script
import DocQuery.Unicode.ScriptExtension
import DocQuery.Unicode.SentenceBreak
import DocQuery.Unicode.Word
import DocQuery.Unicode.WordBreak
import DocQuery.Value.Basic
import DocQuery.Value.Canonical
import DocQuery.Value.Equality
import DocQuery.Value.Form
import DocQuery.Value.OfJson
import DocQuery.Value.Order
import DocQuery.Value.Text
import DocQuery.Value.Timestamp
import DocQuery.Value.TimestampText
import DocQuery.Proofs.Number.Comparison
import DocQuery.Proofs.Value.TotalOrder
import DocQuery.Proofs.Entries
import DocQuery.Proofs.Value.DomainOrder
import DocQuery.Proofs.Value.DistinctKeys
import DocQuery.Proofs.Value.Equality
import DocQuery.Proofs.Number.Decimal
import DocQuery.Proofs.Number.DoubleText
import DocQuery.Proofs.Number.Canonical
import DocQuery.Proofs.Text.Quoted
import DocQuery.Proofs.Text.Base64
import DocQuery.Proofs.Value.Canonical
import DocQuery.Proofs.Entries.Agreement
import DocQuery.Proofs.Value.Agreement
import DocQuery.Proofs.Eval.Agreement
import DocQuery.Proofs.Eval.Functions
import DocQuery.Proofs.Eval.Apply
import DocQuery.Proofs.Document
import DocQuery.Proofs.Eval.Evaluate
import DocQuery.Proofs.Sorting
import DocQuery.Proofs.Sorting.Order
import DocQuery.Proofs.Pipeline.Matching
import DocQuery.Proofs.Pipeline.Rows
import DocQuery.Proofs.Pipeline.Groups
import DocQuery.Proofs.Pipeline.Totals
import DocQuery.Proofs.Pipeline.Execute
import DocQuery.Proofs.Path
import DocQuery.Proofs.Expr
import DocQuery.Proofs.Pipeline.Reading
import DocQuery.Proofs.Pipeline.Results
import DocQuery.Proofs.Pipeline.Sorting
import DocQuery.Proofs.Value.References
import DocQuery.Proofs.Lists.Cells
import DocQuery.Proofs.Pipeline.Partition
import DocQuery.Proofs.Pipeline.Grouping
import DocQuery.Proofs.Regex.Spans
import DocQuery.Proofs.Regex.Parts
import DocQuery.Proofs.Pattern.Wildcards
import DocQuery.Proofs.Pattern.Cache
import DocQuery.Proofs.Pipeline.Limits
import DocQuery.Proofs.Eval.Operands
import DocQuery.Proofs.Eval.Consulted
import DocQuery.Proofs.Eval.Context
import DocQuery.Proofs.Pipeline.Context
import DocQuery.Proofs.Pipeline.Composition
import DocQuery.Proofs.Document.Reading
import DocQuery.Proofs.Eval.Fields
import DocQuery.Proofs.Pipeline.Evaluations
import DocQuery.Proofs.Pipeline.Projection
import DocQuery.Proofs.Eval.EntryOrder
import DocQuery.Proofs.Pipeline.Aliases
import DocQuery.Proofs.Pipeline.EntryOrder
import DocQuery.Proofs.Number.Signs
import DocQuery.Proofs.Pipeline.Nearest
import DocQuery.Proofs.Engine.Execute
import DocQuery.Proofs.Engine.Thresholds
import DocQuery.Proofs.Engine.Log
import DocQuery.Proofs.Value.Vectors
import DocQuery.Proofs.Pipeline.Identity
import DocQuery.Proofs.Engine.Counters
import DocQuery.Proofs.Pipeline.Construction
import DocQuery.Proofs.Pipeline.Respelling
import DocQuery.Proofs.Machine.Execute
import DocQuery.Proofs.Pipeline.Permutation
import DocQuery.Proofs.Pipeline.Errors
import DocQuery.Proofs.Pipeline.Counting
import DocQuery.Proofs.Pipeline.Filtering
import DocQuery.Proofs.Eval.Containment
import DocQuery.Proofs.Document.Writing
import DocQuery.Proofs.Pipeline.Assigning
import DocQuery.Proofs.Eval.Comparisons
import DocQuery.Proofs.Eval.Conditions
import DocQuery.Proofs.Eval.Strictness
import DocQuery.Proofs.Pipeline.Conditions
import DocQuery.Proofs.Regex.Locality
import DocQuery.Proofs.Regex.Escapes
import DocQuery.Proofs.Regex.Classes
import DocQuery.Proofs.Regex.Groups
import DocQuery.Proofs.Regex.WholeText
import DocQuery.Proofs.Pattern.WholeText
import DocQuery.Proofs.Eval.Connectives
import DocQuery.Proofs.Value.Reflexivity
import DocQuery.Proofs.Pipeline.Extremes
import DocQuery.Proofs.Number.Integers
import DocQuery.Proofs.Pipeline.Sums
import DocQuery.Proofs.Eval.Integers
import DocQuery.Proofs.Value.Timestamp
import DocQuery.Proofs.Machine.Instants
import DocQuery.Proofs.Eval.Shifts
import DocQuery.Proofs.Pipeline.Distinct
import DocQuery.Proofs.Path.Texts
import DocQuery.Proofs.Json.Texts
import DocQuery.Proofs.Log.Line
import DocQuery.Proofs.Eval.Slices
import DocQuery.Proofs.Eval.Items
import DocQuery.Proofs.Entries.Writes
import DocQuery.Proofs.Eval.Maps
import DocQuery.Proofs.Number.Rational
import DocQuery.Proofs.Machine.Doubles
