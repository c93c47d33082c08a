import Hyperslab.CharSet
import Hyperslab.Comparison
import Hyperslab.Count
import Hyperslab.Decimal.Binary
import Hyperslab.Decimal.Literal
import Hyperslab.Decimal.Shortest
import Hyperslab.Decimal.Text
import Hyperslab.Digit
import Hyperslab.Fault
import Hyperslab.Filter
import Hyperslab.Filter.RowCursor
import Hyperslab.Json
import Hyperslab.Json.Numeral
import Hyperslab.Json.Request
import Hyperslab.Json.Row
import Hyperslab.Limits
import Hyperslab.Name
import Hyperslab.Odometer
import Hyperslab.Operator
import Hyperslab.Parser
import Hyperslab.Pattern.Automaton
import Hyperslab.Pattern.ByteSequence
import Hyperslab.Pattern.Property
import Hyperslab.Pattern.Reader
import Hyperslab.Pattern.Regex
import Hyperslab.Pattern.Simplify
import Hyperslab.Pattern.Whole
import Hyperslab.Proofs.Count
import Hyperslab.Proofs.Decimal
import Hyperslab.Proofs.Decimal.Packing
import Hyperslab.Proofs.Decimal.ReadBack
import Hyperslab.Proofs.Decimal.Rounding
import Hyperslab.Proofs.Decimal.Scientific
import Hyperslab.Proofs.Filter.Algebra
import Hyperslab.Proofs.Filter.Bound
import Hyperslab.Proofs.Filter.Draining
import Hyperslab.Proofs.Filter.Evaluation
import Hyperslab.Proofs.Filter.Fields
import Hyperslab.Proofs.Filter.Joined
import Hyperslab.Proofs.Filter.Levels
import Hyperslab.Proofs.Filter.Reread
import Hyperslab.Proofs.Filter.Rewritten
import Hyperslab.Proofs.Filter.RowCursor
import Hyperslab.Proofs.Filter.Text
import Hyperslab.Proofs.Filter.WellFormed
import Hyperslab.Proofs.Odometer
import Hyperslab.Proofs.Odometer.SizeHint
import Hyperslab.Proofs.Odometer.Tuples
import Hyperslab.Proofs.Pattern.Continued
import Hyperslab.Proofs.Pattern.Group
import Hyperslab.Proofs.Pattern.Matches
import Hyperslab.Proofs.Pattern.Whole
import Hyperslab.Proofs.Reading
import Hyperslab.Proofs.Reading.Accepted
import Hyperslab.Proofs.Reading.Filter
import Hyperslab.Proofs.Reading.Grammatical
import Hyperslab.Proofs.Reading.Language
import Hyperslab.Proofs.Reading.Leaves
import Hyperslab.Proofs.Reading.Lexeme
import Hyperslab.Proofs.Reading.Literal
import Hyperslab.Proofs.Reading.Operand
import Hyperslab.Proofs.Reading.Request
import Hyperslab.Proofs.Reading.Sentence
import Hyperslab.Proofs.Reading.Slice
import Hyperslab.Proofs.Reading.Word
import Hyperslab.Proofs.Reading.Written
import Hyperslab.Proofs.Reading.Yield
import Hyperslab.Proofs.Request.Depth
import Hyperslab.Proofs.Request.Edits
import Hyperslab.Proofs.Request.Limited
import Hyperslab.Proofs.Request.Mention
import Hyperslab.Proofs.Request.Normal
import Hyperslab.Proofs.Request.Order
import Hyperslab.Proofs.Request.Outcome
import Hyperslab.Proofs.Request.Rendered
import Hyperslab.Proofs.Request.Rerun
import Hyperslab.Proofs.Request.Resizing
import Hyperslab.Proofs.Request.Restored
import Hyperslab.Proofs.Request.RoundTrip
import Hyperslab.Proofs.Request.Run
import Hyperslab.Proofs.Request.Selection
import Hyperslab.Proofs.Request.Spelled
import Hyperslab.Proofs.Request.Universal
import Hyperslab.Proofs.Schema
import Hyperslab.Proofs.Schema.Builder
import Hyperslab.Proofs.Schema.Forest
import Hyperslab.Proofs.Schema.Group
import Hyperslab.Proofs.Slice
import Hyperslab.Proofs.Slice.Arithmetic
import Hyperslab.Proofs.Slice.Indices
import Hyperslab.Proofs.Slice.Text
import Hyperslab.Proofs.View.Alike
import Hyperslab.Proofs.View.Clause
import Hyperslab.Proofs.View.Coherent
import Hyperslab.Proofs.View.Contraction
import Hyperslab.Proofs.View.Edit
import Hyperslab.Proofs.View.Expand
import Hyperslab.Proofs.View.Extent
import Hyperslab.Proofs.View.Filters
import Hyperslab.Proofs.View.InStep
import Hyperslab.Proofs.View.References
import Hyperslab.Proofs.View.Refused
import Hyperslab.Proofs.View.Request
import Hyperslab.Proofs.View.Resolve
import Hyperslab.Proofs.View.Retrace
import Hyperslab.Proofs.View.Run
import Hyperslab.Proofs.View.Shadowing
import Hyperslab.Proofs.View.Step
import Hyperslab.Proofs.View.Universal
import Hyperslab.Proofs.View.Whole
import Hyperslab.Proofs.View.WorkList
import Hyperslab.Proofs.ViewCache
import Hyperslab.Request
import Hyperslab.Request.Compile
import Hyperslab.Request.Grammar
import Hyperslab.Row
import Hyperslab.Schema
import Hyperslab.Schema.Builder
import Hyperslab.Settings
import Hyperslab.Slice
import Hyperslab.Unicode.Age
import Hyperslab.Unicode.Alphanumeric
import Hyperslab.Unicode.BinaryProperty
import Hyperslab.Unicode.CaseFold
import Hyperslab.Unicode.Category
import Hyperslab.Unicode.Runs
import Hyperslab.Unicode.Script
import Hyperslab.Unicode.ScriptExtension
import Hyperslab.Unicode.Segmentation
import Hyperslab.Unicode.Word
import Hyperslab.Value
import Hyperslab.View
import Hyperslab.View.Answer
import Hyperslab.View.Edit
import Hyperslab.View.Report
import Hyperslab.View.Written
import Hyperslab.ViewCache
import Hyperslab.Yaml
import Hyperslab.Yaml.Cursor
import Hyperslab.Yaml.Node
import Hyperslab.Yaml.Scalar
import Hyperslab.Yaml.Token
