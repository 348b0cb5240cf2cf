import Verdict.Text.Ranges
import Verdict.Text.Printable
import Verdict.Text.Word
import Verdict.Text.Casing
import Verdict.Text.Digits
import Verdict.Text.Quoted
import Verdict.Number.Binary64
import Verdict.Number.Shortest
import Verdict.Number.Written
import Verdict.Number.Reading
import Verdict.Calendar
import Verdict.Calendar.Written
import Verdict.Value
import Verdict.Identifier
import Verdict.Fault
import Verdict.Value.Order
import Verdict.Value.Content
import Verdict.Value.Display
import Verdict.Table
import Verdict.Code
import Verdict.Parameter
import Verdict.Failure
import Verdict.Shape
import Verdict.Message.Template
import Verdict.Message.Builtin
import Verdict.Message.Log
import Verdict.Message.Provider
import Verdict.Message.Registry
import Verdict.Pattern.CharSet
import Verdict.Pattern.Expr
import Verdict.Pattern.Match
import Verdict.Pattern.Reading
import Verdict.Check
import Verdict.Check.Text
import Verdict.Check.Number
import Verdict.Check.Collection
import Verdict.Check.Date
import Verdict.Check.General
import Verdict.Result
import Verdict.Result.Forest
import Verdict.Proofs.Result.Index
import Verdict.Proofs.Result.Consistency
import Verdict.Rule
import Verdict.Proofs.Rule.Report
import Verdict.Proofs.Result.History
import Verdict.Proofs.Result.Replacement
import Verdict.Proofs.Rule.Enrichment
import Verdict.Proofs.Rule.Layering
import Verdict.Session
import Verdict.Yaml.Cursor
import Verdict.Yaml.Scalar.Quoted
import Verdict.Yaml.Scalar.Plain
import Verdict.Yaml.Scalar.Block
import Verdict.Yaml.Token
import Verdict.Yaml.Scalar.Implicit
import Verdict.Yaml.Scalar.Meaning
import Verdict.Yaml.Node
import Verdict.Yaml.Document
import Verdict.Files
import Verdict.Catalog.Layout
import Verdict.Catalog
import Verdict.Settings
import Verdict.Proofs.Message.Splitting
import Verdict.Proofs.Session.History
import Verdict.Proofs.Session.Change
import Verdict.Proofs.Session.Growth
import Verdict.Proofs.Session.Nesting
import Verdict.Proofs.Session.Breaker
import Verdict.Proofs.Table
import Verdict.Proofs.Message.Cache
import Verdict.Proofs.Message.Routing
import Verdict.Proofs.Session.Results
import Verdict.Proofs.Session.Scope
import Verdict.Proofs.Message.Desk
import Verdict.Proofs.Rule.Labels
import Verdict.Proofs.Rule.Wrapping
import Verdict.Proofs.Rule.Distribution
import Verdict.Proofs.Message.Slots
import Verdict.Proofs.Failure
import Verdict.Proofs.Check.Building
import Verdict.Proofs.Rule.Adding
import Verdict.Proofs.Check.Wording
import Verdict.Proofs.Rule.Confinement
import Verdict.Proofs.Session.Confinement
import Verdict.Proofs.Message.Setup
import Verdict.Proofs.Value.Scale
import Verdict.Proofs.Value.Mapping
import Verdict.Proofs.Yaml.Document
import Verdict.Proofs.Catalog.Order
import Verdict.Proofs.Catalog.Layout
import Verdict.Proofs.Calendar
import Verdict.Proofs.Value.Display
import Verdict.Proofs.Catalog.Loading
import Verdict.Proofs.Catalog.Checking
import Verdict.Proofs.Catalog.Applying
import Verdict.Proofs.Failure.Overlay
import Verdict.Proofs.Rule.Outcome
import Verdict.Proofs.Rule.Chaining
import Verdict.Proofs.Rule.Naming
import Verdict.Proofs.Catalog.Filtering
import Verdict.Proofs.Value.Order
import Verdict.Proofs.Check.Range
import Verdict.Proofs.Message.Dependence
import Verdict.Proofs.Session.Descent
import Verdict.Proofs.Catalog.Escaping
import Verdict.Proofs.Check.TwoSided
import Verdict.Proofs.Check.Stripping
import Verdict.Proofs.Check.Duplicates
import Verdict.Proofs.Check.Dates
import Verdict.Proofs.Pattern.Repetition
import Verdict.Proofs.Check.Characters
