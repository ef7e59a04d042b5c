import RecordCheck.Calendar.Date
import RecordCheck.Calendar.DateTime
import RecordCheck.Calendar.Iso
import RecordCheck.Catalogue
import RecordCheck.Coercion.Array
import RecordCheck.Coercion.Basic
import RecordCheck.Coercion.Boolean
import RecordCheck.Coercion.Date
import RecordCheck.Coercion.Number
import RecordCheck.Coercion.Text
import RecordCheck.Configuration.Basic
import RecordCheck.Configuration.Settings
import RecordCheck.Configuration.Source
import RecordCheck.Custom.Answer
import RecordCheck.Custom.Dispatch
import RecordCheck.Custom.Registry
import RecordCheck.Custom.Validator
import RecordCheck.Document.Json
import RecordCheck.Document.Scalar
import RecordCheck.Document.Yaml
import RecordCheck.Duration
import RecordCheck.Fault
import RecordCheck.Hook
import RecordCheck.Lookup
import RecordCheck.Number.Arithmetic
import RecordCheck.Number.Basic
import RecordCheck.Number.Binary64
import RecordCheck.Number.Binary64.Shortest
import RecordCheck.Number.Decimal
import RecordCheck.Number.Exact
import RecordCheck.Number.Numeral
import RecordCheck.Number.Rounding
import RecordCheck.Outcome
import RecordCheck.Parallel.Deadline
import RecordCheck.Parallel.Plan
import RecordCheck.Parallel.Planning
import RecordCheck.Parallel.Run
import RecordCheck.Parallel.Task
import RecordCheck.Parallel.Timeline
import RecordCheck.Parallel.Trace
import RecordCheck.Proofs.Attempt
import RecordCheck.Proofs.Coercion
import RecordCheck.Proofs.Distinct
import RecordCheck.Proofs.ErrorTree
import RecordCheck.Proofs.Idempotence
import RecordCheck.Proofs.Independence
import RecordCheck.Proofs.Outcome
import RecordCheck.Proofs.Parallel.Accord
import RecordCheck.Proofs.Parallel.Agreement
import RecordCheck.Proofs.Parallel.Conduct
import RecordCheck.Proofs.Parallel.Determinacy
import RecordCheck.Proofs.Parallel.ErrorTree
import RecordCheck.Proofs.Parallel.Guarantee
import RecordCheck.Proofs.Parallel.HookCalls
import RecordCheck.Proofs.Parallel.Positions
import RecordCheck.Proofs.Parallel.Progress
import RecordCheck.Proofs.Parallel.Step
import RecordCheck.Proofs.Parallel.Termination
import RecordCheck.Proofs.Parallel.Timeline
import RecordCheck.Proofs.Record
import RecordCheck.Proofs.Repetition
import RecordCheck.Proofs.Rule.Structure
import RecordCheck.Proofs.Soundness
import RecordCheck.Proofs.Stability
import RecordCheck.Proofs.Strict
import RecordCheck.Proofs.Text
import RecordCheck.Proofs.Validation
import RecordCheck.Regex.Error
import RecordCheck.Regex.Match
import RecordCheck.Regex.Reader
import RecordCheck.Regex.Syntax
import RecordCheck.Report.Entry
import RecordCheck.Report.Payload
import RecordCheck.Report.Tree
import RecordCheck.Rule.Argument
import RecordCheck.Rule.Basic
import RecordCheck.Rule.Build
import RecordCheck.Rule.Condition
import RecordCheck.Rule.Definition
import RecordCheck.Script
import RecordCheck.Text.Alphanumeric
import RecordCheck.Text.Blank
import RecordCheck.Text.Case
import RecordCheck.Text.Case.Tables
import RecordCheck.Text.Digit
import RecordCheck.Text.Printable
import RecordCheck.Text.Quoted
import RecordCheck.Text.Ranges
import RecordCheck.Validation
import RecordCheck.Validator
import RecordCheck.Value.Basic
import RecordCheck.Value.Equality
import RecordCheck.Value.Integer
import RecordCheck.Value.Membership
import RecordCheck.Value.Text
import RecordCheck.Proofs.Parallel.Slots
import RecordCheck.Proofs.Operations
import RecordCheck.Proofs.Parallel.Alone
import RecordCheck.Proofs.Parallel.Clock
import RecordCheck.Proofs.Parallel.Deadlock
import RecordCheck.Proofs.Parallel.HookResults
import RecordCheck.Proofs.Parallel.Isolation
import RecordCheck.Proofs.Parallel.Abort
import RecordCheck.Proofs.Value.Structure
import RecordCheck.Proofs.Conversion
import RecordCheck.Proofs.Report.Leaves
import RecordCheck.Proofs.Report.Paths
import RecordCheck.Proofs.Report.Arrangement
import RecordCheck.Proofs.Report.Losses
import RecordCheck.Proofs.Report.Rendering
import RecordCheck.Proofs.Regex.Repetition
import RecordCheck.Proofs.Frame
import RecordCheck.Proofs.Calendar.Days
import RecordCheck.Proofs.Calendar.Instants
import RecordCheck.Proofs.Calendar.Reading
import RecordCheck.Proofs.Dates
import RecordCheck.Proofs.Number.Order
import RecordCheck.Proofs.Value.Comparison
import RecordCheck.Proofs.Conditions
import RecordCheck.Proofs.CoercionFaults
import RecordCheck.Proofs.Report.Messages
import RecordCheck.Proofs.Report.Injection
import RecordCheck.Proofs.Custom.Answers
import RecordCheck.Proofs.Custom.Dispatch
import RecordCheck.Proofs.Email
import RecordCheck.Proofs.Value.Alike
import RecordCheck.Proofs.Value.Writing
import RecordCheck.Proofs.Duplicates
import RecordCheck.Proofs.Report.Translation
import RecordCheck.Proofs.Number.Numeral
import RecordCheck.Proofs.Integers
import RecordCheck.Proofs.Delimited
import RecordCheck.Proofs.Rule.Building
import RecordCheck.Proofs.Rule.Written
import RecordCheck.Proofs.Rule.ReadBack
import RecordCheck.Proofs.Rule.Selection
import RecordCheck.Proofs.Defaults
import RecordCheck.Proofs.Custom.Registrations
import RecordCheck.Proofs.Configuration.Settings
import RecordCheck.Proofs.Configuration.Names
import RecordCheck.Proofs.Configuration.Overrides
import RecordCheck.Proofs.Configuration.Sources
