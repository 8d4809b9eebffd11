import Audience.Authoring.Edit
import Audience.Authoring.Program
import Audience.Authoring.Session
import Audience.Calendar.Date
import Audience.Calendar.Instant
import Audience.Calendar.Reader
import Audience.Catalog.Basic
import Audience.Catalog.Codec
import Audience.Coercion
import Audience.Comparison
import Audience.Customer.Basic
import Audience.Customer.Codec
import Audience.Double.Basic
import Audience.Double.Reader
import Audience.Double.Rounding
import Audience.Double.Shortest
import Audience.Envelope
import Audience.Error
import Audience.Evaluation
import Audience.Journal
import Audience.Json.Basic
import Audience.Json.Printer
import Audience.Json.Reader
import Audience.Json.Shape
import Audience.Operator
import Audience.Predicate.Basic
import Audience.Predicate.Compilation
import Audience.Proofs.Authoring.Commutation
import Audience.Proofs.Authoring.Construction
import Audience.Proofs.Authoring.Edit
import Audience.Proofs.Authoring.Fitting
import Audience.Proofs.Authoring.Observation
import Audience.Proofs.Authoring.Patch
import Audience.Proofs.Authoring.Removal
import Audience.Proofs.Authoring.Session
import Audience.Proofs.Authoring.Update
import Audience.Proofs.Calendar.Day
import Audience.Proofs.Calendar.Digits
import Audience.Proofs.Calendar.Latest
import Audience.Proofs.Calendar.Order
import Audience.Proofs.Calendar.RoundTrip
import Audience.Proofs.Calendar.Strict
import Audience.Proofs.Catalog.Validity
import Audience.Proofs.Double.Exceptional
import Audience.Proofs.Double.Notation
import Audience.Proofs.Double.Rounding
import Audience.Proofs.Double.Shortest
import Audience.Proofs.Double.Sum
import Audience.Proofs.Double.Units
import Audience.Proofs.Double.Whole
import Audience.Proofs.Envelope.RoundTrip
import Audience.Proofs.Json.Proper
import Audience.Proofs.Json.RoundTrip
import Audience.Proofs.Keyed
import Audience.Proofs.Predicate.Agreement
import Audience.Proofs.Predicate.Dependence
import Audience.Proofs.Predicate.Folding
import Audience.Proofs.Predicate.NormalForm
import Audience.Proofs.Predicate.Remainder
import Audience.Proofs.Predicate.Warnings
import Audience.Proofs.Record.Batches
import Audience.Proofs.Record.Counted
import Audience.Proofs.Record.Days
import Audience.Proofs.Record.History
import Audience.Proofs.Record.Import
import Audience.Proofs.Record.OrderCount
import Audience.Proofs.Record.Spend
import Audience.Proofs.Record.Table
import Audience.Proofs.Rule.Coherence
import Audience.Proofs.Rule.Comparison
import Audience.Proofs.Rule.Context
import Audience.Proofs.Rule.Decoding
import Audience.Proofs.Rule.Depth
import Audience.Proofs.Rule.Distinct
import Audience.Proofs.Rule.Equality
import Audience.Proofs.Rule.Fit
import Audience.Proofs.Rule.Number
import Audience.Proofs.Rule.Occurrences
import Audience.Proofs.Rule.Operand
import Audience.Proofs.Rule.Persistence
import Audience.Proofs.Rule.Places
import Audience.Proofs.Rule.Policies
import Audience.Proofs.Rule.Reading
import Audience.Proofs.Rule.Rearrangement
import Audience.Proofs.Rule.Replacement
import Audience.Proofs.Rule.Reports
import Audience.Proofs.Rule.Revision
import Audience.Proofs.Rule.Rewriting
import Audience.Proofs.Rule.Saving
import Audience.Proofs.Rule.Shape
import Audience.Proofs.Rule.Tree
import Audience.Proofs.Rule.Validity
import Audience.Proofs.Rule.Visit
import Audience.Proofs.Segment.RoundTrip
import Audience.Proofs.Segment.Store
import Audience.Proofs.Service.Counters
import Audience.Proofs.Service.Envelopes
import Audience.Proofs.Service.Frame
import Audience.Proofs.Service.History
import Audience.Proofs.Service.Invariant
import Audience.Proofs.Service.Isolation
import Audience.Proofs.Service.Lifecycle
import Audience.Proofs.Service.Membership
import Audience.Proofs.Service.Outage
import Audience.Proofs.Service.Preview
import Audience.Proofs.Service.Quiet
import Audience.Proofs.Service.Request
import Audience.Proofs.Service.Step
import Audience.Proofs.Sql.Agreement
import Audience.Proofs.Sql.Independence
import Audience.Proofs.Sql.Like
import Audience.Proofs.Sql.Parameters
import Audience.Proofs.Sql.Pattern
import Audience.Proofs.Sql.Reader
import Audience.Proofs.Sql.Safety
import Audience.Proofs.Sql.Scanner
import Audience.Proofs.Sql.Truth
import Audience.Proofs.Sql.Typing
import Audience.Proofs.Text.Blank
import Audience.Proofs.Text.Lowercase
import Audience.Proofs.Text.Search
import Audience.Proofs.Uuid.RoundTrip
import Audience.Record
import Audience.RecordStore
import Audience.Rule.Basic
import Audience.Rule.Codec
import Audience.Rule.EmptyGroup
import Audience.Rule.Operand
import Audience.Rule.Validation
import Audience.Segment.Basic
import Audience.Segment.Codec
import Audience.Service.Basic
import Audience.Service.Operations
import Audience.Settings.Basic
import Audience.Settings.Environment
import Audience.Sql.Expression
import Audience.Sql.Statement
import Audience.Text.Blank
import Audience.Text.LetterCase
import Audience.Text.Lowercase
import Audience.Text.Search
import Audience.Text.Visible
import Audience.Uuid
