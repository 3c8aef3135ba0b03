import Rulebook.Arguments
import Rulebook.Calendar
import Rulebook.Check
import Rulebook.ClassInfo
import Rulebook.Declare
import Rulebook.DeclaredType
import Rulebook.DeclaredType.Forward
import Rulebook.DeclaredType.Text
import Rulebook.Document.Fault
import Rulebook.Document.Json
import Rulebook.Document.Yaml
import Rulebook.Document.Yaml.Base64
import Rulebook.Document.Yaml.Cursor
import Rulebook.Document.Yaml.Meaning
import Rulebook.Document.Yaml.Node
import Rulebook.Document.Yaml.Resolve
import Rulebook.Document.Yaml.Scalar
import Rulebook.Document.Yaml.Token
import Rulebook.Fault
import Rulebook.Number.Binary
import Rulebook.Number.Decimal
import Rulebook.Number.Numeral
import Rulebook.Number.Power
import Rulebook.Number.Quantity
import Rulebook.Pattern
import Rulebook.Pattern.Match
import Rulebook.Pattern.Parser
import Rulebook.Predicate
import Rulebook.Predicate.Named
import Rulebook.Proofs.Action
import Rulebook.Proofs.Run.Alike
import Rulebook.Property
import Rulebook.Registry
import Rulebook.Report
import Rulebook.Run
import Rulebook.Session.Call
import Rulebook.Session.Configuring
import Rulebook.Session.Eval
import Rulebook.Session.Opening
import Rulebook.Session.Play
import Rulebook.Session.Registering
import Rulebook.Session.Reporting
import Rulebook.Session.State
import Rulebook.Session.Term
import Rulebook.Session.Validation
import Rulebook.Session.Validators
import Rulebook.Settings.File
import Rulebook.Settings.Mapping
import Rulebook.Shape
import Rulebook.Store
import Rulebook.Table
import Rulebook.Template
import Rulebook.Text.Blank
import Rulebook.Text.CaseRun
import Rulebook.Text.Cased
import Rulebook.Text.CharSet
import Rulebook.Text.Fold
import Rulebook.Text.Half
import Rulebook.Text.Identifier
import Rulebook.Text.Lower
import Rulebook.Text.Path
import Rulebook.Text.Printable
import Rulebook.Text.Quoted
import Rulebook.Text.Stream
import Rulebook.Text.Utf8
import Rulebook.Text.Word
import Rulebook.Url
import Rulebook.ValidatorClass
import Rulebook.Value
import Rulebook.Value.Access
import Rulebook.Value.Convert
import Rulebook.Value.Native
import Rulebook.Value.Order
import Rulebook.Value.Text
import Rulebook.Proofs.Run.Loops
import Rulebook.Proofs.Run.Modes
import Rulebook.Proofs.Report
import Rulebook.Proofs.Run.Tasks
import Rulebook.Proofs.Run.Verdicts
import Rulebook.Proofs.Run.Cancellation
import Rulebook.Proofs.Declare.Plan
import Rulebook.Proofs.Declare.History
import Rulebook.Proofs.Declare.Declaring
import Rulebook.Proofs.Run.Reentry
import Rulebook.Proofs.Template
import Rulebook.Proofs.Declare.DefaultMessage
import Rulebook.Proofs.Declare.Failure
import Rulebook.Proofs.Registry
import Rulebook.Proofs.Table
import Rulebook.Proofs.Registry.Failure
import Rulebook.Proofs.Registry.Attributes
import Rulebook.Proofs.Registry.Scan
import Rulebook.Proofs.Registry.Discovery
import Rulebook.Proofs.Report.Merge
import Rulebook.Proofs.Report.SelfMerge
import Rulebook.Proofs.Session.Reports
import Rulebook.Proofs.Run.Split
import Rulebook.Proofs.Declare.Overrides
import Rulebook.Proofs.DeclaredType.Leaves
import Rulebook.Proofs.DeclaredType.Writing
import Rulebook.Proofs.DeclaredType.Inhabitants
import Rulebook.Proofs.Declare.SignChecks
import Rulebook.Proofs.Run.Refusal
import Rulebook.Proofs.Declare.Wiring
import Rulebook.Proofs.Calendar
import Rulebook.Proofs.Predicate.Dates
import Rulebook.Proofs.Property.Hints
import Rulebook.Proofs.Property.Members
import Rulebook.Proofs.Property.Fallback
import Rulebook.Proofs.Property.Faults
import Rulebook.Proofs.Property.Names
import Rulebook.Proofs.Session.Terms
import Rulebook.Proofs.Predicate.Clocks
import Rulebook.Proofs.Predicate.Signs
import Rulebook.Proofs.Predicate.Absence
import Rulebook.Proofs.Predicate.Shapes
import Rulebook.Proofs.Predicate.Addresses
import Rulebook.Proofs.Declare.LiteralMessage
import Rulebook.Proofs.Value.Writing
import Rulebook.Proofs.Text.Stream
import Rulebook.Proofs.Settings.Mapping
import Rulebook.Proofs.Settings.File
import Rulebook.Proofs.Session.Classes
