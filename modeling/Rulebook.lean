import Rulebook.Text
import Rulebook.Text.Classes
import Rulebook.Text.Printable
import Rulebook.Text.Quoted
import Rulebook.Text.Integer
import Rulebook.Text.Utf8
import Rulebook.Text.Encoding
import Rulebook.Text.Lowercase
import Rulebook.Text.Marks
import Rulebook.Text.Composition
import Rulebook.Text.Punycode
import Rulebook.Number.Binary64
import Rulebook.Number.Decimal
import Rulebook.Number.Shortest
import Rulebook.Number.Rounded
import Rulebook.Json
import Rulebook.Json.Writer
import Rulebook.Json.Literal
import Rulebook.Json.Reader
import Rulebook.Kind
import Rulebook.Lookup
import Rulebook.Field
import Rulebook.Depth
import Rulebook.Defect
import Rulebook.Check
import Rulebook.RuleTree
import Rulebook.Document
import Rulebook.Part
import Rulebook.Settings.Environment
import Rulebook.Settings.EnvFile
import Rulebook.Schema
import Rulebook.Schema.Conformance
import Rulebook.Schema.Export
import Rulebook.Schema.Reach
import Rulebook.CommandLine.FilePath
import Rulebook.CommandLine.FileTree
import Rulebook.CommandLine.Options
import Rulebook.CommandLine.Usage
import Rulebook.CommandLine.Report
import Rulebook.CommandLine.Streams
import Rulebook.Registry.Clock
import Rulebook.Registry.Column
import Rulebook.Registry.Store
import Rulebook.Registry.Form
import Rulebook.Registry.Display
import Rulebook.Service.Label
import Rulebook.Service.Host
import Rulebook.Service.Address
import Rulebook.Service.Target
import Rulebook.Service.Request
import Rulebook.Service.VerdictForm
import Rulebook.Service.Draft
import Rulebook.Service.Answer
import Rulebook.Main
import Rulebook.Proofs.Lists
import Rulebook.Proofs.Text.Ascii
import Rulebook.Proofs.Depth
import Rulebook.Proofs.Json.Members
import Rulebook.Proofs.RuleTree.Recursion
import Rulebook.Proofs.RuleTree.Walk
import Rulebook.Proofs.RuleTree.Steps
import Rulebook.Proofs.RuleTree.Pruning
import Rulebook.Proofs.Document.Grammar
import Rulebook.Proofs.Json.DistinctKeys
import Rulebook.Proofs.Document.Verdict
import Rulebook.Proofs.Schema.Acceptance
import Rulebook.Proofs.Schema.Agreement
import Rulebook.Proofs.Schema.Reach
import Rulebook.Proofs.Schema.Places
import Rulebook.Proofs.Schema.Counting
import Rulebook.Proofs.Registry.Store
import Rulebook.Proofs.Registry.Display
import Rulebook.Proofs.Service.ActiveVersion
import Rulebook.Proofs.Registry.Session
import Rulebook.Proofs.Service.Calls
import Rulebook.Proofs.Service.Atomicity
import Rulebook.Proofs.Registry.Revision
import Rulebook.Proofs.Service.Provenance
import Rulebook.Proofs.Json.Transmission
import Rulebook.Proofs.Service.Ledger
import Rulebook.Proofs.Service.Trail
import Rulebook.Proofs.Service.Status
import Rulebook.Proofs.Registry.Listing
import Rulebook.Proofs.Service.Storage
import Rulebook.Proofs.Text.Utf8
import Rulebook.Proofs.Service.Names
import Rulebook.Proofs.Service.Sending
import Rulebook.Proofs.Service.Prediction
import Rulebook.Proofs.Registry.Footprint
import Rulebook.Proofs.Service.Footprint
import Rulebook.Proofs.Document.Bounds
import Rulebook.Proofs.Document.NormalForm
import Rulebook.Proofs.Document.Context
import Rulebook.Proofs.Document.Labels
import Rulebook.Proofs.Document.Faults
import Rulebook.Proofs.Json.Grammar
import Rulebook.Proofs.Json.Lexemes
import Rulebook.Proofs.Json.Recognition
import Rulebook.Proofs.Document.Reading
import Rulebook.Proofs.Json.LineEnds
import Rulebook.Proofs.Document.LineEnds
import Rulebook.Proofs.CommandLine.FilePath
import Rulebook.Proofs.Json.Ascii
import Rulebook.Proofs.CommandLine.Streams
import Rulebook.Proofs.CommandLine.Report
import Rulebook.Proofs.Text.Integer
import Rulebook.Proofs.Settings.Loading
import Rulebook.Proofs.CommandLine.Depth
import Rulebook.Proofs.Number.Overflow
import Rulebook.Proofs.Json.Numerals
import Rulebook.Proofs.Json.Parts
import Rulebook.Proofs.Json.Finiteness
import Rulebook.Proofs.Document.Numbers
