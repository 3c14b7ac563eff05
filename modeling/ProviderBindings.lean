import ProviderBindings.Calendar
import ProviderBindings.Check.Fields
import ProviderBindings.Check.Findings
import ProviderBindings.Check.Repetition
import ProviderBindings.Check.Violation
import ProviderBindings.CommandLine.Options
import ProviderBindings.CommandLine.Program
import ProviderBindings.CommandLine.Request
import ProviderBindings.CommandLine.Session
import ProviderBindings.CommandLine.Usage
import ProviderBindings.Decimal.Binary64
import ProviderBindings.Decimal.Layout
import ProviderBindings.Decimal.Numeral
import ProviderBindings.Decimal.Power
import ProviderBindings.Decimal.Shortest
import ProviderBindings.Entries
import ProviderBindings.Fault
import ProviderBindings.FileTree
import ProviderBindings.Identifier
import ProviderBindings.Main
import ProviderBindings.Manifest
import ProviderBindings.Network
import ProviderBindings.Proofs.Acceptance
import ProviderBindings.Proofs.AccessorNames
import ProviderBindings.Proofs.Agreement
import ProviderBindings.Proofs.Attempt
import ProviderBindings.Proofs.CaseMoves
import ProviderBindings.Proofs.CaseVariants
import ProviderBindings.Proofs.Definitions
import ProviderBindings.Proofs.DistinctKeys
import ProviderBindings.Proofs.Emission
import ProviderBindings.Proofs.FieldFindings
import ProviderBindings.Proofs.InfoReader
import ProviderBindings.Proofs.Insertion
import ProviderBindings.Proofs.LetterCase
import ProviderBindings.Proofs.LiteralScan
import ProviderBindings.Proofs.Locality
import ProviderBindings.Proofs.ManifestOrder
import ProviderBindings.Proofs.ManifestReading
import ProviderBindings.Proofs.ManifestRoundTrip
import ProviderBindings.Proofs.ManifestShape
import ProviderBindings.Proofs.ModuleReader
import ProviderBindings.Proofs.ModuleSize
import ProviderBindings.Proofs.Naming
import ProviderBindings.Proofs.NetworkEquality
import ProviderBindings.Proofs.Notices
import ProviderBindings.Proofs.Prediction
import ProviderBindings.Proofs.PrintableText
import ProviderBindings.Proofs.QuietSessions
import ProviderBindings.Proofs.RaisedFaults
import ProviderBindings.Proofs.ReaderFailures
import ProviderBindings.Proofs.RepetitionCount
import ProviderBindings.Proofs.RepetitionPairs
import ProviderBindings.Proofs.ReportLines
import ProviderBindings.Proofs.Reports
import ProviderBindings.Proofs.RoundTrip
import ProviderBindings.Proofs.RunFrame
import ProviderBindings.Proofs.Saving
import ProviderBindings.Proofs.SmallLetters
import ProviderBindings.Proofs.StableReport
import ProviderBindings.Proofs.StringFields
import ProviderBindings.Proofs.UnrenderableGate
import ProviderBindings.Proofs.UntoldFaults
import ProviderBindings.Proofs.Utf8RoundTrip
import ProviderBindings.Proofs.ValueEquality
import ProviderBindings.Proofs.ValueText
import ProviderBindings.Proofs.WrittenLines
import ProviderBindings.Proofs.WrittenValues
import ProviderBindings.ProviderModule
import ProviderBindings.Text.CaseTable
import ProviderBindings.Text.CodeRange
import ProviderBindings.Text.DecimalDigit
import ProviderBindings.Text.Digits
import ProviderBindings.Text.LetterCase
import ProviderBindings.Text.Printable
import ProviderBindings.Text.Quoted
import ProviderBindings.Text.Utf8
import ProviderBindings.Toml.Document
import ProviderBindings.Toml.DottedKey
import ProviderBindings.Toml.Item
import ProviderBindings.Toml.Nesting
import ProviderBindings.Toml.Problem
import ProviderBindings.Toml.Scalar
import ProviderBindings.Toml.Scan
import ProviderBindings.Toml.StringLiteral
import ProviderBindings.Value.Basic
import ProviderBindings.Value.Equality
import ProviderBindings.Value.Text
import ProviderBindings.Version
