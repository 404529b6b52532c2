import HostAudit.Audit
import HostAudit.Catalog
import HostAudit.Catalog.Discovery
import HostAudit.Catalog.NumericId
import HostAudit.Catalog.Placeholder
import HostAudit.Catalog.Reader
import HostAudit.Check
import HostAudit.CommandLine
import HostAudit.CommandLine.Reader
import HostAudit.Comparison
import HostAudit.Definition.Readable
import HostAudit.Definition.Reader
import HostAudit.Definition.Writer
import HostAudit.FileTree
import HostAudit.Json.Reader
import HostAudit.Json.Token
import HostAudit.Json.Value
import HostAudit.Json.Writer
import HostAudit.Lint
import HostAudit.Lookup
import HostAudit.Main
import HostAudit.Number.Decimal
import HostAudit.Number.Double
import HostAudit.Number.Integer
import HostAudit.Path.Reader
import HostAudit.Path.Selection
import HostAudit.Path.Template
import HostAudit.Pattern.Class
import HostAudit.Pattern.Matching
import HostAudit.Pattern.Reader
import HostAudit.Pattern.Syntax
import HostAudit.Probe
import HostAudit.Report
import HostAudit.Report.Rendered
import HostAudit.Report.Terminal
import HostAudit.Report.Writer
import HostAudit.Script
import HostAudit.Script.Arithmetic
import HostAudit.Script.Columns
import HostAudit.Script.Commands
import HostAudit.Script.Condition
import HostAudit.Script.Glob
import HostAudit.Script.Grep
import HostAudit.Script.Machine
import HostAudit.Script.Octets
import HostAudit.Script.Printed
import HostAudit.Script.Program
import HostAudit.Script.Reader
import HostAudit.Script.Run
import HostAudit.Script.Syntax
import HostAudit.Session
import HostAudit.Settings
import HostAudit.Settings.Location
import HostAudit.Settings.Reader
import HostAudit.Settings.Writer
import HostAudit.TestItem
import HostAudit.TestSet
import HostAudit.Text.Blank
import HostAudit.Text.Pieces
import HostAudit.Text.Quoted
import HostAudit.Text.Utf8
import HostAudit.Time
import HostAudit.Toml.Quoted
import HostAudit.Toml.Reader
import HostAudit.Toml.Scalar
import HostAudit.Toml.Value
import HostAudit.Unicode.Category
import HostAudit.Unicode.Folding
import HostAudit.Unicode.Property
import HostAudit.Unicode.Runs
import HostAudit.Unicode.Script
import HostAudit.Yaml.Document
import HostAudit.Yaml.Meaning
import HostAudit.Yaml.Node
import HostAudit.Yaml.Node.Reader
import HostAudit.Yaml.Token
import HostAudit.Yaml.Token.Lexer
import HostAudit.Yaml.Token.Scalar
import HostAudit.Proofs.Answer
import HostAudit.Proofs.Evidence
import HostAudit.Proofs.Fallback
import HostAudit.Proofs.Verdict
import HostAudit.Proofs.Precedence
import HostAudit.Proofs.DecisionTable
import HostAudit.Proofs.ReportOrder
import HostAudit.Proofs.Counters
import HostAudit.Proofs.RunContents
import HostAudit.Proofs.Skipping
import HostAudit.Proofs.Filtering
import HostAudit.Proofs.ExitCode
import HostAudit.Proofs.Rereading
import HostAudit.Proofs.LookupFaults
import HostAudit.Proofs.LintSoundness
import HostAudit.Proofs.Requoting
import HostAudit.Proofs.RequotedCatalogs
import HostAudit.Proofs.LocalReaders
import HostAudit.Proofs.Locality
import HostAudit.Proofs.BlockLocality
import HostAudit.Proofs.TagLocality
import HostAudit.Proofs.TokenLocality
import HostAudit.Proofs.Pieces
import HostAudit.Proofs.IdTokens
import HostAudit.Proofs.TokenRuns
import HostAudit.Proofs.IdQuoting
import HostAudit.Proofs.IdLines
import HostAudit.Proofs.QuotedCatalogs
import HostAudit.Proofs.LineReplacement
import HostAudit.Proofs.SingleOutput
import HostAudit.Proofs.FlagValues
import HostAudit.Proofs.FlagPattern
import HostAudit.Proofs.FlagReading
import HostAudit.Proofs.MultipleValues
import HostAudit.Proofs.AllowedElements
import HostAudit.Proofs.CombinedOutcomes
import HostAudit.Proofs.SourceSelection
import HostAudit.Proofs.VariableLookup
import HostAudit.Proofs.JsonRereading
import HostAudit.Proofs.ReportDecoding
import HostAudit.Proofs.ByteOrder
import HostAudit.Proofs.DocumentOrder
import HostAudit.Proofs.SelectedNodes
import HostAudit.Proofs.Descent
import HostAudit.Proofs.ArrayParts
import HostAudit.Proofs.TemplateLayout
import HostAudit.Proofs.QuotedSelectors
import HostAudit.Proofs.Numerals
import HostAudit.Proofs.TemplateWriting
import HostAudit.Proofs.EmptyLeaves
import HostAudit.Proofs.Literals
import HostAudit.Proofs.Permissions
import HostAudit.Proofs.NumberOrder
import HostAudit.Proofs.WholeDoubles
import HostAudit.Proofs.CanonicalOrder
import HostAudit.Proofs.NamedValues
import HostAudit.Proofs.Placeholders
import HostAudit.Proofs.EnvironmentProbes
import HostAudit.Proofs.FailureMessages
import HostAudit.Proofs.TerminalReport
import HostAudit.Proofs.FilePaths
import HostAudit.Proofs.CatalogDiscovery
import HostAudit.Proofs.QuotedTexts
import HostAudit.Proofs.DocumentSections
import HostAudit.Proofs.SettingsRereading
