import AccessReport.Text.Blank
import AccessReport.Text.Lowercase
import AccessReport.Text.Parts
import AccessReport.Numeric.Binary64
import AccessReport.Json.Printer
import AccessReport.Json.Record
import AccessReport.Json.Reader
import AccessReport.Scan.Format
import AccessReport.Cards.Format
import AccessReport.Config.Format
import AccessReport.Decoration.Results
import AccessReport.Unified.Rules
import AccessReport.Unified.Results
import AccessReport.Cards.View
import AccessReport.Cards.Counts
import AccessReport.Report
import AccessReport.Toml.Reader
import AccessReport.Config.BuiltIn
import AccessReport.Config.Merge
import AccessReport.Config.Text
import AccessReport.Text.EditDistance
import AccessReport.Config.Suggestion
import AccessReport.Config.Structure
import AccessReport.Config.Explanation
import AccessReport.Files.Tree
import AccessReport.Surroundings.Inquiry
import AccessReport.Config.Expansion
import AccessReport.Config.Loading
import AccessReport.Config.Printer
import AccessReport.Config.Draft
import AccessReport.Command.Line
import AccessReport.Command.Error
import AccessReport.Command.Run
import AccessReport.Schema.Printer
import AccessReport.Schema.Validation
import AccessReport.Schema.Naming
import AccessReport.Schema.Artifacts
import AccessReport.Text.Revealed
import AccessReport.Tasks.SchemaFiles
import AccessReport.Tasks.Line
import AccessReport.Samples.Scans
import AccessReport.Samples.Configs
import AccessReport.Sketch.Calls
import AccessReport.Variety.Survey
import AccessReport.Variety.Cards
import AccessReport.Variety.Configs
import AccessReport.Main
import AccessReport.Proofs.Grouping
import AccessReport.Proofs.Report.Accounting
import AccessReport.Proofs.Decoration.Settled
import AccessReport.Proofs.Decoration.Fidelity
import AccessReport.Proofs.Decoration.Suppression
import AccessReport.Proofs.Report.Provenance
import AccessReport.Proofs.Report.Content
import AccessReport.Proofs.Report.Rearranged
import AccessReport.Proofs.Cards.Reading
import AccessReport.Proofs.Report.Totals
import AccessReport.Proofs.Config.Visited
import AccessReport.Proofs.Config.Includes
import AccessReport.Proofs.Config.Algebra
import AccessReport.Proofs.Registry.Sound
import AccessReport.Proofs.Config.Problems
import AccessReport.Proofs.Config.Effective
import AccessReport.Proofs.Command.Validation
import AccessReport.Proofs.Command.Products
import AccessReport.Proofs.Files.Growth
import AccessReport.Proofs.Command.Delivery
import AccessReport.Proofs.Decoration.Overrides
import AccessReport.Proofs.Json.RoundTrip
import AccessReport.Proofs.Json.Records
import AccessReport.Proofs.Scan.RoundTrip
import AccessReport.Proofs.Unified.RoundTrip
import AccessReport.Proofs.Cards.RoundTrip
import AccessReport.Proofs.Config.Written
import AccessReport.Proofs.Artifacts
import AccessReport.Proofs.Toml.Strings
import AccessReport.Proofs.Toml.Values
import AccessReport.Proofs.Toml.Lines
import AccessReport.Proofs.Toml.Sections
import AccessReport.Proofs.Config.RoundTrip
import AccessReport.Proofs.Config.Drafts
import AccessReport.Proofs.Text.Edits
import AccessReport.Proofs.Config.Suggestions
import AccessReport.Proofs.Config.Expansion
import AccessReport.Proofs.Template.Grammar
import AccessReport.Proofs.Template.Meaning
import AccessReport.Proofs.Numeric.Numerals
import AccessReport.Proofs.Decoration.Calendar
import AccessReport.Proofs.Decoration.Instants
import AccessReport.Proofs.Unified.Names
import AccessReport.Proofs.Unified.Uids
import AccessReport.Proofs.Unified.FirstOccurrences
import AccessReport.Proofs.Registry.Faithful
import AccessReport.Proofs.Config.CaseSlips
import AccessReport.Proofs.Config.Indirection
import AccessReport.Proofs.Command.UnknownLinks
import AccessReport.Proofs.Json.Recast
import AccessReport.Proofs.Json.Data
import AccessReport.Proofs.Scan.Leniency
import AccessReport.Proofs.Config.SetVariables
import AccessReport.Proofs.Schema.Naming
import AccessReport.Proofs.Report.Naming
import AccessReport.Proofs.Sketch.Nodes
import AccessReport.Proofs.Sketch.Calls
import AccessReport.Proofs.Unified.Bits
import AccessReport.Proofs.Command.Arguments
import AccessReport.Proofs.Schema.Validity
import AccessReport.Proofs.Schema.Artifacts
import AccessReport.Proofs.Schema.References
import AccessReport.Proofs.Text.Revealed
import AccessReport.Proofs.Tasks.Ends
import AccessReport.Proofs.Variety.Texts
import AccessReport.Proofs.Variety.Coverage
import AccessReport.Proofs.Variety.Fitting
import AccessReport.Proofs.Samples
