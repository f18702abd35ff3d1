import VisualScript.Compilation
import VisualScript.Component.Basic
import VisualScript.Component.Catalog
import VisualScript.Component.Ports
import VisualScript.Component.Sync
import VisualScript.Diagnostic.Basic
import VisualScript.Diagnostic.HostReport
import VisualScript.Diagnostic.Printer
import VisualScript.Diagnostic.Snippet
import VisualScript.Graph.Basic
import VisualScript.Graph.Edit
import VisualScript.Graph.EditorFile
import VisualScript.Json.Basic
import VisualScript.Json.Number
import VisualScript.Json.Printer
import VisualScript.Json.Reader
import VisualScript.Json.Shortest
import VisualScript.Language
import VisualScript.Language.Callable
import VisualScript.Language.Description
import VisualScript.Language.Document
import VisualScript.Language.LanguageType
import VisualScript.Language.Operator
import VisualScript.Language.Registry
import VisualScript.Language.Template
import VisualScript.OrderedMap
import VisualScript.OrderedSet
import VisualScript.Pass.Basic
import VisualScript.Pass.Emission
import VisualScript.Pass.Traversal
import VisualScript.Pattern.Basic
import VisualScript.Pattern.Break
import VisualScript.Pattern.CharSet
import VisualScript.Pattern.Dictionary
import VisualScript.Pattern.Encoding
import VisualScript.Pattern.Lead
import VisualScript.Pattern.Machine
import VisualScript.Pattern.Meaning
import VisualScript.Pattern.Property
import VisualScript.Pattern.Query
import VisualScript.Pattern.Reading
import VisualScript.Pattern.Regular
import VisualScript.Pattern.Size
import VisualScript.Pattern.Tree
import VisualScript.Pattern.Words
import VisualScript.Program.Block
import VisualScript.Program.Expression
import VisualScript.Restore
import VisualScript.Socket
import VisualScript.Text.Blank
import VisualScript.Text.Count
import VisualScript.Text.Digits
import VisualScript.Text.Line
import VisualScript.Text.Property.Age
import VisualScript.Text.Property.Binary
import VisualScript.Text.Property.CaseFold
import VisualScript.Text.Property.Category
import VisualScript.Text.Property.Recent
import VisualScript.Text.Property.Script
import VisualScript.Text.Ranges
import VisualScript.Text.Visible
import VisualScript.Proofs.Pass.Ends
import VisualScript.Proofs.Pass.Adequacy
import VisualScript.Proofs.Pass.Tracks
import VisualScript.Proofs.Pass.Depth
import VisualScript.Proofs.Pass.Growth
import VisualScript.Proofs.Pass.Edges
import VisualScript.Proofs.Pass.CleanWalks
import VisualScript.Proofs.Pass.Frame
import VisualScript.Proofs.Pass.Sound
import VisualScript.Proofs.Pass.Grounding
import VisualScript.Proofs.Graph.Fitting
import VisualScript.Proofs.Graph.Editing
import VisualScript.Proofs.Graph.Built
import VisualScript.Proofs.Pass.Visibility
import VisualScript.Proofs.Language.Registration
import VisualScript.Proofs.Language.Resolution
import VisualScript.Proofs.Language.Closure
import VisualScript.Proofs.Language.Completion
import VisualScript.Proofs.Language.Templates
import VisualScript.Proofs.Language.Operators
import VisualScript.Proofs.Pass.Layout
import VisualScript.Proofs.Pass.Submission
import VisualScript.Proofs.Pass.Arrival
import VisualScript.Proofs.Pass.RootJournals
import VisualScript.Proofs.Pass.Order
import VisualScript.Proofs.Pass.ParametersAtHome
import VisualScript.Proofs.Pass.Cycles
import VisualScript.Proofs.Pass.Acyclicity
import VisualScript.Proofs.Pass.Outline
import VisualScript.Proofs.Pass.Restyling
import VisualScript.Proofs.Pass.Unfolding
import VisualScript.Proofs.Pass.Faithful
import VisualScript.Proofs.Pass.Readings
import VisualScript.Proofs.Pass.Inlining
import VisualScript.Proofs.Pass.Route
import VisualScript.Proofs.Pass.Sightings
import VisualScript.Proofs.Pass.Rebinding
import VisualScript.Proofs.Pass.Forks
import VisualScript.Proofs.Pass.Confluence
import VisualScript.Proofs.Graph.Restriction
import VisualScript.Proofs.Pass.Division
import VisualScript.Proofs.Pass.Locality
import VisualScript.Proofs.Pass.Separation
import VisualScript.Proofs.Pass.Content
import VisualScript.Proofs.Program.Lines
import VisualScript.Proofs.Program.LineTable
import VisualScript.Proofs.Program.Reports
import VisualScript.Proofs.Graph.Ports
import VisualScript.Proofs.Graph.Commands
import VisualScript.Proofs.Graph.Joining
import VisualScript.Proofs.Graph.Numbering
import VisualScript.Proofs.Graph.Handover
import VisualScript.Proofs.Graph.Settling
import VisualScript.Proofs.Graph.Repetition
import VisualScript.Proofs.Graph.Sweep
import VisualScript.Proofs.Graph.Restoring
import VisualScript.Proofs.Graph.Following
import VisualScript.Proofs.Graph.Effects
import VisualScript.Proofs.Pass.Nesting
import VisualScript.Proofs.Pass.Steps
import VisualScript.Proofs.Pass.Unreached
import VisualScript.Proofs.Pass.Requirements
import VisualScript.Proofs.Graph.Severing
import VisualScript.Proofs.Graph.Identities
import VisualScript.Proofs.Graph.Placing
import VisualScript.Proofs.Pass.Parameters
import VisualScript.Proofs.Pass.Emissions
import VisualScript.Proofs.Pass.Headers
import VisualScript.Proofs.Diagnostic.Locating
import VisualScript.Proofs.Graph.Listings
import VisualScript.Proofs.Pass.Openings
