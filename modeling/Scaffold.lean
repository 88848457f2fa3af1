import Scaffold.Archive.Basic
import Scaffold.Archive.Library
import Scaffold.Archive.Listing
import Scaffold.Archive.Zip
import Scaffold.Binary64.Basic
import Scaffold.Binary64.Decimal
import Scaffold.Binary64.Layout
import Scaffold.Binary64.Rounding
import Scaffold.Binary64.Shortest
import Scaffold.Blueprint.Basic
import Scaffold.Blueprint.Codec
import Scaffold.Checksum.Crc32
import Scaffold.Checksum.Sha256
import Scaffold.Decoding.Choice
import Scaffold.Decoding.Error
import Scaffold.Decoding.Record
import Scaffold.Decoding.Text
import Scaffold.Feature.Completion
import Scaffold.Feature.Flags
import Scaffold.Feature.Kind
import Scaffold.Feature.Registry
import Scaffold.Generation.Error
import Scaffold.Generation.Generator
import Scaffold.Generation.Plan
import Scaffold.Generation.Request
import Scaffold.Generation.Response
import Scaffold.Generation.Settings
import Scaffold.Generation.SettingsText
import Scaffold.Json.Basic
import Scaffold.Json.Fault
import Scaffold.Json.Object
import Scaffold.Json.Printer
import Scaffold.Json.Reader
import Scaffold.Json.Skip
import Scaffold.Json.Token
import Scaffold.Navigation.Codec
import Scaffold.Navigation.Routes
import Scaffold.Navigation.Tree
import Scaffold.Navigation.Visitor
import Scaffold.Proofs.Archive.Puts
import Scaffold.Proofs.Archive.Reading
import Scaffold.Proofs.Archive.Writing
import Scaffold.Proofs.Blueprint.Codec
import Scaffold.Proofs.Blueprint.Reordering
import Scaffold.Proofs.Decoding.Record
import Scaffold.Proofs.Feature.Completion
import Scaffold.Proofs.Feature.Retention
import Scaffold.Proofs.Feature.Runs
import Scaffold.Proofs.Generation.Outcome
import Scaffold.Proofs.Generation.Paths
import Scaffold.Proofs.Generation.Preparation
import Scaffold.Proofs.Generation.References
import Scaffold.Proofs.Generation.Refusals
import Scaffold.Proofs.Generation.Reports
import Scaffold.Proofs.Generation.Requests
import Scaffold.Proofs.Generation.Scopes
import Scaffold.Proofs.Generation.Steps
import Scaffold.Proofs.Json.Arrangement
import Scaffold.Proofs.Navigation.Codec
import Scaffold.Proofs.Navigation.FirstOccurrences
import Scaffold.Proofs.Navigation.Leaves
import Scaffold.Proofs.Navigation.Records
import Scaffold.Proofs.Navigation.Traversals
import Scaffold.Proofs.Store.Agreement
import Scaffold.Proofs.Store.Layout
import Scaffold.Proofs.Store.Walks
import Scaffold.Proofs.Template.CommentLines
import Scaffold.Proofs.Template.Concatenation
import Scaffold.Proofs.Template.Delimiters
import Scaffold.Proofs.Template.Escaping
import Scaffold.Proofs.Template.Exchange
import Scaffold.Proofs.Template.Keys
import Scaffold.Proofs.Template.Lines
import Scaffold.Proofs.Template.Nesting
import Scaffold.Proofs.Template.Offsets
import Scaffold.Proofs.Template.Pieces
import Scaffold.Proofs.Template.Printing
import Scaffold.Proofs.Template.Progress
import Scaffold.Proofs.Template.Rounds
import Scaffold.Proofs.Template.Shift
import Scaffold.Proofs.Template.Spans
import Scaffold.Proofs.Template.Tokens
import Scaffold.Proofs.Text.Cuts
import Scaffold.Proofs.Text.Occurrences
import Scaffold.Proofs.Text.Parts
import Scaffold.Proofs.Text.Slices
import Scaffold.Proofs.Text.Writes
import Scaffold.Proofs.Validation.Blueprint
import Scaffold.Proofs.Validation.Containment
import Scaffold.Proofs.Validation.Findings
import Scaffold.Proofs.Validation.Outputs
import Scaffold.Proofs.Validation.ViewFindings
import Scaffold.Proofs.View.Codec
import Scaffold.Proofs.View.Compile
import Scaffold.Proofs.View.Navigation
import Scaffold.Proofs.View.Routes
import Scaffold.Store.Basic
import Scaffold.Store.FileTree
import Scaffold.Store.Memory
import Scaffold.Template.Delimiters
import Scaffold.Template.Error
import Scaffold.Template.Escape
import Scaffold.Template.Node
import Scaffold.Template.Parser
import Scaffold.Template.Render
import Scaffold.Template.Segment
import Scaffold.Template.Tag
import Scaffold.Template.Value
import Scaffold.Text.Blank
import Scaffold.Text.Bytes
import Scaffold.Text.Digits
import Scaffold.Text.Quoted
import Scaffold.Text.Shapeless
import Scaffold.Text.Split
import Scaffold.Validation.Blueprint
import Scaffold.Validation.Outputs
import Scaffold.Validation.Violation
import Scaffold.View.Basic
import Scaffold.View.Codec
import Scaffold.View.Compile
