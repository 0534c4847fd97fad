import FormScaffold.Main
import FormScaffold.Template.StoredKind
import FormScaffold.Proofs.Template.SectionRoundTrip
import FormScaffold.Proofs.Template.SectionFilter
import FormScaffold.Proofs.Template.SectionSelection
import FormScaffold.Proofs.Template.CommentSpan
import FormScaffold.Proofs.Template.CommentAbsence
import FormScaffold.Proofs.Template.CommentScan
import FormScaffold.Proofs.Text.LineReader
import FormScaffold.Proofs.Template.CommentLines
import FormScaffold.Proofs.Template.CommentLocality
import FormScaffold.Proofs.Template.LineComments
import FormScaffold.Proofs.Template.DirectiveLines
import FormScaffold.Proofs.Template.DirectiveForm
import FormScaffold.Proofs.Template.DirectiveSwitch
import FormScaffold.Proofs.Template.AliasLines
import FormScaffold.Proofs.Template.AliasFactors
import FormScaffold.Proofs.Template.EmissionProjection
import FormScaffold.Proofs.Template.DirectivePolicy
import FormScaffold.Proofs.Template.PairedBreaks
import FormScaffold.Proofs.Path.Cleaning
import FormScaffold.Proofs.Path.Parent
import FormScaffold.Proofs.Path.FileName
import FormScaffold.Proofs.Tsconfig.Destination
import FormScaffold.Proofs.FileTree.Placing
import FormScaffold.Proofs.FileTree.Growth
import FormScaffold.Proofs.FileTree.Descent
import FormScaffold.Proofs.Generation.Target
import FormScaffold.Proofs.Generation.Job
import FormScaffold.Proofs.Generation.Interleaving
import FormScaffold.Proofs.Generation.Confluence
import FormScaffold.Proofs.FileTree.Places
import FormScaffold.Proofs.Generation.Containment
import FormScaffold.Proofs.Generation.Rerun
import FormScaffold.Proofs.Tsconfig.Inheritance
import FormScaffold.Proofs.Tsconfig.NamedConfig
import FormScaffold.Proofs.Tsconfig.SeveralParents
import FormScaffold.Proofs.Text.Slice
import FormScaffold.Proofs.Tsconfig.PatternChoice
import FormScaffold.Proofs.Json.Spelling
import FormScaffold.Proofs.Json.Decoration
import FormScaffold.Proofs.Tsconfig.Decoration
import FormScaffold.Proofs.Json.Scanning
import FormScaffold.Proofs.Json.Literals
import FormScaffold.Proofs.Installation.EarlyFailure
import FormScaffold.Proofs.Installation.Agreement
import FormScaffold.Proofs.Installation.Accounting
import FormScaffold.Proofs.CommandLine.Choices
import FormScaffold.Proofs.Yaml.Lexing
import FormScaffold.Proofs.Yaml.Scalars
import FormScaffold.Proofs.Yaml.Spelling
import FormScaffold.Proofs.Yaml.Layout
import FormScaffold.Proofs.Yaml.Nodes
import FormScaffold.Proofs.Manifest.ReadBack
import FormScaffold.Proofs.Tsconfig.CleanBase
import FormScaffold.Proofs.Url.FileAddress
