import ComponentLinks.BuildGraph.Basic
import ComponentLinks.BuildGraph.Check
import ComponentLinks.BuildGraph.Remarks
import ComponentLinks.BuildGraph.Resolve
import ComponentLinks.BuildGraph.Survey
import ComponentLinks.CommandLine.Call
import ComponentLinks.CommandLine.Command
import ComponentLinks.CommandLine.Console
import ComponentLinks.CommandLine.Grammar
import ComponentLinks.CommandLine.Invocation
import ComponentLinks.CommandLine.Reading
import ComponentLinks.CommandLine.Run
import ComponentLinks.Diagnostic
import ComponentLinks.Files
import ComponentLinks.Index
import ComponentLinks.Journal
import ComponentLinks.Links
import ComponentLinks.Location
import ComponentLinks.Main
import ComponentLinks.OrderedMap
import ComponentLinks.Outer.Settings.Given
import ComponentLinks.Outer.Settings.Value
import ComponentLinks.Outer.Terminal.Handler
import ComponentLinks.Outer.Terminal.Handler.Complaint
import ComponentLinks.Outer.Terminal.Handler.Expression
import ComponentLinks.Outer.Terminal.Handler.Filled
import ComponentLinks.Outer.Terminal.Handler.Literal
import ComponentLinks.Outer.Terminal.Handler.Token
import ComponentLinks.Outer.Terminal.Markup
import ComponentLinks.Outer.Terminal.Pictograph
import ComponentLinks.Outer.Terminal.Sheet
import ComponentLinks.Outer.Terminal.Style
import ComponentLinks.Outer.Terminal.Wrap
import ComponentLinks.Outer.Text.Base64
import ComponentLinks.Outer.Text.Cased
import ComponentLinks.Outer.Text.Lowercase
import ComponentLinks.Outer.Text.Width
import ComponentLinks.Outer.Yaml.Cursor
import ComponentLinks.Outer.Yaml.Directive
import ComponentLinks.Outer.Yaml.Fault
import ComponentLinks.Outer.Yaml.Moment
import ComponentLinks.Outer.Yaml.Node
import ComponentLinks.Outer.Yaml.Number
import ComponentLinks.Outer.Yaml.Scalar
import ComponentLinks.Outer.Yaml.Tag
import ComponentLinks.Outer.Yaml.Token
import ComponentLinks.Outer.Yaml.Value
import ComponentLinks.PassResult
import ComponentLinks.Path
import ComponentLinks.Pattern.Basic
import ComponentLinks.Pattern.Match
import ComponentLinks.Pattern.Readings
import ComponentLinks.Pattern.Source
import ComponentLinks.Proofs.BuildGraph.Component
import ComponentLinks.Proofs.BuildGraph.Duplicates
import ComponentLinks.Proofs.BuildGraph.Findings
import ComponentLinks.Proofs.BuildGraph.Heuristics
import ComponentLinks.Proofs.BuildGraph.Interleaving
import ComponentLinks.Proofs.BuildGraph.Join
import ComponentLinks.Proofs.BuildGraph.Links
import ComponentLinks.Proofs.BuildGraph.LookUp
import ComponentLinks.Proofs.BuildGraph.OwnManifest
import ComponentLinks.Proofs.BuildGraph.Owner
import ComponentLinks.Proofs.BuildGraph.Repository
import ComponentLinks.Proofs.BuildGraph.Rewriting
import ComponentLinks.Proofs.BuildGraph.TwoWay
import ComponentLinks.Proofs.CommandLine.Markup
import ComponentLinks.Proofs.CommandLine.Verbatim
import ComponentLinks.Proofs.Index
import ComponentLinks.Proofs.Index.Location
import ComponentLinks.Proofs.Last
import ComponentLinks.Proofs.Links
import ComponentLinks.Proofs.Location
import ComponentLinks.Proofs.OrderedMap
import ComponentLinks.Proofs.Path
import ComponentLinks.Proofs.Path.Below
import ComponentLinks.Proofs.Path.Detours
import ComponentLinks.Proofs.Pattern.First
import ComponentLinks.Proofs.Pattern.Scan
import ComponentLinks.Proofs.Pattern.SingleBlanks
import ComponentLinks.Proofs.Pattern.Spacing
import ComponentLinks.Proofs.Pattern.Words
import ComponentLinks.Proofs.Search.Coverage
import ComponentLinks.Proofs.Search.Document
import ComponentLinks.Proofs.Search.Extended
import ComponentLinks.Proofs.Search.LineByLine
import ComponentLinks.Proofs.Search.Origin
import ComponentLinks.Proofs.Search.Output
import ComponentLinks.Proofs.Search.Places
import ComponentLinks.Proofs.Search.Reading
import ComponentLinks.Proofs.Session
import ComponentLinks.Proofs.Spelling
import ComponentLinks.Proofs.Statement.Assembly
import ComponentLinks.Proofs.Statement.Build
import ComponentLinks.Proofs.Statement.Command
import ComponentLinks.Proofs.Statement.Competition
import ComponentLinks.Proofs.Statement.Compilation
import ComponentLinks.Proofs.Statement.Cut
import ComponentLinks.Proofs.Statement.Dependencies
import ComponentLinks.Proofs.Statement.Destination
import ComponentLinks.Proofs.Statement.Layout
import ComponentLinks.Proofs.Statement.Lines
import ComponentLinks.Proofs.Statement.ManifestFlags
import ComponentLinks.Proofs.Statement.Naming
import ComponentLinks.Proofs.Statement.PackageDependencies
import ComponentLinks.Proofs.Statement.PackagePath
import ComponentLinks.Proofs.Statement.PackageScan
import ComponentLinks.Proofs.Statement.PackageStamps
import ComponentLinks.Proofs.Statement.PartDependencies
import ComponentLinks.Proofs.Statement.Parts
import ComponentLinks.Proofs.Statement.Respaced
import ComponentLinks.Proofs.Statement.RespacedStamps
import ComponentLinks.Proofs.Statement.SameReading
import ComponentLinks.Proofs.Statement.TargetPath
import ComponentLinks.Proofs.Statement.Validation
import ComponentLinks.Proofs.Statement.WholeWords
import ComponentLinks.Proofs.Table.Manifests
import ComponentLinks.Proofs.Table.References
import ComponentLinks.Proofs.Text.Ascii
import ComponentLinks.Proofs.Text.Boundaries
import ComponentLinks.Proofs.Text.Classes
import ComponentLinks.Proofs.Text.Lines
import ComponentLinks.Proofs.Text.Respaced
import ComponentLinks.Proofs.Url
import ComponentLinks.Proofs.Url.Lines
import ComponentLinks.Proofs.Url.Occurrence
import ComponentLinks.Proofs.Url.Scan
import ComponentLinks.Proofs.Verdict
import ComponentLinks.Proofs.Workspace
import ComponentLinks.Search.Expression
import ComponentLinks.Search.Hit
import ComponentLinks.Search.Output
import ComponentLinks.Settings
import ComponentLinks.Settings.Field
import ComponentLinks.Settings.Load
import ComponentLinks.Statement.Basic
import ComponentLinks.Statement.Patterns
import ComponentLinks.Statement.Recognize
import ComponentLinks.Statement.Shape
import ComponentLinks.Table.Manifests
import ComponentLinks.Table.References
import ComponentLinks.Target
import ComponentLinks.Text.Blank
import ComponentLinks.Text.Lines
import ComponentLinks.Text.Numeral
import ComponentLinks.Text.Printable
import ComponentLinks.Text.Quoted
import ComponentLinks.Text.Ranges
import ComponentLinks.Text.Utf8
import ComponentLinks.Text.Word
import ComponentLinks.Url
import ComponentLinks.Workspace
