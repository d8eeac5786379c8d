import Compositor.CommandLine.Run
import Compositor.Main
import Compositor.Markup.Article
import Compositor.Publish.Publication
import Compositor.Shell.Machine
import Compositor.Proofs.Document.Tree
import Compositor.Proofs.Markup.Block
import Compositor.Proofs.Markup.Division
import Compositor.Proofs.Markup.Content
import Compositor.Proofs.Markup.Matching
import Compositor.Proofs.Markup.KeepTogether
import Compositor.Proofs.Markup.Composition
import Compositor.Proofs.Document.CodePlacement
import Compositor.Proofs.Markdown.CodePlacement
import Compositor.Proofs.Markup.Visits
import Compositor.Proofs.Markup.Diagrams
import Compositor.Proofs.Markup.Reached
import Compositor.Proofs.Markup.HeadingFlag
import Compositor.Proofs.Markup.HeadingRuns
import Compositor.Proofs.Markup.PageBreaks
import Compositor.Proofs.Document.Formulas
import Compositor.Proofs.Markdown.DisplayMath
import Compositor.Proofs.Document.WellFormed
import Compositor.Proofs.Yaml.Fields
import Compositor.Proofs.Document.Restating
import Compositor.Proofs.Markup.Visible
import Compositor.Proofs.Markup.Scans
import Compositor.Proofs.Path.Characters
import Compositor.Proofs.Text.Brackets
import Compositor.Proofs.Markup.Brackets
import Compositor.Proofs.Markup.Title
import Compositor.Proofs.Markup.RawContent
import Compositor.Proofs.Text.Literal
import Compositor.Proofs.Markup.Indentation
import Compositor.Proofs.Markup.Composed
import Compositor.Proofs.Markup.Logos
import Compositor.Proofs.Markup.LogoQueue
import Compositor.Proofs.Markup.Figures
import Compositor.Proofs.Markup.Literals
import Compositor.Proofs.Markup.Addresses
import Compositor.Proofs.Path.Steps
import Compositor.Proofs.Path.LeadingBack
import Compositor.Proofs.Markup.Relocation
import Compositor.Proofs.Host.Failing
import Compositor.Proofs.Host.Relates
import Compositor.Proofs.Host.Lift
import Compositor.Proofs.Publish.Protocol
import Compositor.Proofs.Publish.Course
import Compositor.Proofs.Publish.Observed
import Compositor.Proofs.Path.BaseName
import Compositor.Proofs.Files.Keeping
import Compositor.Proofs.Publish.Copies
import Compositor.Proofs.Publish.AssetQueue
import Compositor.Proofs.Publish.SparedSources
import Compositor.Proofs.Markup.CodeFences
import Compositor.Proofs.Markup.Escapes
import Compositor.Proofs.Markup.EmphasisSpans
import Compositor.Proofs.Markup.BoldRestoring
import Compositor.Proofs.Markup.EmphasisReading
import Compositor.Proofs.Text.Offsets
import Compositor.Proofs.Markup.OffsetScan
import Compositor.Proofs.Markup.DelimiterRuns
import Compositor.Proofs.Settings.Overlay
import Compositor.Proofs.Settings.Resolution
import Compositor.Proofs.Markup.Placeholders
import Compositor.Proofs.Publish.LogoDestinations
import Compositor.Proofs.Markup.ItemLines
import Compositor.Proofs.Markup.NestedLists
import Compositor.Proofs.Document.Keys
import Compositor.Proofs.Markdown.FrontMatter
import Compositor.Proofs.CommandLine.Targets
import Compositor.Proofs.Publish.Renderings
