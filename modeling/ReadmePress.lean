import ReadmePress.Main
import ReadmePress.Service.Endpoints
import ReadmePress.Proofs.CommandLine.SourceFile
import ReadmePress.Proofs.Document.Anchors
import ReadmePress.Proofs.Document.FixedLayout
import ReadmePress.Proofs.Document.HeadingOrder
import ReadmePress.Proofs.Document.ProjectHeadings
import ReadmePress.Proofs.Document.Slugs
import ReadmePress.Proofs.Document.Spacing
import ReadmePress.Proofs.Document.Switches
import ReadmePress.Proofs.Document.Template
import ReadmePress.Proofs.EntryPoints
import ReadmePress.Proofs.Facts.BadgeLine
import ReadmePress.Proofs.Facts.EntryOrder
import ReadmePress.Proofs.Facts.EnvironmentPieces
import ReadmePress.Proofs.Facts.Features
import ReadmePress.Proofs.Facts.ListingText
import ReadmePress.Proofs.Facts.OwnSettings
import ReadmePress.Proofs.Facts.ResolvedOptions
import ReadmePress.Proofs.Facts.RouteCalls
import ReadmePress.Proofs.Facts.SourceTexts
import ReadmePress.Proofs.Log.Phases
import ReadmePress.Proofs.ReadingFaults
import ReadmePress.Proofs.Session
import ReadmePress.Proofs.Sources
import ReadmePress.Proofs.Tools.Detection
import ReadmePress.Proofs.Tools.Regeneration
import ReadmePress.Proofs.Tools.SeparateWrites
