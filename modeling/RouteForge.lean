import RouteForge.Main
import RouteForge.Proofs.BuiltLiterals
import RouteForge.Proofs.Layering
import RouteForge.Proofs.ManifestDocuments
import RouteForge.Proofs.PrettyObjects
import RouteForge.Proofs.PreviewAgreement
import RouteForge.Proofs.ModuleIndependence
import RouteForge.Proofs.Regeneration
import RouteForge.Proofs.RouteTableReading
import RouteForge.Proofs.UnusableInput
import RouteForge.Proofs.UserFiles
import RouteForge.Proofs.ScriptLayout
import RouteForge.Proofs.LayeredPaths
import RouteForge.Proofs.NameVerdicts
import RouteForge.Proofs.PassingOver
import RouteForge.Proofs.PassedReadings
import RouteForge.Proofs.KeySearch
import RouteForge.Proofs.FieldPlaces
import RouteForge.Proofs.FoundPairs
import RouteForge.Proofs.OffendingValues
import RouteForge.Proofs.LinePositions
import RouteForge.Proofs.PairSpans
import RouteForge.Proofs.FlatTables
import RouteForge.Proofs.MissingDirectories
import RouteForge.Proofs.SequentialWrites
import RouteForge.Proofs.RunSummary
import RouteForge.Proofs.ModuleTargets
import RouteForge.Proofs.SectionSpacing
import RouteForge.Proofs.ValidationReport
import RouteForge.Proofs.BundleEntries
import RouteForge.Proofs.CodeListing
import RouteForge.Proofs.SlotHistories
import RouteForge.Proofs.WalkOrder
