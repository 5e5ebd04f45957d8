import StructTags.Text.Utf8
import StructTags.Json.Printer
import StructTags.Json.Reader
import StructTags.Tag.Set
import StructTags.Unicode.Letter
import StructTags.Unicode.DecimalDigit
import StructTags.Unicode.Printable
import StructTags.Unicode.Lowercase
import StructTags.Error
import StructTags.Path.Basic
import StructTags.Model.Basic
import StructTags.Diagnostic.Collector
import StructTags.Diagnostic.Json
import StructTags.File.Tree
import StructTags.Fix.Json
import StructTags.Main
import StructTags.Proofs.LossyDecoding
import StructTags.Proofs.LiteralBody
import StructTags.Proofs.Quoting
import StructTags.Proofs.PairScan
import StructTags.Proofs.TagReaders
import StructTags.Proofs.TagEditing
import StructTags.Proofs.CarriageReturns
import StructTags.Proofs.CheckerReports
import StructTags.Proofs.RedundantName
import StructTags.Proofs.Autofix
import StructTags.Proofs.PairGrammar
import StructTags.Proofs.Traversal
import StructTags.Proofs.FixConvergence
import StructTags.Proofs.QuotingStyle
import StructTags.Proofs.PlaceOrder
import StructTags.Proofs.RunStages
import StructTags.Proofs.RuleSettings
import StructTags.Proofs.DialectIndependence
import StructTags.Proofs.ExportOrder
import StructTags.Proofs.StaleExports
import StructTags.Proofs.SimultaneousFixes
import StructTags.Proofs.FileSystems
import StructTags.Proofs.FixPreview
import StructTags.Proofs.JsonText
import StructTags.Proofs.RecordCodec
import StructTags.Proofs.ReportRoundTrip
import StructTags.Proofs.ExportRoundTrip
import StructTags.Proofs.EditRuns
import StructTags.Proofs.SourcePositions
import StructTags.Proofs.TextPieces
import StructTags.Proofs.LiteralGrammar
import StructTags.Proofs.ReportedLines
import StructTags.Proofs.UndecodableTags
import StructTags.Proofs.SplitPoint
import StructTags.Proofs.EditScripts
import StructTags.Proofs.MovedChanges
import StructTags.Proofs.UnifiedDiff
import StructTags.Proofs.ListingOrder
import StructTags.Proofs.AcceptedNames
import StructTags.Proofs.DeclaredNames
import StructTags.Proofs.CheckedScan
import StructTags.Proofs.CheckedReaders
