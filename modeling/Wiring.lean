import Wiring.Main
import Wiring.Settings.Encoder
import Wiring.Proofs.Reference
import Wiring.Proofs.StableSort
import Wiring.Proofs.Schedule
import Wiring.Proofs.NameLookup
import Wiring.Proofs.Closure
import Wiring.Proofs.Success
import Wiring.Proofs.BindingsPass
import Wiring.Proofs.OutputPaths
import Wiring.Proofs.StoredFiles
import Wiring.Proofs.GeneratedNames
import Wiring.Proofs.FilesKept
import Wiring.Proofs.FilesApart
import Wiring.Proofs.DeclaredEdges
import Wiring.Proofs.Grouping
import Wiring.Proofs.DecimalDigits
import Wiring.Proofs.ProvisionsPass
import Wiring.Proofs.JsonTokens
import Wiring.Proofs.JsonValues
import Wiring.Proofs.JsonRecords
import Wiring.Proofs.CorpusReading
import Wiring.Proofs.CorpusRoundTrip
import Wiring.Proofs.Determined
import Wiring.Proofs.WrittenNames
import Wiring.Proofs.WrittenTypes
import Wiring.Proofs.WrittenAnnotations
import Wiring.Proofs.UnambiguousFiles
import Wiring.Proofs.Locality
import Wiring.Proofs.Isolation
import Wiring.Proofs.ClassOrder
import Wiring.Proofs.MarkerPlaces
import Wiring.Proofs.BoundFiles
import Wiring.Proofs.BoundMarkers
import Wiring.Proofs.Conflicts
import Wiring.Proofs.PublishedScopes
import Wiring.Proofs.RefusedProvisions
import Wiring.Proofs.InterfaceNames
import Wiring.Proofs.Completion
import Wiring.Proofs.BreadthFirst
import Wiring.Proofs.ByteOrder
import Wiring.Proofs.ImportTable
import Wiring.Proofs.Templates
import Wiring.Proofs.LegalCalls
import Wiring.Proofs.ClassPlaces
import Wiring.Proofs.Lines
import Wiring.Proofs.OneLine
import Wiring.Proofs.Layout
import Wiring.Proofs.EscapedNames
import Wiring.Proofs.DisplayedTypes
import Wiring.Proofs.FaultyElements
import Wiring.Proofs.ContainedWrites
import Wiring.Proofs.Spellings
import Wiring.Proofs.JsonMembers
import Wiring.Proofs.ShapeReading
import Wiring.Proofs.EquivalentSpellings
import Wiring.Proofs.RenamedTypes
import Wiring.Proofs.ValidNames
import Wiring.Proofs.DefaultNames
import Wiring.Proofs.PathsBelowRoot
import Wiring.Proofs.PushedRecords
import Wiring.Proofs.KeptMarkers
import Wiring.Proofs.PackageFolders
import Wiring.Proofs.SettingPaths
import Wiring.Proofs.GuessedTexts
import Wiring.Proofs.VariableTexts
