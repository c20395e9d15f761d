import SchemaGraph.Advice.Remedy
import SchemaGraph.Main
import SchemaGraph.Proofs.Drawing
import SchemaGraph.Proofs.Materialization
import SchemaGraph.Proofs.References
import SchemaGraph.Proofs.Edits
import SchemaGraph.Proofs.KeyFlags
import SchemaGraph.Proofs.Endpoints
import SchemaGraph.Proofs.ModeSwitch
import SchemaGraph.Proofs.Rounding
import SchemaGraph.Proofs.JsonText
import SchemaGraph.Proofs.SavedSchema
import SchemaGraph.Proofs.DrawnSchema
import SchemaGraph.Proofs.UniqueIds
import SchemaGraph.Proofs.ScriptNames
import SchemaGraph.Proofs.LoadErrors
import SchemaGraph.Proofs.ReloadedSchema
import SchemaGraph.Proofs.CleanReport
import SchemaGraph.Proofs.Quoting
import SchemaGraph.Proofs.Renaming
import SchemaGraph.Proofs.JunctionFindings
import SchemaGraph.Proofs.KeyFindings
import SchemaGraph.Proofs.AnalysisModes
import SchemaGraph.Proofs.AddedColumns
import SchemaGraph.Proofs.Reordering
import SchemaGraph.Proofs.Orientation
import SchemaGraph.Proofs.ForeignKeyTypes
import SchemaGraph.Proofs.DuplicateNames
import SchemaGraph.Proofs.Deletion
import SchemaGraph.Proofs.DuplicateFindings
import SchemaGraph.Proofs.ExportedSchema
import SchemaGraph.Proofs.ModeLoss
import SchemaGraph.Proofs.LateActions
import SchemaGraph.Proofs.FirstTables
import SchemaGraph.Proofs.TypeLetters
import SchemaGraph.Proofs.Precedence
