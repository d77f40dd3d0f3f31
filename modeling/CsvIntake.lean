import CsvIntake.CommandLine.Arguments
import CsvIntake.CommandLine.Report
import CsvIntake.CommandLine.Run
import CsvIntake.Main
import CsvIntake.Step
import CsvIntake.Store.SqlStatement
import CsvIntake.Proofs.Characters
import CsvIntake.Proofs.Numerals
import CsvIntake.Proofs.Trimming
import CsvIntake.Proofs.TypeOrder
import CsvIntake.Proofs.DateTexts
import CsvIntake.Proofs.IsoTexts
import CsvIntake.Proofs.Acceptance
import CsvIntake.Proofs.Relaxation
import CsvIntake.Proofs.InferenceOrder
import CsvIntake.Proofs.ReadingValues
import CsvIntake.Proofs.LoadingRows
import CsvIntake.Proofs.RoundedIntegers
import CsvIntake.Proofs.AcceptedValues
import CsvIntake.Proofs.Planning
import CsvIntake.Proofs.CsvTexts
import CsvIntake.Proofs.RefusedAppend
import CsvIntake.Proofs.ColumnNames
import CsvIntake.Proofs.NameMaps
import CsvIntake.Proofs.StoredTables
import CsvIntake.Proofs.UploadTables
import CsvIntake.Proofs.MigratedTables
import CsvIntake.Proofs.InsertedRows
import CsvIntake.Proofs.TypedRows
import CsvIntake.Proofs.CheckedHeaders
import CsvIntake.Proofs.PlannedColumns
import CsvIntake.Proofs.AppendedRows
import CsvIntake.Proofs.NewTables
import CsvIntake.Proofs.LoadOutcomes
import CsvIntake.Proofs.LoadedTables
import CsvIntake.Proofs.Appending
import CsvIntake.Proofs.KeptTypes
import CsvIntake.Proofs.AppendingAgain
import CsvIntake.Proofs.CreatedTables
import CsvIntake.Proofs.RowKeys
import CsvIntake.Proofs.CountedRows
import CsvIntake.Proofs.NearestDoubles
import CsvIntake.Proofs.StoredTypes
import CsvIntake.Proofs.WidenedCells
import CsvIntake.Proofs.FailedCreations
import CsvIntake.Proofs.BatchSizes
import CsvIntake.Proofs.PlannedTypes
import CsvIntake.Proofs.ColumnOrder
import CsvIntake.Proofs.NextSeconds
import CsvIntake.Proofs.TimedNames
import CsvIntake.Proofs.UniqueNames
import CsvIntake.Proofs.NumberGrammar
import CsvIntake.Proofs.PlainNumbers
import CsvIntake.Proofs.WholeNumbers
import CsvIntake.Proofs.NegatedNumbers
import CsvIntake.Proofs.RenamedSeparators
import CsvIntake.Proofs.SpacedWords
import CsvIntake.Proofs.AgreeingForms
import CsvIntake.Proofs.SpelledNumbers
import CsvIntake.Proofs.WrittenDates
import CsvIntake.Proofs.WrittenDatetimes
import CsvIntake.Proofs.PlannedAdditions
import CsvIntake.Proofs.DetectedNames
import CsvIntake.Proofs.CanonicalOrder
import CsvIntake.Proofs.RefusedHierarchies
import CsvIntake.Proofs.RaggedRows
import CsvIntake.Proofs.DroppedColumns
import CsvIntake.Proofs.FirstBadCells
import CsvIntake.Proofs.NestedScopes
import CsvIntake.Proofs.NumberedNames
import CsvIntake.Proofs.QuotedNames
