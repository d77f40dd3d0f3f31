import CsvIntake.CommandLine.Layout
import CsvIntake.CommandLine.Markup
import CsvIntake.Data
import CsvIntake.Workspace

/-! What the commands report: as data, and as lines and tables of text. Lines are markup before they
are shown, and names of files stand in them as they are; only messages are escaped. -/
namespace CsvIntake.CommandLine

/-- The result of a command. -/
inductive Report where
  | detected (fileName : Text) (schema : DetectedSchema)
  | created (upload : CreatedUpload)
  | appended (stats : LoadStats)
  deriving DecidableEq, Repr

/-- A line of text, or a row of a table. -/
inductive Line where
  | text (s : Text)
  | cells (cells : List Text)
  deriving DecidableEq, Repr

/-- The lines that a text with markup is shown as. -/
def textLines (markup : Text) : List Line :=
  (Text.pieces (· == '\n') (shownMarkup markup)).map fun line => .text (expandTabs line)

/-- The lines of a title with markup, above a table of a width. -/
def titleLines (width : Nat) (markup : Text) : List Line :=
  (Text.pieces (· == '\n') (shownMarkup markup)).flatMap fun line =>
    (wrap width (expandTabs line)).map fun line => .text (centred width line)

/-- The name of a type as a text. -/
def typeText (t : ColumnType) : Text := t.label.toList

/-- The headings of the table of a detected schema. -/
def detectionHeadings : List String := ["Column", "Type", "Generated"]

/-- The width of a column with a heading: a blank stands on either side of the widest cell. -/
def columnWidth (heading : String) (column : List Text) : Nat :=
  ((heading.toList :: column).map Text.cells).foldl max 0 + 2

/-- The width of the table of a detected schema, with its borders. -/
def detectionWidth (columns : Schema) : Nat :=
  columnWidth "Column" (columns.map Prod.fst) +
    columnWidth "Type" (columns.map fun column => typeText column.2) + columnWidth "Generated" [] +
    (detectionHeadings.length + 1)

/-- A schema as data. -/
def schemaData (schema : Schema) : Data :=
  .record (schema.map fun column => (column.1, .text (typeText column.2)))

/-- A detected schema as data. -/
def detectedData (schema : DetectedSchema) : Data :=
  .record [("extant_columns".toList, schemaData schema.extant),
    ("generated_columns".toList, schemaData schema.generated)]

/-- A summary as data. -/
def statsData (stats : LoadStats) : Data :=
  .record [("table_name".toList, .text stats.tableName),
    ("num_rows".toList, .integer stats.rowCount),
    ("num_columns".toList, .integer stats.columnCount),
    ("generated_columns".toList, .integer stats.generatedColumns),
    ("size_mb".toList, .float stats.sizeInMegabytes)]

/-- A text with a comma behind each three characters that others follow. -/
def inThrees : Text → Text
  | a :: b :: c :: d :: rest => a :: b :: c :: ',' :: inThrees (d :: rest)
  | rest => rest

/-- A number with a comma between each three digits, counted from the last. -/
def grouped (n : Nat) : Text := (inThrees (Text.ofNat n).reverse).reverse

/-- A finite number that is not negative, rounded to two places. -/
def twoPlaces (x : Binary64) : Text :=
  let s := Binary64.significand x.magnitude
  let e := Binary64.exponent x.magnitude
  let hundredths := Decimal.roundQuotient (100 * s * Nat.pow 2 e.toNat) (Nat.pow 2 (-e).toNat)
  Text.ofNat (hundredths / 100) ++ '.' :: Text.ofNatPadded 2 (hundredths % 100)

namespace Report

/-- The report as data. -/
def data : Report → Data
  | .detected _ schema => detectedData schema
  | .created upload =>
    .record [("table_name".toList, .text upload.tableName),
      ("display_name".toList, .text upload.displayName),
      ("detected_schema".toList, detectedData upload.schema),
      ("stats".toList, statsData upload.stats)]
  | .appended stats => statsData stats

/-- The report as text; `seconds` says how long the command took. -/
def lines (seconds : Text) : Report → List Line
  | .detected fileName schema =>
    let columns := schema.generated ++ schema.extant
    titleLines (detectionWidth columns) ("Detected schema: ".toList ++ fileName) ++
    [.cells (detectionHeadings.map String.toList)] ++
    schema.generated.map (fun c => .cells [c.1, typeText c.2, "yes".toList]) ++
    schema.extant.map fun c => .cells [c.1, typeText c.2, []]
  | .created upload =>
    textLines ("Created ".toList ++ upload.tableName ++ " (".toList ++ upload.displayName ++ [')']) ++
    [.text ("  ".toList ++ grouped upload.stats.rowCount ++ " rows, ".toList ++
        Text.ofNat upload.stats.columnCount ++ " columns in ".toList ++ seconds ++ "s (".toList ++
        twoPlaces upload.stats.sizeInMegabytes ++ " MB)".toList),
      .cells (["Column", "Type"].map String.toList)] ++
    upload.schema.all.map fun c => .cells [c.1, typeText c.2]
  | .appended stats =>
    textLines ("Appended ".toList ++ grouped stats.rowCount ++ " rows to ".toList ++ stats.tableName)

end Report

end CsvIntake.CommandLine
