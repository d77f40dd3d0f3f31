import CsvIntake.Csv.Layout
import CsvIntake.Error
import CsvIntake.Inference
import CsvIntake.Number.Binary64

/-! Files of comma-separated values in UTF-8, with or without a byte-order mark. Lines end with a line
feed, a carriage return or both, and the last line break may be missing. The first record is the
header. -/
namespace CsvIntake

/-- An uploaded file. What is read for it is its content, unless its name is a pattern that other
files answer to. -/
structure UploadFile where
  name : Text
  content : ByteArray
  parts : List ByteArray := [content]

namespace UploadFile

/-- The size in units of 2 ^ 20 bytes. -/
def sizeInMegabytes (file : UploadFile) : Binary64 :=
  .ofRatio false file.content.size (Nat.pow 2 20)

/-- Endings of names, in any case, that say that the content is compressed. -/
def compressedEndings : List Text := [".gz", ".zst"].map String.toList

/-- Whether the name says that the content is compressed. -/
def isNamedCompressed (file : UploadFile) : Bool :=
  compressedEndings.any fun ending => ending.isSuffixOf (Text.lowerAscii file.name)

end UploadFile

/-- The rows of a file below its header. Empty values are absent ones. -/
structure CsvTable where
  header : Row
  rows : List Row
  deriving DecidableEq, Repr

namespace CsvTable

/-- The fields of a record: one empty field too many is left out. -/
def withoutEmptyExtra (width : Nat) (fields : List Text) : List Text :=
  if fields.drop width = [[]] then fields.take width else fields

/-- Fields made as many as there are columns. -/
def widened (width : Nat) (fields : List Text) : List Text :=
  fields ++ List.replicate (width - fields.length) []

/-- The row of some fields. -/
def row (fields : List Text) : Row := fields.map fun s => if s.isEmpty then none else some s

/-- The table of some records that have a number of columns. -/
def ofRecords (width : Nat) (records : List (List Text)) : Except CsvFault CsvTable :=
  let kept := records.map (withoutEmptyExtra width)
  if kept.any fun fields => decide (width < fields.length) then .error .tooManyFields
  else
    match kept.map (widened width) with
    | [] => .ok ⟨[], []⟩
    | header :: rows => .ok ⟨header.map some, rows.map row⟩

/-- Reads the lines of some texts, in order, as a table. -/
def ofLines (lines : List Text) : Except CsvFault CsvTable :=
  match CsvLayout.ofLines lines with
  | .error fault => .error fault
  | .ok layout => ofRecords layout.width layout.records

/-- Reads a text as a table. -/
def ofText (s : Text) : Except CsvFault CsvTable := ofLines (CsvLine.cut s)

/-- The lines of some contents, in order. -/
def linesOf (parts : List ByteArray) : Except CsvFault (List Text) :=
  match parts with
  | [] => .ok []
  | part :: rest =>
    match String.fromUTF8? part with
    | none => .error .invalidUtf8
    | some s => (linesOf rest).map (CsvLine.cut s.toList ++ ·)

/-- The table of a file, or what is wrong with it. -/
def ofFile (file : UploadFile) : Except CsvFault CsvTable :=
  if file.content.isEmpty then .ok ⟨[], []⟩
  else if file.isNamedCompressed then .error .compressed
  else
    match linesOf file.parts with
    | .error fault => .error fault
    | .ok lines => ofLines lines

/-- Reads a file as a table. -/
def read (file : UploadFile) : Except Error CsvTable :=
  (ofFile file).mapError fun fault => .malformedCsv fault.reason.toList

end CsvTable

end CsvIntake
