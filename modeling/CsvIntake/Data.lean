import CsvIntake.Number.Shortest
import CsvIntake.Text.Quoted

/-! Data of any shape, as log events and reports carry it, and its two texts: JSON, and the notation
in which the console shows values. -/
namespace CsvIntake

/-- A value of any shape. -/
inductive Data where
  | none
  | truth (b : Bool)
  | integer (n : Int)
  | float (x : Binary64)
  | text (s : Text)
  | list (items : List Data)
  | record (fields : List (Text × Data))
  deriving Inhabited

namespace Data

/-- Whether a value says yes: it is not absent, false, zero or empty. -/
def isTruthy : Data → Bool
  | .none => false
  | .truth b => b
  | .integer n => n != 0
  | .float x => x.magnitude != 0
  | .text s => !s.isEmpty
  | .list items => !items.isEmpty
  | .record fields => !fields.isEmpty

/-- One character inside a JSON string. -/
def jsonChar (c : Char) : Text :=
  if c = '"' then ['\\', '"']
  else if c = '\\' then ['\\', '\\']
  else if c = '\n' then ['\\', 'n']
  else if c = '\r' then ['\\', 'r']
  else if c = '\t' then ['\\', 't']
  else if c.toNat < 32 then '\\' :: 'u' :: Text.hexPadded 4 c.toNat
  else [c]

/-- A text as a JSON string. -/
def jsonText (s : Text) : Text := '"' :: s.flatMap jsonChar ++ ['"']

mutual

/-- A value as JSON. -/
def json : Data → Text
  | .none => "null".toList
  | .truth b => (if b then "true" else "false").toList
  | .integer n => Text.ofInt n
  | .float x => x.text
  | .text s => jsonText s
  | .list items => '[' :: jsonItems items ++ [']']
  | .record fields => '\x7b' :: jsonFields fields ++ ['\x7d']

/-- The items of a JSON list. -/
def jsonItems : List Data → Text
  | [] => []
  | [item] => item.json
  | item :: items => item.json ++ ", ".toList ++ jsonItems items

/-- The fields of a JSON object. -/
def jsonFields : List (Text × Data) → Text
  | [] => []
  | [(name, value)] => jsonText name ++ ": ".toList ++ value.json
  | (name, value) :: fields =>
    jsonText name ++ ": ".toList ++ value.json ++ ", ".toList ++ jsonFields fields

end

mutual

/-- A value as the console shows it: texts as quoted literals. -/
def literal : Data → Text
  | .none => "None".toList
  | .truth b => (if b then "True" else "False").toList
  | .integer n => Text.ofInt n
  | .float x => x.text
  | .text s => Text.quoted s
  | .list items => '[' :: literalItems items ++ [']']
  | .record fields => '\x7b' :: literalFields fields ++ ['\x7d']

/-- The items of a list as the console shows them. -/
def literalItems : List Data → Text
  | [] => []
  | [item] => item.literal
  | item :: items => item.literal ++ ", ".toList ++ literalItems items

/-- The fields of a record as the console shows them. -/
def literalFields : List (Text × Data) → Text
  | [] => []
  | [(name, value)] => Text.quoted name ++ ": ".toList ++ value.literal
  | (name, value) :: fields =>
    Text.quoted name ++ ": ".toList ++ value.literal ++ ", ".toList ++ literalFields fields

end

end Data

end CsvIntake
