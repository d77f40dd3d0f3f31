import CsvIntake.Data
import CsvIntake.Error
import CsvIntake.Schema
import CsvIntake.Text.Uppercase

/-! Structured logging. Scopes give fields to every event logged inside them; the innermost scope wins,
and the fields of the event itself win over all scopes. Events below the chosen level are dropped. A
few names are taken: the message and the level of an event are fields of it, and what an event says
about a failure stands below its line. -/
namespace CsvIntake

/-- Severities of events. -/
inductive LogLevel where
  | debug
  | info
  | warning
  | error
  | critical
  deriving DecidableEq, Repr

namespace LogLevel

/-- The name that an event carries. -/
def label : LogLevel → String
  | .debug => "debug"
  | .info => "info"
  | .warning => "warning"
  | .error => "error"
  | .critical => "critical"

/-- Severity as a number. -/
def rank : LogLevel → Nat
  | .debug => 10
  | .info => 20
  | .warning => 30
  | .error => 40
  | .critical => 50

/-- The least rank that is logged at a named level. Names are read in any case. -/
def threshold? (name : Text) : Option Nat :=
  match String.ofList (Text.upper name) with
  | "NOTSET" => some 0
  | "DEBUG" => some 10
  | "INFO" => some 20
  | "WARNING" | "WARN" => some 30
  | "ERROR" => some 40
  | "CRITICAL" | "FATAL" => some 50
  | _ => none

end LogLevel

/-- A call that logs an event: its level, and whether it asks for the failure that is being handled. -/
structure LogCall where
  level : LogLevel
  asksForFailure : Bool := false
  deriving DecidableEq, Repr

/-- The call of a name. -/
def LogCall.ofName? : String → Option LogCall
  | "debug" => some ⟨.debug, false⟩
  | "info" | "msg" => some ⟨.info, false⟩
  | "warning" | "warn" => some ⟨.warning, false⟩
  | "error" => some ⟨.error, false⟩
  | "exception" => some ⟨.error, true⟩
  | "critical" | "fatal" => some ⟨.critical, false⟩
  | _ => none

/-- Fields of events and scopes. -/
abbrev LogFields := NameMap Data

/-- The open scopes, the innermost first, each with all the fields that hold in it. -/
abbrev LogScopes := List LogFields

namespace LogScopes

/-- The fields that hold now. -/
def current : LogScopes → LogFields
  | [] => []
  | fields :: _ => fields

/-- Enters a scope. -/
def enter (scopes : LogScopes) (fields : LogFields) : LogScopes :=
  NameMap.updated (current scopes) fields :: scopes

/-- Leaves the innermost scope. -/
def leave (scopes : LogScopes) : LogScopes := scopes.tail

/-- The fields of an event together with those of the scopes that it does not have itself. -/
def annotate (scopes : LogScopes) (event : LogFields) : LogFields :=
  event ++ (current scopes).filter fun field => (event.lookup field.1).isNone

/-- All fields of an event that is logged at a level. An absent message is no field. -/
def event (scopes : LogScopes) (level : LogLevel) (message : Data) (fields : LogFields) : LogFields :=
  let own := match message with
    | .none => fields
    | message => NameMap.put fields "event".toList message
  NameMap.put (annotate scopes own) "level".toList (.text level.label.toList)

end LogScopes

/-- How events are written. -/
inductive LogFormat where
  | console
  | json
  deriving DecidableEq, Repr

namespace LogFormat

/-- The format of a setting; everything but `json` is the console. -/
def ofSetting (s : Text) : LogFormat := if s = "json".toList then .json else .console

/-- A text with blanks behind it up to a width. -/
def padded (width : Nat) (s : Text) : Text := s ++ List.replicate (width - s.length) ' '

/-- Whether a text is quoted on the console. -/
def needsQuotes (s : Text) : Bool :=
  s.any fun c => c == ' ' || c == '\t' || c == '=' || c == '\r' || c == '\n' || c == '"' ||
    c == '\x27'

/-- A value on the console. -/
def consoleValue : Data → Text
  | .text s => if needsQuotes s then Text.quoted s else s
  | value => value.literal

/-- A value where the console shows no name with it. -/
def bareValue : Data → Text
  | .text s => s
  | value => value.literal

/-- A text in brackets. -/
def bracketed (s : Text) : Text := '[' :: s ++ [']']

/-- A field on the console. -/
def consoleField (field : Text × Data) : Text := field.1 ++ '=' :: consoleValue field.2

/-- The fields that stand first on a line of the console, in order, and how each is shown. -/
def leadingFields : List (String × (Data → Text)) :=
  [("", fun value => '=' :: consoleValue value), ("timestamp", bareValue),
    ("level", fun value => bracketed (padded 9 (bareValue value))),
    ("event", fun value => padded 30 (bareValue value)),
    ("logger", fun value => bracketed (bareValue value)),
    ("logger_name", fun value => bracketed (bareValue value))]

/-- The fields that do not stand on the line: a trace of calls, a failure, and the one asked for. -/
def fieldsBelow : List Text := ["stack", "exception", "exc_info"].map String.toList

/-- An event as a line of the console: the leading fields, and the other ones by name. -/
def consoleLine (fields : LogFields) : Text :=
  let leading := leadingFields.filterMap fun (name, shown) =>
    (fields.lookup name.toList).map shown
  let taken := fieldsBelow ++ leadingFields.map fun column => column.1.toList
  let others := (fields.filter fun f => !taken.contains f.1).mergeSort fun f g => Text.le f.1 g.1
  let pieces := (leading ++ others.map consoleField).filter fun piece => !piece.isEmpty
  ((Text.joined [' '] pieces).reverse.dropWhile (· == ' ')).reverse

/-- A field that must be a text, if it is not absent. -/
def textField? (fields : LogFields) (name : String) : Except Error (Option Text) :=
  match fields.lookup name.toList with
  | none | some .none => .ok none
  | some (.text s) => .ok (some s)
  | some _ => .error (.untextualLogField name.toList)

/-- What the console shows of an event: its line, below it the trace of calls, and below that the
failure, with a rule between the two. -/
def consoleText (fields : LogFields) : Except Error Text :=
  match textField? fields "stack", textField? fields "exception" with
  | .error e, _ | _, .error e => .error e
  | .ok stack, .ok failure =>
    let asked := (fields.lookup "exc_info".toList).any Data.isTruthy
    let trace := match stack with
      | some stack =>
        '\n' :: stack ++
          if asked || failure.isSome then "\n\n".toList ++ List.replicate 79 '=' ++ ['\n'] else []
      | none => []
    let failed := match failure with
      | some failure => '\n' :: failure
      | none => []
    .ok (consoleLine fields ++ trace ++ failed)

/-- The text that an event is written as. What only asks for a trace or a failure is not written. -/
def write (format : LogFormat) (fields : LogFields) : Except Error Text :=
  let fields := fields.filter fun f => f.1 != "stack_info".toList
  match format with
  | .json => .ok (Data.json (.record (fields.filter fun f => f.1 != "exc_info".toList)))
  | .console => consoleText fields

end LogFormat

/-- The first field that cannot be given, if there is one. Those of `always` cannot be given even to
an event that is dropped. -/
def reservedField? (isLogged : Bool) (fields : LogFields) : Option Text :=
  let always := ["event", "self"].map String.toList
  let reserved := if isLogged then always ++ ["method_name".toList] else always
  reserved.find? fun name => fields.any fun field => field.1 == name

/-- Fields of a scope, refused if they have the one name that a scope cannot give. -/
def LogScopes.enter? (scopes : LogScopes) (fields : LogFields) : Except Error LogScopes :=
  let reserved := "self".toList
  if fields.any fun field => field.1 == reserved then .error (.reservedLogField reserved)
  else .ok (scopes.enter fields)

/-- What a call writes for an event; nothing if its level is below the threshold. -/
def LogCall.run (call : LogCall) (threshold : Nat) (format : LogFormat) (scopes : LogScopes)
    (message : Data) (fields : LogFields) : Except Error (Option Text) :=
  let isLogged := threshold ≤ call.level.rank
  match reservedField? isLogged fields with
  | some name => .error (.reservedLogField name)
  | none =>
    if isLogged then
      let asks := call.asksForFailure && (fields.lookup "exc_info".toList).isNone
      let fields := if asks then NameMap.put fields "exc_info".toList (.truth true) else fields
      (format.write (scopes.event call.level message fields)).map some
    else .ok none

end CsvIntake
