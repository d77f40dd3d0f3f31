import CsvIntake.Text.Basic

/-! Arguments of the command line. Options may stand anywhere behind the command, `--` ends them, and a
value follows its option or stands in the same argument. Help may be asked for before the command. -/
namespace CsvIntake.CommandLine

/-- What is to be done. -/
inductive Command where
  | detect
  | create
  | append
  deriving DecidableEq, Repr

/-- The command with a name. -/
def Command.ofName? (name : Text) : Option Command :=
  match String.ofList name with
  | "detect" => some .detect
  | "create" => some .create
  | "append" => some .append
  | _ => none

/-- The number of arguments that are not options. -/
def Command.operandCount : Command → Nat
  | .detect => 1
  | .create => 1
  | .append => 2

/-- The options of the commands. -/
inductive Flag where
  | separators
  | json
  | verbose
  | database
  | start
  | help
  deriving DecidableEq, Repr

namespace Flag

/-- Whether a value belongs to the option. -/
def takesValue : Flag → Bool
  | .separators | .database | .start => true
  | .json | .verbose | .help => false

/-- Whether a command knows the option. -/
def belongsTo (command : Command) : Flag → Bool
  | .database => command != .detect
  | .start => command == .create
  | _ => true

/-- The option with a long name. -/
def ofLongName? (name : Text) : Option Flag :=
  match String.ofList name with
  | "number-separators" => some .separators
  | "json" => some .json
  | "verbose" => some .verbose
  | "db" => some .database
  | "prefix" => some .start
  | "help" => some .help
  | _ => none

/-- The option with a short name. -/
def ofShortName? (name : Char) : Option Flag :=
  if name = 'v' then some .verbose else if name = 'p' then some .start else none

end Flag

/-- Arguments of a command as far as they are read. -/
structure Arguments where
  operands : List Text := []
  separators : Option Text := none
  json : Bool := false
  verbosity : Nat := 0
  database : Option Text := none
  start : Text := []
  help : Bool := false
  deriving DecidableEq, Repr

namespace Arguments

/-- Enters an option without a value. -/
def withFlag (args : Arguments) : Flag → Arguments
  | .json => { args with json := true }
  | .verbose => { args with verbosity := args.verbosity + 1 }
  | .help => { args with help := true }
  | _ => args

/-- Enters an option with its value; the last value of an option counts. -/
def withValue (args : Arguments) (flag : Flag) (value : Text) : Arguments :=
  match flag with
  | .separators => { args with separators := some value }
  | .database => { args with database := some value }
  | .start => { args with start := value }
  | _ => args

/-- Enters an argument that is not an option. -/
def withOperand (args : Arguments) (operand : Text) : Arguments :=
  { args with operands := args.operands ++ [operand] }

/-- What an argument of short options says: the flags in it, and an option at its end that takes a
value, with the rest of the argument. -/
def shortOptions? (command : Command) : Text → Option (List Flag × Option (Flag × Text))
  | [] => some ([], none)
  | c :: cs =>
    match (Flag.ofShortName? c).filter (·.belongsTo command) with
    | none => none
    | some flag =>
      if flag.takesValue then some ([], some (flag, cs))
      else (shortOptions? command cs).map fun (flags, last) => (flag :: flags, last)

/-- What an argument says. -/
inductive Word where
  | operand
  | endOfOptions
  | flags (flags : List Flag)
  | value (flags : List Flag) (flag : Flag) (value : Text)
  | needsValue (flags : List Flag) (flag : Flag)
  | wrong
  deriving DecidableEq, Repr

/-- A long option, with or without `=value`. -/
def longOption (command : Command) (body : Text) : Word :=
  let name := body.takeWhile (· != '=')
  match (Flag.ofLongName? name).filter (·.belongsTo command), body.dropWhile (· != '=') with
  | none, _ => .wrong
  | some flag, [] => if flag.takesValue then .needsValue [] flag else .flags [flag]
  | some flag, _ :: value => if flag.takesValue then .value [] flag value else .wrong

/-- What an argument says by itself. -/
def classify (command : Command) (word : Text) : Word :=
  match word with
  | ['-', '-'] => .endOfOptions
  | '-' :: '-' :: body => longOption command body
  | '-' :: c :: cs =>
    match shortOptions? command (c :: cs) with
    | none => .wrong
    | some (flags, none) => .flags flags
    | some (flags, some (flag, [])) => .needsValue flags flag
    | some (flags, some (flag, value)) => .value flags flag value
  | _ => .operand

/-- Reads the arguments behind a command; nothing if an option is unknown or lacks its value. -/
def readFrom? (command : Command) (args : Arguments) : List Text → Option Arguments
  | [] => some args
  | word :: rest =>
    match classify command word with
    | .operand => readFrom? command (args.withOperand word) rest
    | .endOfOptions => some (rest.foldl withOperand args)
    | .flags flags => readFrom? command (flags.foldl withFlag args) rest
    | .value flags flag value =>
      readFrom? command ((flags.foldl withFlag args).withValue flag value) rest
    | .needsValue flags flag =>
      match rest with
      | [] => none
      | value :: rest => readFrom? command ((flags.foldl withFlag args).withValue flag value) rest
    | .wrong => none

/-- What a command line asks for. -/
inductive Request where
  | help
  | run (command : Command) (args : Arguments)
  deriving DecidableEq, Repr

/-- Reads a command and its arguments; nothing if there is no such command, or if the number of
arguments is wrong. Help is given for any number of them. -/
def readCommand? : List Text → Option Request
  | [] => none
  | name :: rest =>
    match Command.ofName? name with
    | none => none
    | some command =>
      match readFrom? command {} rest with
      | none => none
      | some args =>
        if args.help then some .help
        else if args.operands.length == command.operandCount then some (.run command args)
        else none

/-- Whether no option but the one for help stands before the command. -/
def onlyHelpBeforeCommand : List Text → Bool
  | [] => true
  | word :: rest =>
    if word == "--help".toList then onlyHelpBeforeCommand rest
    else word == "--".toList || word.head? != some '-' || word.length == 1

/-- Reads a command line; nothing if it cannot be run. -/
def read? : List Text → Option Request
  | [] => none
  | word :: rest =>
    if word == "--help".toList then
      if onlyHelpBeforeCommand rest then some .help else none
    else if word == "--".toList then readCommand? rest
    else readCommand? (word :: rest)

end Arguments

end CsvIntake.CommandLine
