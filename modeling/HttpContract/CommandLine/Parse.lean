import HttpContract.CommandLine.Basic

/-! Reading the command line from left to right. An option whose value stands in the next argument
is pending until the next option; what is wrong with it comes to light then. -/
namespace HttpContract

inductive UsageError where
  | help
  | version
  | unknownArgument (argument : Text)
  | missingValue (option : Text)
  | invalidValue (option value : Text)
  | invalidNumber (option value : Text)
  | repeated (option : Text)
  | conflict (option other : Text)
  | unexpectedValue (option value : Text)
  deriving DecidableEq, Inhabited

namespace CommandLine

inductive ValueOption where
  | config | apiUrl | httpFile | output | timeoutMillis | strategy | workers
  deriving DecidableEq, Inhabited

namespace ValueOption

def all : List ValueOption := [config, apiUrl, httpFile, output, timeoutMillis, strategy, workers]

def name : ValueOption → Text
  | config => "config"
  | apiUrl => "api-url"
  | httpFile => "http-file"
  | output => "output"
  | timeoutMillis => "timeout-ms"
  | strategy => "strategy"
  | workers => "workers"

def isGiven (flags : Flags) : ValueOption → Bool
  | config => flags.config.isSome
  | apiUrl => flags.apiUrl.isSome
  | httpFile => flags.httpFile.isSome
  | output => flags.output.isSome
  | timeoutMillis => flags.timeoutMillis.isSome
  | strategy => flags.strategy.isSome
  | workers => flags.workers.isSome

/-- A path has at least one character. -/
def readPath (option : ValueOption) (value : Text) : Except UsageError Text :=
  if value.isEmpty then .error (.invalidValue option.name value) else .ok value

/-- A number of 64 bits in decimal digits, with or without a plus. -/
def readNumber (option : ValueOption) (value : Text) : Except UsageError Nat :=
  match Text.natOfDigits? 10 ((Text.strip? ['+'] value).getD value) with
  | none => .error (.invalidNumber option.name value)
  | some number =>
    if number < 18446744073709551616 then .ok number else .error (.invalidNumber option.name value)

def readStrategy (option : ValueOption) (value : Text) : Except UsageError StrategyKind :=
  match StrategyKind.all.find? fun kind => kind.name == value with
  | none => .error (.invalidValue option.name value)
  | some kind => .ok kind

/-- Stores a value. No option may be given twice. -/
def store (option : ValueOption) (value : Text) (flags : Flags) : Except UsageError Flags := do
  if option.isGiven flags then throw (.repeated option.name)
  match option with
  | config => return { flags with config := some (← option.readPath value) }
  | apiUrl => return { flags with apiUrl := some value }
  | httpFile => return { flags with httpFile := some (← option.readPath value) }
  | output => return { flags with output := some (← option.readPath value) }
  | timeoutMillis => return { flags with timeoutMillis := some (← option.readNumber value) }
  | strategy => return { flags with strategy := some (← option.readStrategy value) }
  | workers => return { flags with workers := some (← option.readNumber value) }

end ValueOption

inductive Switch where
  | noColor | verbose | quiet | help | version
  deriving DecidableEq, Inhabited

namespace Switch

def all : List Switch := [noColor, verbose, quiet, help, version]

def name : Switch → Text
  | noColor => "no-color"
  | verbose => "verbose"
  | quiet => "quiet"
  | help => "help"
  | version => "version"

def letter? : Switch → Option Char
  | noColor => none
  | verbose => some 'v'
  | quiet => some 'q'
  | help => some 'h'
  | version => some 'V'

def isGiven (flags : Flags) : Switch → Bool
  | noColor => flags.noColor
  | verbose => flags.verbose
  | quiet => flags.quiet
  | help | version => false

/-- Sets a switch. None may be given twice, and two of them end the reading. -/
def store (switch : Switch) (flags : Flags) : Except UsageError Flags :=
  if switch.isGiven flags then .error (.repeated switch.name)
  else match switch with
    | noColor => .ok { flags with noColor := true }
    | verbose => .ok { flags with verbose := true }
    | quiet => .ok { flags with quiet := true }
    | help => .error .help
    | version => .error .version

end Switch

/-- What the arguments so far have given: the flags, the option whose value is not stored yet, and
whether options have ended. -/
structure Reading where
  flags : Flags := {}
  pending : Option (ValueOption × Option Text) := none
  ended : Bool := false
  deriving DecidableEq, Inhabited

namespace Reading

def settle (reading : Reading) : Except UsageError Reading :=
  match reading.pending with
  | none => .ok reading
  | some (option, none) => .error (.missingValue option.name)
  | some (option, some value) => do
    return { reading with flags := ← option.store value reading.flags, pending := none }

def setSwitch (reading : Reading) (switch : Switch) : Except UsageError Reading := do
  let reading ← reading.settle
  return { reading with flags := ← switch.store reading.flags }

/-- An option by its name, with the value behind its equals sign. -/
def addLong (reading : Reading) (argument name : Text) (attached : Option Text) :
    Except UsageError Reading :=
  match ValueOption.all.find? fun option => option.name == name, attached with
  | some option, none => do return { ← reading.settle with pending := some (option, none) }
  | some option, some value => do
    let reading ← reading.settle
    return { reading with flags := ← option.store value reading.flags }
  | none, _ =>
    match Switch.all.find? fun switch => switch.name == name, attached with
    | some switch, none => reading.setSwitch switch
    | some switch, some value => .error (.unexpectedValue switch.name value)
    | none, _ => .error (.unknownArgument argument)

/-- A group of letters behind one hyphen. -/
def addLetters (reading : Reading) (letters : Text) : Except UsageError Reading :=
  letters.foldlM (fun reading letter =>
    match Switch.all.find? fun switch => switch.letter? == some letter with
    | some switch => reading.setSwitch switch
    | none => .error (.unknownArgument ['-', letter])) reading

/-- Takes an argument into account. One that is no option is the value of the option before it. -/
def addArgument (reading : Reading) (argument : Text) : Except UsageError Reading :=
  if reading.ended then .error (.unknownArgument argument)
  else match argument with
    | ['-', '-'] => .ok { reading with ended := true }
    | '-' :: '-' :: long =>
      match Text.splitFirst? '=' long with
      | none => reading.addLong argument long none
      | some (name, value) => reading.addLong argument name (some value)
    | '-' :: letter :: letters => reading.addLetters (letter :: letters)
    | _ =>
      match reading.pending with
      | some (option, none) => .ok { reading with pending := some (option, some argument) }
      | _ => .error (.unknownArgument argument)

end Reading

def parse (arguments : List Text) : Except UsageError Flags := do
  let reading ← arguments.foldlM Reading.addArgument {}
  let flags := (← reading.settle).flags
  if flags.verbose && flags.quiet then throw (.conflict Switch.verbose.name Switch.quiet.name)
  return flags

end CommandLine
end HttpContract
