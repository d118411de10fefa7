import KindDispatch.Config

/-!
# Arguments of the program

Arguments are options and paths, in any order.  The value of an option is joined to it or the next
argument; behind `--` there are paths only.  Every option but `--ext` is given once at most.
Arguments are read from the left, and the first one that asks for the version or the help, or that
cannot be read, ends the reading.
-/

namespace KindDispatch.CommandLine

/-! ## Options -/

inductive LogLevel where
  | trace
  | debug
  | info
  | warn
  | error
deriving DecidableEq, Repr, Inhabited

namespace LogLevel

def all : List LogLevel := [trace, debug, info, warn, error]

def label : LogLevel → String
  | trace => "trace"
  | debug => "debug"
  | info => "info"
  | warn => "warn"
  | error => "error"

def ofLabel? (text : String) : Option LogLevel := all.find? (·.label == text)

end LogLevel

inductive LogFormat where
  | text
  | json
deriving DecidableEq, Repr, Inhabited

namespace LogFormat

def all : List LogFormat := [text, json]

def label : LogFormat → String
  | text => "text"
  | json => "json"

def ofLabel? (name : String) : Option LogFormat := all.find? (·.label == name)

end LogFormat

inductive Setting where
  | mode
  | iterations
  | jobs
  | extension
  | configFile
  | logLevel
  | logFormat
deriving DecidableEq, Repr, Inhabited

inductive Switch where
  | json
  | version
  | help
deriving DecidableEq, Repr, Inhabited

inductive Flag where
  | setting (setting : Setting)
  | switch (switch : Switch)
deriving DecidableEq, Repr, Inhabited

namespace Flag

def all : List Flag :=
  [setting .mode, setting .iterations, setting .jobs, setting .extension, setting .configFile,
    setting .logLevel, setting .logFormat, switch .json, switch .version, switch .help]

def longName : Flag → String
  | setting .mode => "mode"
  | setting .iterations => "iterations"
  | setting .jobs => "jobs"
  | setting .extension => "ext"
  | setting .configFile => "config"
  | setting .logLevel => "log-level"
  | setting .logFormat => "log-format"
  | switch .json => "json"
  | switch .version => "version"
  | switch .help => "help"

def letter? : Flag → Option Char
  | setting .iterations => some 'n'
  | setting .jobs => some 'j'
  | switch .version => some 'V'
  | switch .help => some 'h'
  | _ => none

def ofLongName? (name : String) : Option Flag := all.find? (·.longName == name)

def ofLetter? (letter : Char) : Option Flag := all.find? (·.letter? == some letter)

end Flag

structure Options where
  paths : List String
  extensions : List String
  mode : Option DispatchMode
  iterations : Option Nat
  jobs : Option Nat
  configFile : Option String
  logLevel : Option LogLevel
  logFormat : Option LogFormat
  json : Bool
deriving DecidableEq, Repr, Inhabited

namespace Options

def empty : Options := ⟨[], [], none, none, none, none, none, none, false⟩

def overrides (options : Options) : Overrides :=
  ⟨options.paths, options.extensions, options.iterations, options.mode, options.jobs⟩

end Options

/-! ## What can go wrong -/

inductive UsageError where
  | unknownFlag (spelling : String)
  | missingValue (setting : Setting)
  | badValue (setting : Setting) (value : String)
  | unwantedValue (switch : Switch)
  | repeated (flag : Flag)
  | emptyPath
deriving DecidableEq, Repr, Inhabited

def Flag.spelling (flag : Flag) : String := "--" ++ flag.longName

def UsageError.message : UsageError → String
  | unknownFlag spelling => "unknown option " ++ spelling
  | missingValue setting => "a value is missing behind " ++ (Flag.setting setting).spelling
  | badValue setting value => (Flag.setting setting).spelling ++ " cannot be \"" ++ value ++ "\""
  | unwantedValue switch => (Flag.switch switch).spelling ++ " takes no value"
  | repeated flag => flag.spelling ++ " is given more than once"
  | emptyPath => "a path is empty"

inductive Stop where
  | version
  | help
  | refused (reason : UsageError)
deriving DecidableEq, Repr, Inhabited

/-! ## Values -/

def digits? (text : List Char) : Option Nat :=
  if text.isEmpty || !text.all Char.isDigit then none
  else some (text.foldl (fun n c => 10 * n + (c.toNat - '0'.toNat)) 0)

def natural? : List Char → Option Nat
  | '+' :: text => digits? text
  | text => digits? text

/-- Iterations are a signed number, so that zero may have a minus sign. -/
def iterations? (text : String) : Option Nat :=
  match text.toList with
  | '-' :: digits => (digits? digits).filter (· = 0)
  | digits => (natural? digits).filter (· < UInt32.size)

def jobs? (text : String) : Option Nat := (natural? text.toList).filter (· < UInt64.size)

def path? (text : String) : Option String := if text.isEmpty then none else some text

namespace Options

def once {α : Type} (setting : Setting) (text : String) (earlier value : Option α) :
    Except UsageError (Option α) :=
  if earlier.isSome then .error (.repeated (.setting setting))
  else if value.isSome then .ok value
  else .error (.badValue setting text)

def set (options : Options) (setting : Setting) (text : String) : Except UsageError Options :=
  match setting with
  | .extension => .ok { options with extensions := options.extensions ++ [text] }
  | .mode => do
    return { options with mode := ← once setting text options.mode (DispatchMode.ofLabel? text) }
  | .iterations => do
    return { options with iterations := ← once setting text options.iterations (iterations? text) }
  | .jobs => do return { options with jobs := ← once setting text options.jobs (jobs? text) }
  | .configFile => do
    return { options with configFile := ← once setting text options.configFile (path? text) }
  | .logLevel => do
    return { options with
      logLevel := ← once setting text options.logLevel (LogLevel.ofLabel? text) }
  | .logFormat => do
    return { options with
      logFormat := ← once setting text options.logFormat (LogFormat.ofLabel? text) }

end Options

/-! ## Reading -/

structure Reading where
  options : Options
  /-- The option whose value is the next argument. -/
  awaiting : Option Setting
  /-- Whether only paths follow. -/
  pathsOnly : Bool
deriving DecidableEq, Repr, Inhabited

namespace Reading

def start : Reading := ⟨.empty, none, false⟩

def settled (reading : Reading) : Except Stop Unit :=
  match reading.awaiting with
  | some setting => .error (.refused (.missingValue setting))
  | none => .ok ()

def addPath (reading : Reading) (path : String) : Except Stop Reading :=
  let options := reading.options
  if path.isEmpty then .error (.refused .emptyPath)
  else .ok { reading with options := { options with paths := options.paths ++ [path] } }

def give (reading : Reading) (setting : Setting) : Option String → Except Stop Reading
  | none => .ok { reading with awaiting := some setting }
  | some value =>
    match reading.options.set setting value with
    | .ok options => .ok { reading with options, awaiting := none }
    | .error reason => .error (.refused reason)

def turnOn (reading : Reading) : Switch → Except Stop Reading
  | .version => .error .version
  | .help => .error .help
  | .json =>
    if reading.options.json then .error (.refused (.repeated (.switch .json)))
    else .ok { reading with options := { reading.options with json := true } }

def joinedValue? : List Char → Option String
  | [] => none
  | _ :: value => some (String.ofList value)

def readLong (reading : Reading) (text : List Char) : Except Stop Reading :=
  let name := String.ofList (text.takeWhile (· ≠ '='))
  let value := joinedValue? (text.dropWhile (· ≠ '='))
  match Flag.ofLongName? name with
  | none => .error (.refused (.unknownFlag ("--" ++ name)))
  | some (.setting setting) => reading.give setting value
  | some (.switch switch) =>
    if value.isSome then .error (.refused (.unwantedValue switch)) else reading.turnOn switch

def attachedValue? : List Char → Option String
  | [] => none
  | '=' :: value => some (String.ofList value)
  | value => some (String.ofList value)

def readLetters : List Char → Reading → Except Stop Reading
  | [], reading => .ok reading
  | letter :: rest, reading =>
    match Flag.ofLetter? letter with
    | none => .error (.refused (.unknownFlag ("-" ++ letter.toString)))
    | some (.setting setting) => reading.give setting (attachedValue? rest)
    | some (.switch switch) => do readLetters rest (← reading.turnOn switch)

/-- Reads one argument.  A single dash is a value or a path like any other text. -/
def readArgument (reading : Reading) (argument : String) : Except Stop Reading :=
  if reading.pathsOnly then reading.addPath argument
  else
    match argument.toList with
    | ['-', '-'] => do
      reading.settled
      return { reading with pathsOnly := true }
    | '-' :: '-' :: text => do
      reading.settled
      reading.readLong text
    | '-' :: letter :: rest => do
      reading.settled
      readLetters (letter :: rest) reading
    | _ =>
      match reading.awaiting with
      | some setting => reading.give setting (some argument)
      | none => reading.addPath argument

end Reading

def Options.ofArguments (arguments : List String) : Except Stop Options := do
  let reading ← arguments.foldlM Reading.readArgument Reading.start
  reading.settled
  return reading.options

end KindDispatch.CommandLine
