import KindDispatch.Bench.Run
import KindDispatch.CommandLine.Arguments
import KindDispatch.Config.File
import KindDispatch.Report.Json
import KindDispatch.Report.Text

/-!
# Runs of the program

What the program prints and the code it ends with, given its arguments, the files it sees and a way
to measure.  A benchmark that fails is reported as a JSON response on the standard output; arguments
that cannot be read leave it empty.  The log options are checked, and the log itself is empty.
-/

namespace KindDispatch.CommandLine

structure Result where
  exitCode : Nat
  output : String
  /-- Text for the standard error. -/
  complaint : String
deriving DecidableEq, Repr, Inhabited

namespace Result

def printed (output : String) : Result := ⟨0, output, ""⟩

def failed (error : BenchError) : Result := ⟨error.code.number, error.json.response, ""⟩

def ofReport (json : Bool) (report : BenchReport) : Result :=
  printed (if json then report.json.response else report.text)

end Result

def versionText : String := "visitbench 0.1.0\n"

def helpText : String :=
  "Compare naive and kind-cached visitor dispatch

Usage: visitbench [OPTIONS] [PATHS]...

Arguments:
  [PATHS]...  Directories or files to collect sources from (default: config roots, else `.`)

Options:
      --mode <MODE>              Dispatch strategy to measure [possible values: naive, cached, both]
  -n, --iterations <ITERATIONS>  Measured passes over the corpus
  -j, --jobs <JOBS>              Worker threads (1 traverses on the main thread)
      --ext <EXT>                File extension to collect; may be given several times
      --config <CONFIG>          Config file (default: visitbench.toml in the working directory)
      --json                     Emit the report as JSON instead of text
      --log-level <LOG_LEVEL>    Log level [default: warn] [possible values: trace, debug, info, warn, error]
      --log-format <LOG_FORMAT>  Log line format on stderr [default: text] [possible values: text, json]
  -h, --help                     Print help
  -V, --version                  Print version
"

/-- What is printed when the arguments are not read to their end.  Arguments that cannot be read
have the code of bad values. -/
def Result.ofStop : Stop → Result
  | .version => printed versionText
  | .help => printed helpText
  | .refused reason =>
    ⟨ErrorCode.invalidArguments.number, "", "error: " ++ reason.message ++ "\n"⟩

/-- The settings file that is given, or the one in the working directory if there is one; then the
options replace what they name.  A file that was not given is named by its whole path. -/
def Options.config (options : Options) (tree : FileTree) (workingDirectory : String) :
    Except BenchError Config :=
  let base :=
    match options.configFile with
    | some path => Config.load tree path
    | none =>
      if tree.pathExists Config.fileName then
        Config.loadAs (Path.join workingDirectory Config.fileName) tree Config.fileName
      else .ok .default
  base.map options.overrides.apply

def Options.run {m : Type → Type} [Monad m] (options : Options) (meter : Meter m)
    (tree : FileTree) (workingDirectory : String) : m Result := do
  match options.config tree workingDirectory with
  | .error error => return .failed error
  | .ok config =>
    match ← Bench.run meter tree config with
    | .error error => return .failed error
    | .ok report => return .ofReport options.json report

def run {m : Type → Type} [Monad m] (meter : Meter m) (tree : FileTree)
    (workingDirectory : String) (arguments : List String) : m Result :=
  match Options.ofArguments arguments with
  | .error stop => return .ofStop stop
  | .ok options => options.run meter tree workingDirectory

end KindDispatch.CommandLine
