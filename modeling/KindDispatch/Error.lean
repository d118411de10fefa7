import KindDispatch.Visitor

/-!
# Ways a benchmark can fail

Each failure has a message and belongs to a class with a stable number, which is also the exit code
of the program.
-/

namespace KindDispatch

inductive ErrorCode where
  /-- Bad values from the caller. -/
  | invalidArguments
  /-- Settings or visitor declarations that cannot be used. -/
  | configuration
  /-- Nothing to measure. -/
  | noInput
  /-- Failures that are not the caller's doing. -/
  | internal
deriving DecidableEq, Repr

def ErrorCode.number : ErrorCode → Nat
  | invalidArguments => 2
  | configuration => 3
  | noInput => 4
  | internal => 10

inductive BenchError where
  | invalidArguments (reason : String)
  /-- A settings file that could not be read, and why. -/
  | configRead (path reason : String)
  /-- A settings file that does not hold settings, and why. -/
  | configParse (path reason : String)
  | visitors (cause : SetupError)
  /-- No source under the roots could be parsed. -/
  | noInput (roots : String)
  | io (reason : String)
  | internal (reason : String)
deriving DecidableEq, Repr, Inhabited

namespace BenchError

def message : BenchError → String
  | invalidArguments reason => "invalid arguments: " ++ reason
  | configRead path reason => "failed to read config file " ++ path ++ ": " ++ reason
  | configParse path reason => "failed to parse config file " ++ path ++ ": " ++ reason
  | visitors cause => "invalid visitor configuration: " ++ cause.message
  | noInput roots => "no parseable source files found under " ++ roots
  | io reason => "I/O error: " ++ reason
  | internal reason => "internal error: " ++ reason

def code : BenchError → ErrorCode
  | invalidArguments _ => .invalidArguments
  | configRead .. | configParse .. | visitors _ => .configuration
  | noInput _ => .noInput
  | io _ | internal _ => .internal

end BenchError

end KindDispatch
