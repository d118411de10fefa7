import KindDispatch.Error

/-!
# Benchmark settings

Every setting has a default; `Overrides` replaces the ones it names.  `Config.validate` refuses
settings no run can use.
-/

namespace KindDispatch

inductive Strategy where
  | naive
  | cached
deriving DecidableEq, Repr, Inhabited

def Strategy.label : Strategy → String
  | naive => "naive"
  | cached => "cached"

inductive DispatchMode where
  | naive
  | cached
  | both
deriving DecidableEq, Repr, Inhabited

namespace DispatchMode

def all : List DispatchMode := [naive, cached, both]

def label : DispatchMode → String
  | naive => "naive"
  | cached => "cached"
  | both => "both"

def ofLabel? (text : String) : Option DispatchMode := all.find? (·.label == text)

def runs : DispatchMode → List Strategy
  | naive => [.naive]
  | cached => [.cached]
  | both => [.naive, .cached]

end DispatchMode

structure Config where
  roots : List String
  /-- Extensions to collect, without the leading dot. -/
  extensions : List String
  /-- Measured passes over the corpus. -/
  iterations : Nat
  mode : DispatchMode
  /-- Number of workers the corpus is split for. -/
  jobs : Nat
deriving DecidableEq, Repr

namespace Config

def default : Config := ⟨["."], ["rs"], 100, .cached, 1⟩

instance : Inhabited Config := ⟨default⟩

def fileName : String := "visitbench.toml"

def validate (config : Config) : Except BenchError Unit :=
  if config.roots.isEmpty then .error (.invalidArguments "no source roots given")
  else if config.extensions.isEmpty then .error (.invalidArguments "no file extensions given")
  else if config.iterations = 0 then
    .error (.invalidArguments "iterations must be at least 1")
  else if config.jobs = 0 then .error (.invalidArguments "jobs must be at least 1")
  else .ok ()

def rootsDisplay (config : Config) : String := ", ".intercalate config.roots

end Config

/-- Settings given on the command line; empty lists and missing values leave a setting alone. -/
structure Overrides where
  roots : List String
  extensions : List String
  iterations : Option Nat
  mode : Option DispatchMode
  jobs : Option Nat
deriving DecidableEq, Repr, Inhabited

namespace Overrides

def none : Overrides := ⟨[], [], .none, .none, .none⟩

def trimDots (extension : String) : String :=
  String.ofList (extension.toList.dropWhile (· == '.'))

def apply (overrides : Overrides) (config : Config) : Config where
  roots := if overrides.roots.isEmpty then config.roots else overrides.roots
  extensions :=
    if overrides.extensions.isEmpty then config.extensions
    else overrides.extensions.map trimDots
  iterations := overrides.iterations.getD config.iterations
  mode := overrides.mode.getD config.mode
  jobs := overrides.jobs.getD config.jobs

end Overrides

end KindDispatch
