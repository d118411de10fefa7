import KindDispatch.CommandLine.Run

/-!
# The program

Copies the part of the file system a run needs into a `FileTree`, measures runs, and prints what the
run of the program leaves.
-/

namespace KindDispatch.Main

/-! ## Copying files -/

def names (path : String) : Location := (Path.segments path).filter (· ≠ "")

def pathOf (place : Location) : String := "/" ++ "/".intercalate place

/-- The path a link at a place leads to in the end; the path of the link itself if it leads
nowhere. -/
def goalOf (place : Location) : IO String := do
  try return (← IO.FS.realPath (pathOf place)).toString
  catch _ => return pathOf place

def withDirectory (top : Entry) (place : Location) : Entry :=
  if (top.find? place).isSome then top else top.insert place (.directory [])

abbrev Needed := String → Bool

/-- A copy of an entry with all that is below it, and the paths that links in it lead to; nothing of
what cannot be read. -/
partial def copyBelow (needed : Needed) (place : Location) (entry : IO.FS.DirEntry) :
    IO (Option (Entry × List String)) := do
  try
    match (← entry.path.symlinkMetadata).type with
    | .dir =>
      let copies ← (← entry.path.readDir).toList.mapM fun below => do
        return (below.fileName, ← copyBelow needed (place ++ [below.fileName]) below)
      let kept := copies.filterMap fun (name, copy) => copy.map fun (entry, goals) =>
        ((name, entry), goals)
      return some (.directory (kept.map (·.1)), kept.flatMap (·.2))
    | .symlink =>
      let goal ← goalOf place
      return some (.link goal, [goal])
    | .file =>
      let content ← if needed entry.fileName then IO.FS.readBinFile entry.path else pure .empty
      return some (.file content.toList, [])
    | .other => return none
  catch _ => return none

def copyAll (needed : Needed) (top : Entry) (place : Location) : IO (Entry × List String) := do
  let entry : IO.FS.DirEntry := ⟨pathOf place.dropLast, place.getLast?.getD ""⟩
  match ← copyBelow needed place entry with
  | some (copy, goals) => return (top.insert place copy, goals)
  | none => return (top, [])

partial def copyPath (needed : Needed) (top : Entry) (directory : Location) :
    (steps : List String) → IO (Entry × List String)
  | [] => copyAll needed top directory
  | step :: rest => do
    if step = "" || step = "." then copyPath needed top directory rest
    else if step = ".." then copyPath needed top directory.dropLast rest
    else
      let place := directory ++ [step]
      let entry : IO.FS.DirEntry := ⟨pathOf directory, step⟩
      try
        match (← entry.path.symlinkMetadata).type with
        | .symlink =>
          let goal ← goalOf place
          let top := top.insert place (.link goal)
          if goal = pathOf place then return (top, [])
          copyPath needed top [] (names goal ++ rest)
        | .dir => copyPath needed (withDirectory top place) place rest
        | _ => copyAll needed top place
      catch _ => return (withDirectory top directory, [])

partial def copyPaths (needed : Needed) (here : Location) (top : Entry) (seen : List String) :
    (paths : List String) → IO Entry
  | [] => return top
  | path :: rest => do
    if seen.contains path then copyPaths needed here top seen rest
    else
      let start := if Path.isAbsolute path then [] else here
      let (top, goals) ← copyPath needed top start (Path.segments path)
      copyPaths needed here top (path :: seen) (goals ++ rest)

/-! ## Measuring -/

def peakMemory : IO Nat := do
  try
    let lines := (← IO.FS.readFile "/proc/self/status").splitOn "\n"
    let digits := (lines.filter (·.startsWith "VmHWM:")).flatMap fun line =>
      line.toList.filter Char.isDigit
    return ((CommandLine.digits? digits).getD 0) * 1024
  catch _ => return 0

def meter : Meter IO := fun run => do
  let start ← IO.monoNanosNow
  let outcome := run ()
  match outcome with
  | .error error => return .error error
  | .ok (report, forests) =>
    let stop ← IO.monoNanosNow
    let peak ← peakMemory
    return .ok ({ report with
      elapsedMs := .ofNat (stop - start) / .ofNat 1000000, peakMemory := some peak }, forests)

/-! ## Running -/

/-- A run with options.  The settings file is copied first, because it tells which other files to
copy. -/
def run (options : CommandLine.Options) : IO CommandLine.Result := do
  let directory := (← IO.FS.realPath ".").toString
  let here := names directory
  let settings := [options.configFile.getD Config.fileName]
  let everything : Needed := fun _ => true
  let start := withDirectory (.directory []) here
  let top ← copyPaths everything here start [] settings
  match options.config ⟨top, here⟩ directory with
  | .error error => return .failed error
  | .ok config =>
    let needed : Needed := fun name => Path.hasExtension name config.extensions
    let top ← copyPaths needed here start [] config.roots
    let top ← copyPaths everything here top [] settings
    options.run meter ⟨top, here⟩ directory

end KindDispatch.Main

def main (arguments : List String) : IO UInt32 := do
  let result ← match KindDispatch.CommandLine.Options.ofArguments arguments with
    | .error stop => pure (KindDispatch.CommandLine.Result.ofStop stop)
    | .ok options => KindDispatch.Main.run options
  IO.print result.output
  IO.eprint result.complaint
  return .ofNat result.exitCode
