import KindDispatch.Json.Text
import KindDispatch.Report.Basic

/-!
# Responses in JSON

A response is one indented JSON object that starts with its status and the version of its layout.
-/

namespace KindDispatch

def PassStats.json (stats : PassStats) : Json :=
  .object [("nodes_visited", .nat stats.nodesVisited), ("functions", .nat stats.functions),
    ("structs", .nat stats.structs), ("methods", .nat stats.methods)]

def DispatchCounters.json (counters : DispatchCounters) : Json :=
  .object [("lookups", .nat counters.lookups), ("hits", .nat counters.hits),
    ("misses", .nat counters.misses), ("shared_hits", .nat counters.sharedHits),
    ("applicability_checks", .nat counters.applicabilityChecks)]

/-- A peak that was not measured is left out. -/
def RunReport.json (run : RunReport) : Json :=
  .object ([("mode", .string run.strategy.label), ("iterations", .nat run.iterations),
    ("jobs", .nat run.jobs), ("nodes_visited", .nat run.nodesVisited),
    ("last_pass", run.lastPass.json), ("elapsed_ms", .number run.elapsedMs),
    ("dispatch", run.dispatch.json)] ++
    match run.peakMemory with
    | some peak => [("peak_memory_bytes", .nat peak)]
    | none => [])

def SkippedFile.json (skipped : SkippedFile) : Json :=
  .object (("path", .string skipped.path) ::
    match skipped.reason with
    | .unreadable message => [("reason", .string "unreadable"), ("message", .string message)]
    | .parseError line column message =>
      [("reason", .string "parse_error"), ("line", .nat line), ("column", .nat column),
        ("message", .string message)])

def schemaVersion : String := "1"

def BenchReport.json (report : BenchReport) : Json :=
  .object ([("status", .string "ok"), ("schema_version", .string schemaVersion),
    ("files", .nat report.files), ("skipped", .array (report.skipped.map SkippedFile.json)),
    ("source_bytes", .nat report.sourceBytes), ("corpus_nodes", .nat report.corpusNodes),
    ("runs", .array (report.runs.map RunReport.json))] ++
    match report.speedup with
    | some speedup => [("speedup", .number speedup)]
    | none => [])

def BenchError.json (error : BenchError) : Json :=
  .object [("status", .string "error"), ("schema_version", .string schemaVersion),
    ("error", .object [("code", .nat error.code.number), ("message", .string error.message)])]

def Json.response (json : Json) : String := json.pretty 0 ++ "\n"

end KindDispatch
