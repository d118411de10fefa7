import KindDispatch.Report.Basic
import KindDispatch.Report.Figures

/-!
# The report as text

One line for each figure: a label padded to sixteen characters, a colon and the figure.
-/

namespace KindDispatch

def rule (width : Nat) (mark : Char) : String := String.ofList (List.replicate width mark)

def ruleWidth : Nat := 60

def field (label value : String) : String :=
  label ++ rule (16 - label.length) ' ' ++ ": " ++ value ++ "\n"

def SkipReason.display : SkipReason → String
  | unreadable message => message
  | parseError line column message => s!"{line}:{column}: " ++ message

def SkippedFile.text (skipped : SkippedFile) : String :=
  "  skipped " ++ skipped.path ++ " (" ++ skipped.reason.display ++ ")\n"

def RunReport.text (run : RunReport) : String :=
  field "Mode" run.strategy.label ++
  (if 1 < run.jobs then field "Jobs" (toString run.jobs) else "") ++
  field "Iterations" (toString run.iterations) ++
  field "Nodes visited" (Figures.thousands run.nodesVisited) ++
  field "Total time" (Figures.decimal run.elapsedMs ++ " ms") ++
  field "Dispatch" (Figures.thousands run.dispatch.lookups ++ " lookups, " ++
    Figures.decimal (run.dispatch.hitRate * .ofNat 100) ++ "% hits") ++
  (match run.peakMemory with
    | some peak => field "Peak memory" (Figures.bytes peak)
    | none => "") ++
  rule ruleWidth '=' ++ "\n"

def BenchReport.text (report : BenchReport) : String :=
  "visitbench: visitor dispatch benchmark\n" ++
  field "Files" s!"{report.files} parsed, {report.skipped.length} skipped" ++
  String.join (report.skipped.map SkippedFile.text) ++
  field "Source size" (Figures.bytes report.sourceBytes) ++
  field "Corpus nodes" (Figures.thousands report.corpusNodes) ++
  rule ruleWidth '-' ++ "\n" ++
  String.join (report.runs.map RunReport.text) ++
  match report.speedup with
  | some speedup => field "Speed-up" (speedup.fixed 2 ++ "x")
  | none => ""

end KindDispatch
