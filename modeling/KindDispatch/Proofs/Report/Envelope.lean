import KindDispatch.Proofs.Json.Writing
import KindDispatch.Report.Json
import Mathlib.Data.List.Forall2

/-!
# Reports and their texts

A response is one JSON object that starts with its status and has no key twice in any object of it,
although the parts of a report and the reason a file was skipped for are fields of the objects
around them.  What was measured can be told from it, times apart (`untimed_of_content`): those may
be written alike.
-/

namespace KindDispatch

open JsonContent (KeysDistinct)

/-! ## What was measured -/

def RunReport.untimed (run : RunReport) : RunReport := { run with elapsedMs := .zero }

/-- The report with every time taken as zero. -/
def BenchReport.untimed (report : BenchReport) : BenchReport :=
  { report with runs := report.runs.map RunReport.untimed }

theorem PassStats.eq_of_content {stats other : PassStats}
    (same : stats.json.content = other.json.content) : stats = other := by
  cases stats
  cases other
  simpa [json, Json.content, Json.fieldContents] using same

theorem DispatchCounters.eq_of_content {counters other : DispatchCounters}
    (same : counters.json.content = other.json.content) : counters = other := by
  cases counters
  cases other
  simpa [json, Json.content, Json.fieldContents] using same

theorem Strategy.label_inj {strategy other : Strategy} (same : strategy.label = other.label) :
    strategy = other := by
  cases strategy <;> cases other <;> simp_all [label]

theorem SkippedFile.eq_of_content {skipped other : SkippedFile}
    (same : skipped.json.content = other.json.content) : skipped = other := by
  obtain ⟨path, reason⟩ := skipped
  obtain ⟨path', reason'⟩ := other
  cases reason <;> cases reason' <;> simp [json, Json.content, Json.fieldContents] at same <;>
    simp [same]

theorem RunReport.untimed_of_content {run other : RunReport}
    (same : run.json.content = other.json.content) : run.untimed = other.untimed := by
  obtain ⟨strategy, iterations, jobs, nodes, pass, elapsed, counters, peak⟩ := run
  obtain ⟨strategy', iterations', jobs', nodes', pass', elapsed', counters', peak'⟩ := other
  have fields : strategy.label = strategy'.label ∧ iterations = iterations' ∧ jobs = jobs' ∧
      nodes = nodes' ∧ pass.json.content = pass'.json.content ∧
      counters.json.content = counters'.json.content ∧ peak = peak' := by
    cases peak <;> cases peak' <;> simp_all [json, Json.content, Json.fieldContents]
  obtain ⟨strategies, rfl, rfl, rfl, passes, spent, rfl⟩ := fields
  obtain rfl := Strategy.label_inj strategies
  obtain rfl := PassStats.eq_of_content passes
  obtain rfl := DispatchCounters.eq_of_content spent
  rfl

theorem BenchReport.untimed_of_content {report other : BenchReport}
    (same : report.json.content = other.json.content) : report.untimed = other.untimed := by
  obtain ⟨files, skipped, bytes, nodes, runs⟩ := report
  obtain ⟨files', skipped', bytes', nodes', runs'⟩ := other
  simp only [json, Json.content, Json.fieldContents, Json.contents_eq_map, List.map_map,
    List.cons_append, List.nil_append, JsonContent.object.injEq, List.cons.injEq, Prod.mk.injEq,
    true_and, JsonContent.number.injEq, JsonContent.array.injEq, decimalDigits_inj] at same
  obtain ⟨rfl, skips, rfl, rfl, measured, -⟩ := same
  have injective : (Json.content ∘ SkippedFile.json).Injective := fun _ _ =>
    SkippedFile.eq_of_content
  obtain rfl := List.map_injective_iff.mpr injective skips
  have alike : List.Forall₂ (fun run run' => run.json.content = run'.json.content) runs runs' := by
    simpa [← List.forall₂_eq_eq_eq] using measured
  have untimed : runs.map RunReport.untimed = runs'.map RunReport.untimed := by
    simpa [← List.forall₂_eq_eq_eq] using alike.imp fun _ _ => RunReport.untimed_of_content
  simp only [BenchReport.untimed, untimed]

/-! ## Keys -/

section Keys

@[simp] theorem keysDistinct_nat (value : Nat) : (Json.nat value).content.KeysDistinct := .number _

@[simp] theorem keysDistinct_string (value : String) : (Json.string value).content.KeysDistinct :=
  .string _

@[simp] theorem keysDistinct_number (value : Binary64) :
    (Json.number value).content.KeysDistinct := by
  rw [Json.content]
  cases Json.numberStyle.writeFinite? value with
  | none => exact .null
  | some text => exact .number _

private theorem keysDistinct_array {elements : List Json}
    (inner : ∀ element ∈ elements, element.content.KeysDistinct) :
    (Json.array elements).content.KeysDistinct := by
  refine .array fun content member => ?_
  rw [Json.contents_eq_map] at member
  obtain ⟨element, isElement, rfl⟩ := List.mem_map.mp member
  exact inner element isElement

private theorem keysDistinct_object {fields : List (String × Json)}
    (distinct : (fields.map Prod.fst).Nodup)
    (inner : ∀ field ∈ fields, field.2.content.KeysDistinct) :
    (Json.object fields).content.KeysDistinct := by
  refine .object ?_ fun content member => ?_
  · rwa [Json.fieldContents_eq_map, List.map_map]
  · rw [Json.fieldContents_eq_map] at member
    obtain ⟨field, isField, rfl⟩ := List.mem_map.mp member
    exact inner field isField

@[simp] theorem PassStats.keysDistinct (stats : PassStats) : stats.json.content.KeysDistinct :=
  keysDistinct_object (by simp) (by simp)

@[simp] theorem DispatchCounters.keysDistinct (counters : DispatchCounters) :
    counters.json.content.KeysDistinct :=
  keysDistinct_object (by simp) (by simp)

theorem RunReport.keysDistinct (run : RunReport) : run.json.content.KeysDistinct := by
  obtain ⟨strategy, iterations, jobs, nodes, pass, elapsed, counters, peak⟩ := run
  cases peak <;> exact keysDistinct_object (by simp) (by simp)

theorem SkippedFile.keysDistinct (skipped : SkippedFile) : skipped.json.content.KeysDistinct := by
  obtain ⟨path, reason⟩ := skipped
  cases reason <;> exact keysDistinct_object (by simp) (by simp)

theorem BenchReport.keysDistinct (report : BenchReport) : report.json.content.KeysDistinct := by
  have skipped : (Json.array (report.skipped.map SkippedFile.json)).content.KeysDistinct :=
    keysDistinct_array (by simp [SkippedFile.keysDistinct])
  have runs : (Json.array (report.runs.map RunReport.json)).content.KeysDistinct :=
    keysDistinct_array (by simp [RunReport.keysDistinct])
  rw [json]
  cases report.speedup <;> exact keysDistinct_object (by simp) (by simp [skipped, runs])

end Keys

/-! ## The text -/

theorem BenchReport.isText_response (report : BenchReport) :
    report.json.content.IsText report.json.response.toList := by
  rw [Json.response, String.toList_append]
  exact Json.isText_pretty report.json _ (List.all_eq_true.mp rfl)

/-- A report is determined by its response, times apart.  The response is one JSON object that has
its status first and no key twice in any object of it; reports with one response, or with responses
that differ in blanks and escapes only, agree in all that was counted. -/
theorem response_determines_report (report : BenchReport) :
    report.json.content.IsText report.json.response.toList ∧
      JsonContent.read? report.json.response.toList = some report.json.content ∧
      (∃ fields, report.json.content = .object (("status", .string "ok") :: fields)) ∧
      report.json.content.KeysDistinct ∧
      (∀ other : BenchReport, other.json.response = report.json.response →
        other.untimed = report.untimed) ∧
      ∀ (other : BenchReport) (text : List Char), report.json.content.IsText text →
        other.json.content.IsText text → other.untimed = report.untimed := by
  have unique (other : BenchReport) (text : List Char) (isText : report.json.content.IsText text)
      (isText' : other.json.content.IsText text) : other.untimed = report.untimed := by
    have read := JsonContent.read?_of_isText isText
    rw [JsonContent.read?_of_isText isText'] at read
    exact BenchReport.untimed_of_content (Option.some.inj read)
  refine ⟨report.isText_response, JsonContent.read?_of_isText report.isText_response, ⟨_, rfl⟩,
    report.keysDistinct, ?_, unique⟩
  intro other same
  exact unique other _ report.isText_response (same ▸ other.isText_response)

theorem response_determines_report_timeless :
    let run (elapsed : Binary64) : RunReport :=
      ⟨.cached, 2, 1, 60, ⟨30, 2, 1, 0⟩, elapsed, ⟨60, 57, 3, 0, 12⟩, some 4096⟩
    let report : BenchReport :=
      ⟨1, [⟨"a\"b.rs", .parseError 3 7 "expected `;`"⟩, ⟨"c.rs", .unreadable ""⟩], 2048, 30,
        [run .nan]⟩
    let other : BenchReport := { report with runs := [run (.infinity false)] }
    other ≠ report ∧ other.json.response = report.json.response ∧
      JsonContent.read? report.json.response.toList = some report.json.content ∧
      other.untimed = report.untimed := by
  intro run report other
  have same : other.json.response = report.json.response := rfl
  obtain ⟨-, read, -, -, determined, -⟩ := response_determines_report report
  exact ⟨by decide, same, read, determined other same⟩

end KindDispatch
