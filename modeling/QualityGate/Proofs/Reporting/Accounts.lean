import Mathlib.Algebra.GroupWithZero.Nat
import Mathlib.Data.List.Basic
import Mathlib.Data.List.Induction
import QualityGate.Reporting.Print

/-!
The accounts of a scan agree: the summary, the result that is kept for the end, and the records of the text form. Each
of them decides on its own what a failed file counts for; `accounts_collect` says that after any reports they say the
same.
-/

namespace QualityGate

inductive Record where
  | method (violation : MethodViolation)
  | line (violation : LineViolation)
  | failure (error : ScanError)
  deriving DecidableEq, Repr

namespace Record

def text : Record → Text
  | method violation =>
    "File: " ++ violation.file ++ "\nClass: " ++ violation.owner ++ "\nMethod: " ++ violation.method ++
      "\nLine Count: " ++ Text.ofInt violation.lineCount ++ "\n"
  | line violation => violation.path ++ ":" ++ Text.ofInt violation.line ++ ": " ++ violation.text ++ "\n"
  | failure error => "Error processing file: " ++ error.path ++ ", Error: " ++ error.error ++ "\n"

def method? : Record → Option MethodViolation
  | method violation => some violation
  | _ => none

def line? : Record → Option LineViolation
  | line violation => some violation
  | _ => none

def failure? : Record → Option ScanError
  | failure error => some error
  | _ => none

end Record

/-- The records about a file: one for its failure, or one for each violation. -/
def FileReport.records (report : FileReport) : List Record :=
  match report.error with
  | some error => [.failure error]
  | none => report.methods.map .method ++ report.lines.map .line

theorem FileReport.writes_eq (report : FileReport) : report.writes = report.records.map Record.text := by
  unfold writes records
  cases report.error with
  | some error => rfl
  | none =>
    rw [List.map_append, List.map_map, List.map_map]
    rfl

def tally (reports : List FileReport) : Summary := reports.foldl Summary.add {}

def collect (scannedPath check : Text) (reports : List FileReport) : ScanResult :=
  reports.foldl ScanResult.append { scannedPath, check }

theorem tally_concat (reports : List FileReport) (report : FileReport) :
    tally (reports ++ [report]) = (tally reports).add report := List.foldl_concat ..

theorem collect_concat (scannedPath check : Text) (reports : List FileReport) (report : FileReport) :
    collect scannedPath check (reports ++ [report]) = (collect scannedPath check reports).append report :=
  List.foldl_concat ..

def checked (reports : List FileReport) : List FileReport := reports.filter (·.error.isNone)

/-! ### What reports add up to -/

theorem summary_collect (scannedPath check : Text) (reports : List FileReport) :
    (collect scannedPath check reports).summary = tally reports := by
  induction reports using List.reverseRecOn with
  | nil => rfl
  | append_singleton reports report ih =>
    rw [collect_concat, tally_concat, ← ih, ScanResult.append]
    cases report.error <;> rfl

/-- The result keeps, in order, the violations of the files that did not fail and the errors of those that did. -/
theorem collect_eq (scannedPath check : Text) (reports : List FileReport) :
    collect scannedPath check reports =
      { scannedPath, check
        methods := (checked reports).flatMap (·.methods)
        lines := (checked reports).flatMap (·.lines)
        errors := reports.filterMap (·.error)
        summary := tally reports } := by
  induction reports using List.reverseRecOn with
  | nil => rfl
  | append_singleton reports report ih =>
    rw [collect_concat, tally_concat, ih, ScanResult.append, checked, checked]
    cases failed : report.error with
    | some error => simp [failed]
    | none => simp [failed]

theorem tally_eq (reports : List FileReport) :
    tally reports =
      { files := (checked reports).length
        violations := ((checked reports).map FileReport.violations).sum
        errors := reports.countP (·.error.isSome) } := by
  induction reports using List.reverseRecOn with
  | nil => rfl
  | append_singleton reports report ih =>
    rw [tally_concat, ih, Summary.add, checked, checked]
    cases failed : report.error with
    | some error => simp [failed]
    | none => simp [failed]

theorem length_checked_add (reports : List FileReport) :
    (checked reports).length + reports.countP (·.error.isSome) = reports.length := by
  induction reports with
  | nil => rfl
  | cons report rest ih =>
    rw [checked] at ih ⊢
    cases failed : report.error with
    | some error => simp [failed, ← ih, Nat.add_assoc]
    | none => simp [failed, ← ih, Nat.add_right_comm]

/-- The files that did not fail have as many violations as are kept of them. -/
theorem sum_violations (reports : List FileReport) :
    (reports.map FileReport.violations).sum =
      (reports.flatMap (·.methods)).length + (reports.flatMap (·.lines)).length := by
  induction reports with
  | nil => rfl
  | cons report rest ih =>
    simp only [List.map_cons, List.sum_cons, List.flatMap_cons, List.length_append, ih, FileReport.violations]
    omega

/-! ### Records -/

theorem FileReport.records_failed {report : FileReport} {error : ScanError} (failed : report.error = some error) :
    report.records = [.failure error] := by
  rw [records, failed]

theorem FileReport.records_checked {report : FileReport} (unfailed : report.error = none) :
    report.records = report.methods.map .method ++ report.lines.map .line := by
  rw [records, unfailed]

theorem writes_eq_records (reports : List FileReport) :
    reports.flatMap FileReport.writes = (reports.flatMap FileReport.records).map Record.text := by
  rw [List.map_flatMap]
  exact List.flatMap_congr fun report _ => report.writes_eq

/-- What is picked from the records, if nothing is picked from failures. -/
theorem filterMap_records {α : Type} {pick : Record → Option α} {own : FileReport → List α}
    (failure : ∀ error, pick (.failure error) = none)
    (each : ∀ report : FileReport, report.error = none → report.records.filterMap pick = own report)
    (reports : List FileReport) :
    (reports.flatMap FileReport.records).filterMap pick = (checked reports).flatMap own := by
  induction reports with
  | nil => rfl
  | cons report rest ih =>
    rw [List.flatMap_cons, List.filterMap_append, ih, checked, checked]
    cases failed : report.error with
    | some error => simp [FileReport.records_failed failed, failed, failure]
    | none => simp [each report failed, failed]

theorem method?_records (reports : List FileReport) :
    (reports.flatMap FileReport.records).filterMap Record.method? = (checked reports).flatMap (·.methods) := by
  refine filterMap_records (fun _ => rfl) (fun report unfailed => ?_) reports
  rw [FileReport.records_checked unfailed, List.filterMap_append, List.filterMap_map, List.filterMap_map]
  simp [Function.comp_def, Record.method?]

theorem line?_records (reports : List FileReport) :
    (reports.flatMap FileReport.records).filterMap Record.line? = (checked reports).flatMap (·.lines) := by
  refine filterMap_records (fun _ => rfl) (fun report unfailed => ?_) reports
  rw [FileReport.records_checked unfailed, List.filterMap_append, List.filterMap_map, List.filterMap_map]
  simp [Function.comp_def, Record.line?]

theorem failure?_records (reports : List FileReport) :
    (reports.flatMap FileReport.records).filterMap Record.failure? = reports.filterMap (·.error) := by
  induction reports with
  | nil => rfl
  | cons report rest ih =>
    rw [List.flatMap_cons, List.filterMap_append, ih]
    cases failed : report.error with
    | some error => simp [FileReport.records_failed failed, failed, Record.failure?]
    | none =>
      have nothing : report.records.filterMap Record.failure? = [] := by
        simp [FileReport.records_checked failed, Record.failure?]
      simp [nothing, failed]

theorem length_records (reports : List FileReport) :
    (reports.flatMap FileReport.records).length =
      ((checked reports).map FileReport.violations).sum + reports.countP (·.error.isSome) := by
  induction reports with
  | nil => rfl
  | cons report rest ih =>
    rw [List.flatMap_cons, List.length_append, ih, checked, checked]
    cases failed : report.error with
    | some error =>
      simp [FileReport.records_failed failed, failed]
      omega
    | none =>
      simp [FileReport.records_checked failed, failed, FileReport.violations]
      omega

/-! ### All accounts -/

/-- A summary, a result and the records of the text form all stand for the same reports. -/
structure Accounts (reports : List FileReport) (summary : Summary) (result : ScanResult) (records : List Record) :
    Prop where
  sameSummary : result.summary = summary
  total : summary.files + summary.errors = reports.length
  failed : summary.errors = reports.countP (·.error.isSome)
  violations : summary.violations = result.methods.length + result.lines.length
  methods : result.methods = (checked reports).flatMap (·.methods)
  lines : result.lines = (checked reports).flatMap (·.lines)
  errors : result.errors = reports.filterMap (·.error)
  /-- The records of each kind come in the order of the result. -/
  methodRecords : records.filterMap Record.method? = result.methods
  lineRecords : records.filterMap Record.line? = result.lines
  failureRecords : records.filterMap Record.failure? = result.errors
  length : records.length = result.methods.length + result.lines.length + reports.countP (·.error.isSome)
  /-- They are what is written, report by report. -/
  written : reports.flatMap FileReport.writes = records.map Record.text

theorem accounts_collect (scannedPath check : Text) (reports : List FileReport) :
    Accounts reports (tally reports) (collect scannedPath check reports) (reports.flatMap FileReport.records) where
  sameSummary := summary_collect scannedPath check reports
  total := by
    rw [tally_eq, ← length_checked_add reports]
    exact (Int.natCast_add _ _).symm
  failed := by rw [tally_eq]
  violations := by
    rw [tally_eq, collect_eq, sum_violations]
    exact Int.natCast_add _ _
  methods := by rw [collect_eq]
  lines := by rw [collect_eq]
  errors := by rw [collect_eq]
  methodRecords := by rw [collect_eq, method?_records]
  lineRecords := by rw [collect_eq, line?_records]
  failureRecords := by rw [collect_eq, failure?_records]
  length := by rw [length_records, sum_violations, collect_eq]
  written := writes_eq_records reports

end QualityGate
