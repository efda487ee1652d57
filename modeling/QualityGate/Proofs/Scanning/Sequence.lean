import QualityGate.Scanning.Scan

/-!
What a scan shows, without its log: the state of the receiver, the summary, and why it ended. The steps of a walk have a
course of their own: the reports on the visited files in order, up to where the walk fails or a file is waited for
without an end. A scan that nobody cancels hands these reports over, up to the first one that is refused.
-/

namespace QualityGate

def WalkStep.task? : WalkStep → Option ScanTask
  | .visit task => some task
  | _ => none

def visited (steps : List WalkStep) : List ScanTask := steps.filterMap WalkStep.task?

@[simp] theorem visited_nil : visited [] = [] := rfl

@[simp] theorem visited_pass (rest : List WalkStep) : visited (.pass :: rest) = visited rest := rfl

@[simp] theorem visited_skip (path : Text) (rest : List WalkStep) : visited (.skip path :: rest) = visited rest := rfl

@[simp] theorem visited_fail (path : Text) (fault : AccessFault) (rest : List WalkStep) :
    visited (.fail path fault :: rest) = visited rest := rfl

namespace Scan

variable {σ : Type}

/-- What a scan shows when it has ended, or stands still. -/
structure Outcome (σ : Type) where
  state : σ
  summary : Summary
  failure : Option ScanFailure

def Outcome.of (result : ScanProgress σ × Option ScanFailure) : Outcome σ :=
  ⟨result.1.state, result.1.summary, result.2⟩

/-! ### The course of a walk -/

/-- The report on a file in a scan that is not cancelled; nothing, if the file is waited for without an end. -/
def reportOf (scan : Scan) (task : ScanTask) : Option FileReport := (scan.report false task).map (·.1)

/-- The reports that there are, and why there are no more. -/
structure Course where
  reports : List FileReport
  ending : Option ScanFailure

/-- A course that goes on after a file. -/
def Course.after (report : Option FileReport) (path : Text) (rest : Course) : Course :=
  match report with
  | none => ⟨[], some (.standstill path)⟩
  | some report => ⟨report :: rest.reports, rest.ending⟩

def course (scan : Scan) : List WalkStep → Course
  | [] => ⟨[], none⟩
  | .pass :: rest => scan.course rest
  | .skip _ :: rest => scan.course rest
  | .visit task :: rest => .after (scan.reportOf task) task.path (scan.course rest)
  | .fail path fault :: _ => ⟨[], some (.unlisted path fault)⟩

theorem course_append_congr {scan : Scan} {rest rest' : List WalkStep} (same : scan.course rest = scan.course rest')
    (steps : List WalkStep) : scan.course (steps ++ rest) = scan.course (steps ++ rest') := by
  induction steps with
  | nil => exact same
  | cons step steps ih => cases step <;> simp only [List.cons_append, course, ih]

/-- Hands reports over in order, up to the first one that is refused. -/
def handOver (receive : Receiver σ) (state : σ) (summary : Summary) (ending : Option ScanFailure) :
    List FileReport → Outcome σ
  | [] => ⟨state, summary, ending⟩
  | report :: rest =>
    let receipt := receive state report
    match receipt.refusal with
    | some reason => ⟨receipt.state, summary.add report, some (.refused reason)⟩
    | none => handOver receive receipt.state (summary.add report) ending rest

/-- What a course comes to with a receiver, from a state and a summary on. -/
def Course.outcome (course : Course) (receive : Receiver σ) (state : σ) (summary : Summary) : Outcome σ :=
  handOver receive state summary course.ending course.reports

/-- What a course comes to whose reports are all taken. -/
def Outcome.taking (receive : Receiver σ) (state : σ) (summary : Summary) (course : Course) : Outcome σ :=
  ⟨course.reports.foldl (fun state report => (receive state report).state) state,
    course.reports.foldl Summary.add summary, course.ending⟩

def Quiet (receive : Receiver σ) : Prop := ∀ state report, (receive state report).cancels = false

structure Taking (receive : Receiver σ) : Prop where
  quiet : Quiet receive
  unrefused : ∀ state report, (receive state report).refusal = none

theorem Taking.outcome_eq {receive : Receiver σ} (taking : Taking receive) (state : σ) (summary : Summary)
    (course : Course) : course.outcome receive state summary = .taking receive state summary course := by
  obtain ⟨reports, ending⟩ := course
  rw [Course.outcome]
  induction reports generalizing state summary with
  | nil => rfl
  | cons report rest ih =>
    simp only [handOver, taking.unrefused]
    exact ih _ _

theorem outcome_inSequence (scan : Scan) {receive : Receiver σ} (quiet : Quiet receive) {progress : ScanProgress σ}
    (uncancelled : progress.cancelled = false) (steps : List WalkStep) :
    Outcome.of (scan.inSequence receive progress steps) =
      (scan.course steps).outcome receive progress.state progress.summary := by
  induction steps generalizing progress with
  | nil => rfl
  | cons step rest ih =>
    simp only [inSequence, uncancelled, Bool.false_eq_true, if_false]
    cases step with
    | pass => exact ih uncancelled
    | skip path =>
      have logged : (progress.logging (excludedEntry path)).cancelled = false := uncancelled
      exact ih logged
    | fail path fault => rfl
    | visit task =>
      simp only [check, uncancelled, course, reportOf]
      cases scan.report false task with
      | none => rfl
      | some made =>
        obtain ⟨report, entries⟩ := made
        simp only [Option.map_some, Course.after, Course.outcome, handOver, ScanProgress.deliver]
        cases refusal : (receive progress.state report).refusal with
        | some reason => rfl
        | none =>
          simp only [Option.map_none]
          refine ih ?_
          simp [quiet progress.state]

/-! ### Files that are waited for -/

theorem report_true_ne_none (scan : Scan) (task : ScanTask) : scan.report true task ≠ none := by
  cases fault : task.fault with
  | none => simp [report, attempt, fault]
  | some _ => simp [report, attempt, fault]

/-- A file is waited for without an end exactly if opening it does not end. -/
theorem reportOf_eq_none_iff (scan : Scan) (task : ScanTask) :
    scan.reportOf task = none ↔ task.fault = none ∧ scan.workspace.opening task.path = .waiting := by
  cases fault : task.fault with
  | some _ => simp [reportOf, report, attempt, fault]
  | none => cases opened : scan.workspace.opening task.path <;> simp [reportOf, report, attempt, fault, opened]

theorem reportOf_of_report {scan : Scan} {cancelled : Bool} {task : ScanTask}
    (waits : scan.report cancelled task = none) : cancelled = false ∧ scan.reportOf task = none := by
  cases cancelled with
  | true => exact absurd waits (scan.report_true_ne_none task)
  | false => exact ⟨rfl, by rw [reportOf, waits, Option.map_none]⟩

end Scan

end QualityGate
