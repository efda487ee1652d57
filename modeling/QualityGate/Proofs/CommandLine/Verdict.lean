import QualityGate.CommandLine.Program
import QualityGate.Proofs.Reporting.Sheet
import QualityGate.Proofs.Scanning.Delivery

/-!
The verdict of a check agrees with what it printed. The summary counts the reports that were handed over, the result
and the text form are made of the same reports, and when everything that was written was taken, the counts can be read
off the summary line and the printed sheet, and a check ends with `violationsFound` exactly if that is asked for and a
violation stands on the sheet.
-/

namespace QualityGate

/-! ### Reports of one check -/

/-- A report holds violations only of the kind that a check looks for. -/
def Checker.Finds (checker : Checker) (report : FileReport) : Prop :=
  match checker with
  | .methods _ => report.lines = []
  | .lines _ => report.methods = []

theorem Checker.finds_of_run {checker : Checker} {path : Text} {source : Source} {report : FileReport}
    (checked : checker.run path source = .ok report) : checker.Finds report := by
  rcases run_cases checked with ⟨check, violations, rfl, rfl, _⟩ | ⟨check, violations, rfl, rfl, _⟩
  · rfl
  · rfl

theorem Scan.finds_conclude {scan : Scan} {task : ScanTask} {cancelled : Bool} {result : Except Text FileReport}
    (attempted : scan.attempt cancelled task = some result) : scan.checker.Finds (conclude task result).1 := by
  have failed : ∀ reason, scan.checker.Finds (conclude task (.error reason)).1 := by
    intro reason
    cases scan.checker <;> rfl
  cases result with
  | error reason => exact failed reason
  | ok report =>
    -- Only a file that was opened and read has a report without an error.
    unfold attempt at attempted
    split at attempted
    · cases attempted
    split at attempted
    · cases attempted
    split at attempted
    · cases attempted
    next content broken unclosed _ =>
      have examined := Option.some.inj attempted
      unfold examine at examined
      dsimp only at examined
      split at examined
      · cases examined
      · cases examined
      next found checked _ =>
        obtain rfl := Except.ok.inj examined
        have finds := Checker.finds_of_run checked
        unfold Checker.Finds at finds ⊢
        split at finds <;> exact finds
    · cases attempted

theorem Scan.finds_course {scan : Scan} {steps : List WalkStep} :
    ∀ report ∈ (scan.course steps).reports, scan.checker.Finds report := by
  induction steps with
  | nil => exact List.forall_mem_nil _
  | cons step rest ih =>
    cases step with
    | pass => exact ih
    | skip path => exact ih
    | fail path fault => exact List.forall_mem_nil _
    | visit task =>
      rw [course]
      cases made : scan.reportOf task with
      | none => exact List.forall_mem_nil _
      | some report =>
        rw [reportOf, Scan.report, Option.map_map] at made
        obtain ⟨result, attempted, rfl⟩ := Option.map_eq_some_iff.mp made
        exact List.forall_mem_cons.mpr ⟨finds_conclude attempted, ih⟩

theorem Scan.finds_courseOf (scan : Scan) (target : Text) :
    ∀ report ∈ (scan.courseOf target).reports, scan.checker.Finds report := by
  unfold courseOf
  split
  · exact List.forall_mem_nil _
  split
  · exact List.forall_mem_nil _
  · exact finds_course
  · split
    · exact finds_course
    · exact List.forall_mem_nil _

theorem Scan.course_workers (scan : Scan) (workers : Nat) (steps : List WalkStep) :
    Scan.course { scan with workers } steps = scan.course steps := by
  induction steps with
  | nil => rfl
  | cons step rest ih =>
    cases step with
    | pass => exact ih
    | skip path => exact ih
    | fail path fault => rfl
    | visit task => exact congrArg (Course.after (scan.reportOf task) task.path) ih

theorem Scan.courseOf_workers (scan : Scan) (workers : Nat) (target : Text) :
    Scan.courseOf { scan with workers } target = scan.courseOf target := by
  unfold courseOf
  simp only [course_workers]
  rfl

theorem Checker.oneKind_collect (checker : Checker) (scannedPath : Text) {reports : List FileReport}
    (each : ∀ report ∈ reports, checker.Finds report) : (collect scannedPath checker.name reports).OneKind := by
  rw [collect_eq]
  cases checker with
  | methods check =>
    have other : Checker.name (.methods check) ≠ "lines" := show Text.ofString "methods" ≠ "lines" by decide
    refine ⟨fun isLines => absurd isLines other, fun _ => ?_⟩
    exact List.flatMap_eq_nil_iff.mpr fun report member => each report (List.mem_of_mem_filter member)
  | lines check =>
    refine ⟨fun _ => ?_, fun other => absurd rfl other⟩
    exact List.flatMap_eq_nil_iff.mpr fun report member => each report (List.mem_of_mem_filter member)

namespace CommandLine

/-! ### The two receivers -/

theorem quiet_printing : Scan.Quiet printing := fun _ _ => rfl

theorem taking_gathering : Scan.Taking gathering := ⟨fun _ _ => rfl, fun _ _ => rfl⟩

theorem foldl_gathering (gathered : Gathered) (reports : List FileReport) :
    reports.foldl (fun gathered report => (gathering gathered report).state) gathered =
      { gathered with result := reports.foldl ScanResult.append gathered.result } := by
  induction reports generalizing gathered with
  | nil => rfl
  | cons report rest ih => exact ih _

/-- A channel that is not broken in the end has taken what was printed for each report. -/
theorem foldl_printing {gathered : Gathered} {reports : List FileReport}
    (unbroken : (reports.foldl (fun gathered report => (printing gathered report).state) gathered).output.broken =
      false) :
    reports.foldl (fun gathered report => (printing gathered report).state) gathered =
      { gathered with output := gathered.output.extend (reports.flatMap FileReport.writes).flatten } := by
  induction reports generalizing gathered with
  | nil => simp [Channel.extend]
  | cons report rest ih =>
    rw [List.foldl_cons] at unbroken ⊢
    have later := ih unbroken
    rw [later] at unbroken ⊢
    have first : (gathered.output.send report.writes).1.broken = false := unbroken
    simp [printing, (Channel.send_of_unbroken first).2, Channel.extend]

/-- A report is refused only when the channel breaks. -/
theorem outcome_printing {course : Scan.Course} {gathered : Gathered} {summary : Summary}
    (unbroken : (course.outcome printing gathered summary).state.output.broken = false) :
    course.outcome printing gathered summary = .taking printing gathered summary course := by
  obtain ⟨reports, ending⟩ := course
  rw [Scan.Course.outcome] at unbroken ⊢
  induction reports generalizing gathered summary with
  | nil => rfl
  | cons report rest ih =>
    simp only [Scan.handOver] at unbroken ⊢
    cases refusal : (printing gathered report).refusal with
    | none =>
      simp only [refusal] at unbroken
      exact ih unbroken
    | some reason =>
      simp only [refusal] at unbroken
      have whole : (gathered.output.send report.writes).1.broken = false := unbroken
      rw [printing, (Channel.send_of_unbroken whole).2] at refusal
      cases refusal

/-! ### What a check says in the end -/

/-- Everything that a check wrote was taken. -/
structure Written (final : Outcome) : Prop where
  output : final.output.broken = false
  errors : final.errors.broken = false
  file : ∀ error, final.failure ≠ some (.file error)

/-- A check has told its result. A sheet is printed, and a reader of its format finds there what the reports add up to;
the last line on the standard error, behind other whole lines, reads as the same summary; and the verdict goes by the
violations on the sheet. -/
structure Told (start final : Outcome) (check target : Text) (format : Format) (fails : Bool)
    (reports : List FileReport) (sheet : Text) (reading : Reading) : Prop where
  printed : final.output.content = start.output.content ++ sheet
  shown : format.Shows target (reports.flatMap FileReport.records) sheet reading
  agrees : reading.Agrees format (tally reports) (reports.filterMap (·.error))
  noted : ∃ before line, final.errors.content = start.errors.content ++ Text.terminated before ++ line ∧
    Summary.read? line = some (check, tally reports)
  verdict : final.failure = if fails = true ∧ 0 < reading.violations then some .violationsFound else none

theorem exists_written (level : LogLevel) (entries : List LogEntry) :
    ∃ lines, LogEntry.written level entries = Text.terminated lines := by
  unfold LogEntry.written
  generalize entries.filter _ = kept
  induction kept with
  | nil => exact ⟨[], rfl⟩
  | cons entry rest ih =>
    obtain ⟨lines, same⟩ := ih
    obtain ⟨body, ends⟩ : ∃ body, entry.line = body ++ [Text.byte '\n'] := ⟨_, rfl⟩
    refine ⟨body :: lines, ?_⟩
    rw [List.flatMap_cons, same, ends, Text.terminated_cons, List.append_assoc, List.singleton_append]

theorem content_note (outcome : Outcome) (lines : List Text) :
    ∃ more, (outcome.note (Text.terminated lines)).errors.content =
      outcome.errors.content ++ Text.terminated more := by
  rcases outcome.errors.content_write (Text.terminated lines) with refused | taken
  · exact ⟨[], refused.trans (List.append_nil _).symm⟩
  · exact ⟨lines, taken⟩

theorem content_publish (outcome : Outcome) (settings : ScanSettings) (result : ScanResult) :
    ∃ more, (publish outcome settings result).errors.content =
      outcome.errors.content ++ Text.terminated more := by
  have same : ∃ more, outcome.errors.content = outcome.errors.content ++ Text.terminated more :=
    ⟨[], (List.append_nil _).symm⟩
  unfold publish
  split
  · exact same
  split
  · exact same
  dsimp only
  split
  · exact same
  split
  · exact same
  · have line : exportedNote settings.format settings.outputPath =
        Text.terminated [Table.capitals settings.format.name ++ " exported to " ++ settings.outputPath] := by
      rw [Text.terminated_cons, Text.terminated_nil]
      rfl
    rw [line]
    exact content_note _ _

theorem publish_text {settings : ScanSettings} (streaming : settings.format.isStreaming = true) (outcome : Outcome)
    (result : ScanResult) : publish outcome settings result = outcome := by
  rw [publish, if_pos streaming]

/-- The formats that are not written file by file are printed as a whole when the scan is over. -/
theorem publish_sheet {outcome : Outcome} {settings : ScanSettings} {result : ScanResult} (records : List Record)
    (buffered : settings.format.isStreaming = false) (fresh : outcome.failure = none)
    (unbroken : (publish outcome settings result).output.broken = false)
    (exported : ∀ error, (publish outcome settings result).failure ≠ some (.file error)) :
    (publish outcome settings result).failure = none ∧
      (publish outcome settings result).output =
        outcome.output.extend (result.sheet records settings.format) := by
  have whole : (result.print settings.format outcome.output).1.broken = false := by
    simp only [publish, buffered, Bool.false_eq_true, if_false] at unbroken
    generalize result.print settings.format outcome.output = printed at unbroken ⊢
    obtain ⟨output, error⟩ := printed
    cases error with
    | some error => exact unbroken
    | none =>
      dsimp only at unbroken
      split at unbroken
      · exact unbroken
      split at unbroken <;> exact unbroken
  simp only [publish, buffered, ScanResult.print_of_unbroken records buffered whole, Bool.false_eq_true,
    if_false] at exported ⊢
  split
  · exact ⟨fresh, rfl⟩
  next named =>
    rw [if_neg named] at exported
    split
    next failed =>
      rw [failed] at exported
      exact absurd rfl (exported _)
    · exact ⟨fresh, rfl⟩

section

variable {start : Outcome} {setup : Setup} {terminal : Bool} {settings : ScanSettings} {checker : Checker}
  {target : Text} {progress : ScanProgress Gathered} {failure : Option ScanFailure}

/-- The scan that a check makes. -/
def scanned (start : Outcome) (settings : ScanSettings) (checker : Checker) (target : Text) :
    ScanProgress Gathered × Option ScanFailure :=
  Scan.run ⟨start.workspace, checker, settings.workers⟩
    (if settings.format.isStreaming then printing else gathering)
    { state := ⟨start.output, { scannedPath := target, check := checker.name }⟩ } target

/-- What a check has written when its scan is over. -/
def logged (start : Outcome) (setup : Setup) (progress : ScanProgress Gathered) : Outcome :=
  { start with output := progress.state.output }.note (LogEntry.written setup.level progress.log)

/-- What a check has written before the summary line. -/
def published (start : Outcome) (setup : Setup) (settings : ScanSettings) (progress : ScanProgress Gathered) :
    Outcome :=
  publish (logged start setup progress) settings progress.state.result

theorem check_of_failure {failure : ScanFailure}
    (ran : scanned start settings checker target = (progress, some failure)) :
    check start setup terminal settings checker target = (logged start setup progress).fail (.scan failure) := by
  rw [scanned] at ran
  simp only [check, ran]
  rfl

/-- The standard error after the summary line, and whether the line was taken. -/
def summed (start : Outcome) (setup : Setup) (terminal : Bool) (settings : ScanSettings) (checker : Checker)
    (progress : ScanProgress Gathered) : Channel × Bool :=
  (published start setup settings progress).errors.write
    (progress.summary.line checker.name (setup.color.enabled terminal))

theorem check_of_success (ran : scanned start settings checker target = (progress, none)) :
    check start setup terminal settings checker target =
      if (published start setup settings progress).failure.isSome then published start setup settings progress
      else
        let (errors, taken) := summed start setup terminal settings checker progress
        let outcome := { published start setup settings progress with errors }
        if ¬ taken then outcome.fail .summary
        else if settings.failsOnViolation && 0 < progress.summary.violations then outcome.fail .violationsFound
        else outcome := by
  rw [scanned] at ran
  simp only [check, ran]
  rfl

theorem Written.of_success (written : Written (check start setup terminal settings checker target))
    (ran : scanned start settings checker target = (progress, none)) :
    (published start setup settings progress).output.broken = false ∧
      ∀ error, (published start setup settings progress).failure ≠ some (.file error) := by
  obtain ⟨output, _, file⟩ := written
  rw [check_of_success ran] at output file
  by_cases failed : (published start setup settings progress).failure.isSome = true
  · rw [if_pos failed] at output file
    exact ⟨output, file⟩
  · rw [if_neg failed] at output
    refine ⟨?_, fun error same => failed (by rw [same]; rfl)⟩
    dsimp only at output
    split at output
    · exact output
    split at output <;> exact output

/-- A check whose writes were taken and that has published its result ends with the summary line. -/
theorem check_of_published (written : Written (check start setup terminal settings checker target))
    (ran : scanned start settings checker target = (progress, none))
    (clean : (published start setup settings progress).failure = none) :
    (check start setup terminal settings checker target).output = (published start setup settings progress).output ∧
      (check start setup terminal settings checker target).errors.content =
        (published start setup settings progress).errors.content ++
          progress.summary.line checker.name (setup.color.enabled terminal) ∧
      (check start setup terminal settings checker target).failure =
        if settings.failsOnViolation && 0 < progress.summary.violations then some .violationsFound else none := by
  have unfailed : ¬ (published start setup settings progress).failure.isSome = true := by simp [clean]
  have unbroken := written.errors
  rw [check_of_success ran, if_neg unfailed] at unbroken ⊢
  have whole : (summed start setup terminal settings checker progress).1.broken = false := by
    dsimp only at unbroken
    split at unbroken
    · exact unbroken
    split at unbroken <;> exact unbroken
  have taken : summed start setup terminal settings checker progress = _ := (Channel.write_of_unbroken whole).2
  simp only [taken, not_true_eq_false, if_false]
  split
  · exact ⟨rfl, rfl, rfl⟩
  · exact ⟨rfl, rfl, clean⟩

theorem content_published (start : Outcome) (setup : Setup) (settings : ScanSettings)
    (progress : ScanProgress Gathered) : ∃ before,
      (published start setup settings progress).errors.content =
        start.errors.content ++ Text.terminated before := by
  obtain ⟨lines, written⟩ := exists_written setup.level progress.log
  obtain ⟨log, first⟩ := content_note { start with output := progress.state.output } lines
  obtain ⟨more, second⟩ := content_publish (logged start setup progress) settings progress.state.result
  exact ⟨log ++ more, by rw [published, second, logged, written, first, List.append_assoc, Text.terminated_append]⟩

theorem isPrintable_name (checker : Checker) : checker.name.IsPrintable ∧ Text.byte ' ' ∉ checker.name := by
  cases checker with
  | methods => exact (show Text.IsPrintable "methods" ∧ Text.byte ' ' ∉ Text.ofString "methods" by decide)
  | lines => exact (show Text.IsPrintable "lines" ∧ Text.byte ' ' ∉ Text.ofString "lines" by decide)

/-- What the scan of a check leaves: the account of all reports of its course. -/
theorem scanned_course (positive : 0 < settings.workers)
    (unbroken : settings.format.isStreaming = true →
      (scanned start settings checker target).1.state.output.broken = false) :
    let course := Scan.courseOf ⟨start.workspace, checker, 1⟩ target
    ∃ progress, scanned start settings checker target = (progress, course.ending) ∧
      progress.summary = tally course.reports ∧
      progress.state =
        if settings.format.isStreaming then
          ⟨start.output.extend (course.reports.flatMap FileReport.writes).flatten,
            { scannedPath := target, check := checker.name }⟩
        else ⟨start.output, collect target checker.name course.reports⟩ := by
  let gathered : Gathered := ⟨start.output, { scannedPath := target, check := checker.name }⟩
  have quiet : Scan.Quiet (if settings.format.isStreaming then printing else gathering) := by
    split
    · exact quiet_printing
    · exact taking_gathering.quiet
  have ran : Scan.Outcome.of (scanned start settings checker target) = _ :=
    Scan.outcome_run_eq ⟨start.workspace, checker, settings.workers⟩ positive quiet gathered [] target
  rw [Scan.courseOf_workers ⟨start.workspace, checker, 1⟩ settings.workers target] at ran
  generalize scanned start settings checker target = result at unbroken ran ⊢
  generalize Scan.courseOf ⟨start.workspace, checker, 1⟩ target = course at ran ⊢
  obtain ⟨progress, failure⟩ := result
  cases streaming : settings.format.isStreaming with
  | true =>
    simp only [streaming, if_true] at ran unbroken ⊢
    have whole : (course.outcome printing gathered {}).state.output.broken = false := by
      rw [← ran]
      exact unbroken trivial
    rw [outcome_printing whole] at ran whole
    obtain ⟨state, summary, rfl⟩ := Scan.Outcome.mk.inj ran
    exact ⟨progress, rfl, summary, state.trans (foldl_printing whole)⟩
  | false =>
    simp only [streaming, Bool.false_eq_true, if_false] at ran ⊢
    rw [taking_gathering.outcome_eq] at ran
    obtain ⟨state, summary, rfl⟩ := Scan.Outcome.mk.inj ran
    exact ⟨progress, rfl, summary, state.trans (foldl_gathering gathered _)⟩

theorem Written.of_scanned (written : Written (check start setup terminal settings checker target))
    (streaming : settings.format.isStreaming = true) :
    (scanned start settings checker target).1.state.output.broken = false := by
  cases ran : scanned start settings checker target with
  | mk progress failure =>
    cases failure with
    | some failure =>
      have unbroken := written.output
      rwa [check_of_failure ran] at unbroken
    | none =>
      have unbroken := (written.of_success ran).1
      rwa [published, publish_text streaming] at unbroken

theorem sheet_published (fresh : start.failure = none)
    (written : Written (check start setup terminal settings checker target))
    (ran : scanned start settings checker target = (progress, none)) {reports : List FileReport}
    (state : progress.state =
      if settings.format.isStreaming then
        ⟨start.output.extend (reports.flatMap FileReport.writes).flatten,
          { scannedPath := target, check := checker.name }⟩
      else ⟨start.output, collect target checker.name reports⟩) :
    (published start setup settings progress).failure = none ∧
      (published start setup settings progress).output = start.output.extend
        ((collect target checker.name reports).sheet (reports.flatMap FileReport.records) settings.format) := by
  obtain ⟨unbroken, exported⟩ := written.of_success ran
  cases streaming : settings.format.isStreaming with
  | true =>
    have text : settings.format = .text := of_decide_eq_true streaming
    rw [published, publish_text streaming, logged, state, if_pos streaming, text, writes_eq_records]
    exact ⟨fresh, rfl⟩
  | false =>
    have result : progress.state.result = collect target checker.name reports := by
      rw [state, streaming]
      rfl
    have output : progress.state.output = start.output := by
      rw [state, streaming]
      rfl
    rw [← result, ← output]
    exact publish_sheet _ streaming fresh unbroken exported

/-- What a check has told when all of it was taken: the account of all reports, or why there are no more of them and, in
the text form, the reports that there were. -/
theorem told_check (fresh : start.failure = none) (positive : 0 < settings.workers)
    (written : Written (check start setup terminal settings checker target)) :
    let course := Scan.courseOf ⟨start.workspace, checker, 1⟩ target
    let final := check start setup terminal settings checker target
    match course.ending with
    | some failure =>
      final.failure = some (.scan failure) ∧
        final.output.content = start.output.content ++
          if settings.format.isStreaming then ((course.reports.flatMap FileReport.records).map Record.text).flatten
          else []
    | none =>
      ∃ sheet reading, Told start final checker.name target settings.format settings.failsOnViolation course.reports
        sheet reading := by
  obtain ⟨progress, ran, summary, state⟩ := scanned_course positive written.of_scanned
  have finds := Scan.finds_courseOf ⟨start.workspace, checker, 1⟩ target
  dsimp only
  generalize Scan.courseOf ⟨start.workspace, checker, 1⟩ target = course at ran summary state finds ⊢
  obtain ⟨reports, ending⟩ := course
  cases ending with
  | some failure =>
    rw [check_of_failure ran]
    refine ⟨rfl, ?_⟩
    show progress.state.output.content = _
    rw [state, ← writes_eq_records]
    split
    · rfl
    · exact (List.append_nil _).symm
  | none =>
    have accounts := accounts_collect target checker.name reports
    obtain ⟨reading, shown, agrees⟩ :=
      accounts.exists_reading (checker.oneKind_collect target finds) settings.format
    obtain ⟨clean, printed⟩ := sheet_published fresh written ran state
    obtain ⟨output, noted, failed⟩ := check_of_published written ran clean
    obtain ⟨before, content⟩ := content_published start setup settings progress
    obtain ⟨printable, word⟩ := isPrintable_name checker
    rw [accounts.errors] at agrees
    have path : (collect target checker.name reports).scannedPath = target := by rw [collect_eq]
    rw [path] at shown
    refine ⟨_, reading, ?_, shown, agrees,
      ⟨before, progress.summary.line checker.name (setup.color.enabled terminal), ?_, ?_⟩, ?_⟩
    · rw [output, printed]
      rfl
    · rw [noted, content]
    · rw [summary]
      exact Summary.read?_line _ printable word _
    · rw [failed, summary, agrees.violations]
      simp

end

/-! ### All accounts -/

theorem accounts_of_gathering {scan : Scan} {output : Channel} {scannedPath check : Text} {log : List LogEntry}
    {cancelled : Bool} {target : Text} {after : ScanProgress Gathered} {failure : Option ScanFailure}
    (ran : scan.run gathering { state := ⟨output, { scannedPath, check }⟩, log, cancelled } target =
      (after, failure)) :
    ∃ reports, Accounts reports after.summary after.state.result (reports.flatMap FileReport.records) := by
  obtain ⟨reports, state, summary⟩ :=
    scan.counted_run gathering { state := ⟨output, { scannedPath, check }⟩, log, cancelled } target
  rw [ran, foldl_gathering] at state
  rw [ran] at summary
  refine ⟨reports, ?_⟩
  rw [state, summary]
  exact accounts_collect scannedPath check reports

theorem records_of_printing {scan : Scan} {gathered : Gathered} {log : List LogEntry} {cancelled : Bool}
    {target : Text} {after : ScanProgress Gathered} {failure : Option ScanFailure}
    (ran : scan.run printing { state := gathered, log, cancelled } target = (after, failure))
    (unbroken : after.state.output.broken = false) :
    ∃ reports, after.summary = tally reports ∧
      after.state.output =
        gathered.output.extend ((reports.flatMap FileReport.records).map Record.text).flatten := by
  obtain ⟨reports, state, summary⟩ := scan.counted_run printing { state := gathered, log, cancelled } target
  rw [ran] at state summary
  dsimp only at state summary
  rw [state] at unbroken
  rw [state, foldl_printing unbroken]
  exact ⟨reports, summary, by rw [writes_eq_records]⟩

/-- The accounts of any reports agree. A scan counts what it hands over, however it goes and ends, and what is gathered
or printed is made of the reports that are counted. A check whose writes were all taken has told what it counted,
whatever the format and the number of workers. -/
theorem accounts_agree :
    (∀ (scannedPath check : Text) (reports : List FileReport),
      Accounts reports (tally reports) (collect scannedPath check reports) (reports.flatMap FileReport.records)) ∧
    (∀ (σ : Type) (scan : Scan) (receive : Receiver σ) (before : ScanProgress σ) (target : Text),
      ScanProgress.Counted receive before (scan.run receive before target).1) ∧
    (∀ (σ : Type) (scan : Scan) (receive : Receiver σ) (before : ScanProgress σ) (steps : List WalkStep)
      (actions : List ParallelScan.Action) (last : ParallelScan.State σ),
      (ParallelScan.State.start before steps).perform scan receive actions = some last →
        ScanProgress.Counted receive before last.progress) ∧
    (∀ (scan : Scan) (output : Channel) (scannedPath check : Text) (log : List LogEntry) (cancelled : Bool)
      (target : Text) (after : ScanProgress Gathered) (failure : Option ScanFailure),
      scan.run gathering { state := ⟨output, { scannedPath, check }⟩, log, cancelled } target = (after, failure) →
        ∃ reports, Accounts reports after.summary after.state.result (reports.flatMap FileReport.records)) ∧
    (∀ (scan : Scan) (gathered : Gathered) (log : List LogEntry) (cancelled : Bool) (target : Text)
      (after : ScanProgress Gathered) (failure : Option ScanFailure),
      scan.run printing { state := gathered, log, cancelled } target = (after, failure) →
        after.state.output.broken = false →
        ∃ reports, after.summary = tally reports ∧
          after.state.output =
            gathered.output.extend ((reports.flatMap FileReport.records).map Record.text).flatten) ∧
    (∀ (start : Outcome) (setup : Setup) (terminal : Bool) (settings : ScanSettings) (checker : Checker)
      (target : Text),
      start.failure = none → 0 < settings.workers → Written (check start setup terminal settings checker target) →
        let course := Scan.courseOf ⟨start.workspace, checker, 1⟩ target
        let final := check start setup terminal settings checker target
        match course.ending with
        | some failure =>
          final.failure = some (.scan failure) ∧
            final.output.content = start.output.content ++
              if settings.format.isStreaming then ((course.reports.flatMap FileReport.records).map Record.text).flatten
              else []
        | none =>
          ∃ sheet reading, Told start final checker.name target settings.format settings.failsOnViolation
            course.reports sheet reading) := by
  refine ⟨accounts_collect, fun σ scan receive => scan.counted_run receive, ?_, ?_, ?_, ?_⟩
  · intro σ scan receive before steps actions last performed
    exact ParallelScan.State.counted_perform performed
  · intro scan output scannedPath check log cancelled target after failure ran
    exact accounts_of_gathering ran
  · intro scan gathered log cancelled target after failure ran unbroken
    exact records_of_printing ran unbroken
  · intro start setup terminal settings checker target fresh positive written
    exact told_check fresh positive written

/-- A tree with a file that has a long line, and a link that leads nowhere. -/
def longLineTree : Workspace :=
  ⟨.directory [("w", .directory [("a.txt", .file "four"), ("b.txt", .link "nowhere")])], []⟩

def longLineCheck : Outcome :=
  check { workspace := longLineTree } ⟨.info, .never⟩ false ⟨.json, [], 2, true⟩ (.lines { maximum := 3 }) "/w"

theorem accounts_agree_long_line :
    Written longLineCheck ∧ longLineCheck.failure = some .violationsFound ∧
      (∃ before line, longLineCheck.errors.content = Text.terminated before ++ line ∧
        Summary.read? line = some (Text.ofString "lines", { files := 1, violations := 1, errors := 1 })) ∧
      Format.Shows .json "/w" [] longLineCheck.output.content ⟨1, 1, [1, 1, 1]⟩ := by
  have failed : longLineCheck.failure = some .violationsFound := by decide +kernel
  have written : Written longLineCheck := ⟨by decide +kernel, by decide +kernel, by rw [failed]; nofun⟩
  have ending : (Scan.courseOf ⟨longLineTree, .lines { maximum := 3 }, 1⟩ "/w").ending = none := by decide +kernel
  have counts : tally (Scan.courseOf ⟨longLineTree, .lines { maximum := 3 }, 1⟩ "/w").reports =
      { files := 1, violations := 1, errors := 1 } := by decide +kernel
  have heights : (((Scan.courseOf ⟨longLineTree, .lines { maximum := 3 }, 1⟩ "/w").reports.filterMap (·.error)).map
      (Format.height .json)).sum = 1 := by decide +kernel
  obtain ⟨_, _, _, _, _, tells⟩ := accounts_agree
  have told := tells { workspace := longLineTree } ⟨.info, .never⟩ false ⟨.json, [], 2, true⟩
    (.lines { maximum := 3 }) "/w" rfl (by decide) written
  simp only [ending] at told
  obtain ⟨sheet, ⟨violations, errors, totals⟩, printed, shown, agrees, noted, _⟩ := told
  rw [counts] at agrees noted
  obtain ⟨before, line, content, read⟩ := noted
  refine ⟨written, failed, ⟨before, line, content, read⟩, ?_⟩
  obtain rfl : violations = 1 := Int.ofNat_inj.mp agrees.violations.symm
  obtain rfl : errors = 1 := agrees.errors.trans heights
  obtain rfl : totals = [1, 1, 1] := agrees.totals
  rw [longLineCheck, printed]
  exact shown

end CommandLine

end QualityGate
