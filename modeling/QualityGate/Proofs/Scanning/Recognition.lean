import QualityGate.Proofs.Path
import QualityGate.Proofs.Scanning.Moments

/-!
Files are accepted by their absolute path and recognised, when they are checked, by their name in reports. The two end
in the same element for every file under a directory, and for a file that is the target itself when its spelling ends in
a name. A file that is spelled with a separator or dots at its end is accepted but not recognised.
-/

namespace QualityGate

/-! ### Languages -/

theorem Registry.languageFor?_congr (registry : Registry) {path other : Text}
    (same : Path.lastElement path = Path.lastElement other) :
    registry.languageFor? path = registry.languageFor? other := by
  rw [languageFor?, languageFor?, Path.extension_eq_of_lastElement_eq same]

theorem Registry.languageFor?_of_unnamed (registry : Registry) {path : Text} (unnamed : Path.Unnamed path) :
    registry.languageFor? path = none := by
  have foreign : ∀ language : Language, language.extensions.contains (Text.lower (Path.extension path)) = false := by
    rcases Path.extension_of_unnamed unnamed with none | dot
    · rw [none]
      intro language
      cases language <;> decide +kernel
    · rw [dot]
      intro language
      cases language <;> decide +kernel
  rw [languageFor?, List.find?_eq_none]
  intro language _
  simp only [foreign, Bool.false_eq_true, not_false_eq_true]

/-! ### The files of a walk -/

theorem mem_visited {task : ScanTask} {steps : List WalkStep} : task ∈ visited steps ↔ .visit task ∈ steps := by
  rw [visited, List.mem_filterMap]
  constructor
  · rintro ⟨step, member, same⟩
    cases step with
    | pass | skip _ | fail _ _ => cases same
    | visit _ =>
      cases same
      exact member
  · exact fun member => ⟨_, member, rfl⟩

namespace Walk

/-- The path of a file and its name in reports end alike, and unless the walk failed there the check accepts it. -/
structure Finds (walk : Walk) (task : ScanTask) : Prop where
  alike : Path.lastElement task.display = Path.lastElement task.path
  accepted : task.fault = none → walk.checker.accepts task.path = true

variable {walk : Walk} {task : ScanTask}

theorem mem_inOrder {step : WalkStep} {items : List (Text × List WalkStep)} :
    step ∈ inOrder items ↔ ∃ item ∈ items, step ∈ item.2 := by
  rw [inOrder, List.mem_flatMap]
  simp only [(Text.sortedByName_perm items).mem_iff]

theorem lastElement_display (walk : Walk) (relative : Text) :
    Path.lastElement (walk.display relative) = Path.lastElement (walk.absolute relative) := by
  obtain ⟨front, _, _, _, spelled⟩ := walk.exists_display_eq
  rw [spelled, walk.absolute_eq, Path.lastElement_append, Path.lastElement_append]

theorem finds_visit {relative : Text} (member : .visit task ∈ [walk.visit relative]) : walk.Finds task := by
  have here : .visit task = walk.visit relative := List.mem_singleton.mp member
  rw [visit] at here
  split at here
  next accepted =>
    cases here
    exact ⟨walk.lastElement_display relative, fun _ => accepted⟩
  · cases here

theorem finds_visitUnlisted {relative : Text} {fault : Option AccessFault}
    (member : .visit task ∈ walk.visitUnlisted relative fault) : walk.Finds task := by
  cases fault with
  | none => cases member
  | some fault =>
    cases List.mem_singleton.mp member
    exact ⟨walk.lastElement_display relative, nofun⟩

mutual

theorem finds_stepsAt (walk : Walk) (relative name : Text) (node : FileNode) {task : ScanTask}
    (member : .visit task ∈ walk.stepsAt relative name node) : walk.Finds task := by
  cases node with
  | directory entries faults =>
    rw [stepsAt] at member
    split at member
    · simp at member
    · dsimp only at member
      rcases List.mem_append.mp member with unlisted | inner
      · exact finds_visitUnlisted ((List.mem_cons.mp unlisted).resolve_left nofun)
      · obtain ⟨item, there, visits⟩ := mem_inOrder.mp inner
        exact finds_stepsIn walk relative entries (List.mem_of_mem_take there) visits
  | file _ _ =>
    rw [stepsAt] at member
    exact finds_visit member
  | link _ =>
    rw [stepsAt] at member
    split at member
    · simp at member
    · exact finds_visit member
  | pipe _ =>
    rw [stepsAt] at member
    simp at member

theorem finds_stepsIn (walk : Walk) (relative : Text) (entries : List (Text × FileNode)) {item : Text × List WalkStep}
    {task : ScanTask} (there : item ∈ walk.stepsIn relative entries) (visits : .visit task ∈ item.2) :
    walk.Finds task := by
  cases entries with
  | nil =>
    rw [stepsIn] at there
    cases there
  | cons entry rest =>
    obtain ⟨name, node⟩ := entry
    rw [stepsIn] at there
    rcases List.mem_cons.mp there with rfl | later
    · exact finds_stepsAt walk _ name node visits
    · exact finds_stepsIn walk relative rest later visits

end

theorem finds_steps (walk : Walk) {task : ScanTask} (member : task ∈ visited walk.steps) : walk.Finds task := by
  have visits := mem_visited.mp member
  rw [steps] at visits
  split at visits
  · simp at visits
  next entries faults _ =>
    split at visits
    · simp at visits
    · obtain ⟨item, there, visits⟩ := mem_inOrder.mp ((List.mem_cons.mp visits).resolve_left nofun)
      exact finds_stepsIn walk [] entries there visits
  · simp at visits

end Walk

/-! ### Reports -/

/-- The report says that the extension of the file is not supported. -/
def FileReport.IsUnsupported (report : FileReport) : Prop :=
  ∃ path extension, report.error = some ⟨path, (CheckError.unsupportedExtension extension).message⟩

theorem FileReport.not_isUnsupported {report : FileReport} {error : ScanError} {first : UInt8}
    (failed : report.error = some error) (begins : error.error.head? = some first) (other : first ≠ Text.byte 'u') :
    ¬ report.IsUnsupported := by
  rintro ⟨path, extension, unsupported⟩
  cases failed.symm.trans unsupported
  exact other (Option.some.inj (begins.symm.trans rfl))

theorem ScanTask.not_isUnsupported_cancelledReport (task : ScanTask) : ¬ task.cancelledReport.IsUnsupported :=
  FileReport.not_isUnsupported rfl rfl (by decide)

theorem Source.decode_error {source : Source} {error : CheckError} (failed : source.decode = .error error) :
    error.message.head? = some (Text.byte 'd') := by
  unfold decode at failed
  split at failed
  · cases failed
  · cases failed
    rfl
  · cases failed
    rfl
  · cases failed
    split <;> rfl

namespace Scan

theorem message_ne_unsupported (fault : AccessFault) (path : Text) :
    ∃ first, (fault.message path).head? = some first ∧ first ≠ Text.byte 'u' := by
  obtain ⟨access, fault⟩ := fault
  cases access <;> exact ⟨_, rfl, by decide⟩

def Opens (scan : Scan) (path : Text) : Prop :=
  ∃ content broken unclosed, scan.workspace.opening path = .opened content broken unclosed

/-- The report on a file says that its extension is not supported exactly when the file can be opened and is not
recognised by its name in reports. -/
theorem reportOf_unsupported_iff {scan : Scan} {check : MethodCheck} (methods : scan.checker = .methods check)
    {task : ScanTask} {report : FileReport} (given : scan.reportOf task = some report) :
    report.IsUnsupported ↔
      task.fault = none ∧ scan.Opens task.path ∧ check.registry.languageFor? task.display = none := by
  have failed : ∀ access : AccessFault, ¬ (conclude task (.error (access.message task.path))).1.IsUnsupported := by
    intro access
    obtain ⟨first, begins, other⟩ := message_ne_unsupported access task.path
    exact FileReport.not_isUnsupported rfl begins other
  cases unlisted : task.fault with
  | some fault =>
    simp only [reportOf, Scan.report, attempt, unlisted, Option.map_some, Option.some.injEq] at given
    subst given
    exact iff_of_false (failed fault) (by simp)
  | none =>
    simp only [reportOf, Scan.report, attempt, unlisted, Bool.false_eq_true, if_false] at given
    cases opened : scan.workspace.opening task.path with
    | waiting =>
      rw [opened] at given
      cases given
    | failed fault =>
      simp only [opened, Option.map_some, Option.some.injEq] at given
      subst given
      refine iff_of_false (failed ⟨.opening, fault⟩) ?_
      rintro ⟨-, ⟨_, _, _, opens⟩, -⟩
      cases opened.symm.trans opens
    | opened content broken unclosed =>
      simp only [opened, Option.map_some, Option.some.injEq, examine, methods, Checker.run, MethodCheck.run] at given
      subst given
      cases check.registry.languageFor? task.display with
      | none => exact iff_of_true ⟨_, _, rfl⟩ ⟨rfl, ⟨_, _, _, opened⟩, rfl⟩
      | some language =>
        refine iff_of_false ?_ (by simp)
        dsimp only
        cases decoded :
            Source.decode ⟨content, broken.map fun fault => AccessFault.message ⟨.reading, fault⟩ task.path⟩ with
        | error error => exact FileReport.not_isUnsupported rfl (Source.decode_error decoded) (by decide)
        | ok text =>
          cases unclosed with
          | some fault => exact failed ⟨.closing, fault⟩
          | none =>
            rintro ⟨_, _, unsupported⟩
            cases unsupported

/-- The target is a file, and its spelling does not end in a name. -/
def TargetsUnnamedFile (scan : Scan) (target : Text) : Prop :=
  (∀ entries faults, scan.workspace.stat (scan.walkOf target).root ≠ .ok (.directory entries faults)) ∧
    Path.Unnamed (Text.trim target)

/-- The files of a directory are those of its walk; a file that is a target is its only one. -/
theorem tasks_cases {scan : Scan} {target : Text} {files : List ScanTask} (tasks : scan.tasks target = .ok files) :
    (¬ scan.TargetsUnnamedFile target ∧ files = visited (scan.walkOf target).steps) ∨
      ((scan.TargetsUnnamedFile target ↔ Path.Unnamed (Text.trim target)) ∧
        scan.checker.accepts (scan.walkOf target).root = true ∧ files = [scan.soleTask target]) := by
  unfold Scan.tasks at tasks
  split at tasks
  · cases tasks
  cases found : scan.workspace.stat (scan.walkOf target).root with
  | error fault =>
    rw [found] at tasks
    cases tasks
  | ok node =>
    simp only [found] at tasks
    cases node with
    | directory entries faults =>
      cases tasks
      exact .inl ⟨fun unnamed => unnamed.1 entries faults found, rfl⟩
    | _ =>
      dsimp only at tasks
      split at tasks
      next accepted =>
        cases tasks
        have solid : ∀ entries faults,
            scan.workspace.stat (scan.walkOf target).root ≠ .ok (.directory entries faults) := by
          intro entries faults there
          cases found.symm.trans there
        exact .inr ⟨⟨And.right, fun unnamed => ⟨solid, unnamed⟩⟩, accepted, rfl⟩
      · cases tasks

/-- A file that was accepted is recognised as the same language when it is checked, unless it is a target whose spelling
does not end in its name; then it is not recognised at all. -/
theorem recognised_of_mem_tasks {scan : Scan} {check : MethodCheck} (methods : scan.checker = .methods check)
    {target : Text} {files : List ScanTask} (tasks : scan.tasks target = .ok files) {task : ScanTask}
    (member : task ∈ files) (reached : task.fault = none) :
    (check.registry.languageFor? task.path).isSome = true ∧
      (scan.TargetsUnnamedFile target → check.registry.languageFor? task.display = none) ∧
      (¬ scan.TargetsUnnamedFile target →
        check.registry.languageFor? task.display = check.registry.languageFor? task.path) := by
  have accepts : ∀ path, scan.checker.accepts path = (check.registry.languageFor? path).isSome := by
    intro path
    rw [methods]
    rfl
  rcases tasks_cases tasks with ⟨named, rfl⟩ | ⟨unnamed, accepted, rfl⟩
  -- Under a directory the two paths end alike by the way they are put together; the target itself was cleaned.
  · have finds := (scan.walkOf target).finds_steps member
    exact ⟨(accepts _).symm.trans (finds.accepted reached), fun other => absurd other named,
      fun _ => check.registry.languageFor?_congr finds.alike⟩
  · obtain rfl := List.mem_singleton.mp member
    refine ⟨(accepts _).symm.trans accepted, ?_, ?_⟩
    · intro there
      exact check.registry.languageFor?_of_unnamed (unnamed.mp there)
    · intro named
      have last := Path.lastElement_absolute (mt unnamed.mpr named) scan.workspace.path
      exact check.registry.languageFor?_congr last.symm

/-- The reports that a scan can give on its files say that an extension is not supported only when the target is a file
that can be opened and whose spelling does not end in its name. -/
theorem mayReport_unsupported_iff {scan : Scan} {check : MethodCheck} (methods : scan.checker = .methods check)
    {target : Text} {files : List ScanTask} (tasks : scan.tasks target = .ok files) {task : ScanTask}
    (member : task ∈ files) {report : FileReport} (given : scan.MayReport task report) :
    report.IsUnsupported ↔
      scan.TargetsUnnamedFile target ∧ scan.Opens (scan.walkOf target).root ∧
        report ≠ (scan.soleTask target).cancelledReport := by
  constructor
  · intro unsupported
    have uncancelled : ∀ task : ScanTask, report ≠ task.cancelledReport := by
      rintro task rfl
      exact task.not_isUnsupported_cancelledReport unsupported
    obtain ⟨reached, opens, unrecognised⟩ :=
      (reportOf_unsupported_iff methods (given.resolve_right (uncancelled task))).mp unsupported
    obtain ⟨accepted, -, same⟩ := recognised_of_mem_tasks methods tasks member reached
    have unnamed : scan.TargetsUnnamedFile target := by
      by_contra named
      rw [← same named, unrecognised] at accepted
      cases accepted
    rcases tasks_cases tasks with ⟨named, -⟩ | ⟨-, -, rfl⟩
    · exact absurd unnamed named
    · obtain rfl := List.mem_singleton.mp member
      exact ⟨unnamed, opens, uncancelled _⟩
  · rintro ⟨unnamed, opens, uncancelled⟩
    rcases tasks_cases tasks with ⟨named, -⟩ | ⟨-, -, rfl⟩
    · exact absurd unnamed named
    · obtain rfl := List.mem_singleton.mp member
      refine (reportOf_unsupported_iff methods (given.resolve_right uncancelled)).mpr ⟨rfl, opens, ?_⟩
      exact (recognised_of_mem_tasks methods tasks member rfl).2.1 unnamed

end Scan

/-- In every scan for long methods, whatever its target, its workers and its cancellations: the files that were accepted
are recognised as the same language when they are checked, and no report says that an extension is not supported, unless
the target is a file whose spelling ends in a separator or in dots. Such a file is accepted, and unless it cannot be
opened or the scan is cancelled before its report says that its extension is not supported. -/
theorem accepted_file_recognised (scan : Scan) (positive : 0 < scan.workers) {check : MethodCheck}
    (methods : scan.checker = .methods check) {receive : Receiver (List FileReport)} (records : receive.Records)
    (log : List LogEntry) (cancelled : Bool) (target : Text) (first moment : Moment (List FileReport))
    (begun : scan.beginning { state := [], log, cancelled } target = .ok first)
    (leads : first.Leads scan receive moment) :
    (∃ files, scan.tasks target = .ok files ∧
        (∃ last, first.Leads scan receive last ∧ scan.Settles files last ∧
          scan.run receive { state := [], log, cancelled } target = (last.progress, last.failure)) ∧
        ∀ task ∈ files, task.fault = none →
          (check.registry.languageFor? task.path).isSome = true ∧
            (scan.TargetsUnnamedFile target → check.registry.languageFor? task.display = none) ∧
            (¬ scan.TargetsUnnamedFile target →
              check.registry.languageFor? task.display = check.registry.languageFor? task.path)) ∧
      ∀ report ∈ moment.progress.state, report.IsUnsupported ↔
        scan.TargetsUnnamedFile target ∧ scan.Opens (scan.walkOf target).root ∧
          report ≠ (scan.soleTask target).cancelledReport := by
  obtain ⟨files, tasks, reported⟩ := Scan.reported_beginning begun
  refine ⟨⟨files, tasks, Scan.leads_run positive receive begun tasks, fun task member reached => ?_⟩,
    fun report delivered => ?_⟩
  · exact Scan.recognised_of_mem_tasks methods tasks member reached
  · obtain ⟨done, front, given, -⟩ := (reported.leads records leads).given
    obtain ⟨same, each⟩ := List.forall₂_iff_get.mp given
    obtain ⟨index, bound, rfl⟩ := List.getElem_of_mem delivered
    have member : done.get ⟨index, same ▸ bound⟩ ∈ files := front.subset (List.get_mem _ _)
    exact Scan.mayReport_unsupported_iff methods tasks member (each index _ bound)

/-- The spelling of a directory may end in a dot. -/
theorem accepted_file_recognised_behind_dot :
    let scan : Scan :=
      ⟨⟨.directory [("d", .directory [("a.GO", .file [])])], []⟩, .methods { registry := .full, detector := {} }, 1⟩
    let receive : Receiver (List FileReport) := ParallelScan.recording fun _ => none
    ∃ first moment : Moment (List FileReport), scan.beginning { state := [] } "d/." = .ok first ∧
      first.Leads scan receive moment ∧ Path.Unnamed (Text.trim "d/.") ∧ ¬ scan.TargetsUnnamedFile "d/." ∧
      moment.progress.state = [{ path := "d/./a.GO" }] ∧ ∀ report ∈ moment.progress.state, ¬ report.IsUnsupported := by
  intro scan receive
  have named : ¬ scan.TargetsUnnamedFile "d/." := fun unnamed => unnamed.1 [("a.GO", .file [])] {} rfl
  let later : ScanProgress (List FileReport) := .logging { state := [] } (scan.startedEntry (scan.walkOf "d/.").root)
  have begun : scan.beginning { state := [] } "d/." = .ok (.one ⟨later, .walking (scan.walkOf "d/.").steps⟩) := rfl
  have delivered : (scan.inSequence receive later (scan.walkOf "d/.").steps).1.state = [{ path := "d/./a.GO" }] := by
    decide +kernel
  obtain ⟨last, leads, comes⟩ := SoloScan.leads_inSequence scan receive later (scan.walkOf "d/.").steps
  have state : last.progress.state = [{ path := "d/./a.GO" }] := by
    rw [← delivered, (Scan.settles_of_comes comes).2]
  have recognised :=
    accepted_file_recognised scan (by decide) rfl (fun _ _ => rfl) [] false "d/." _ (.one last) begun leads
  refine ⟨_, .one last, begun, leads, by decide +kernel, named, state, fun report member unsupported => ?_⟩
  exact named ((recognised.2 report member).mp unsupported).1

/-- A file with a separator after its name is accepted as C# and then not recognised. -/
theorem unnamed_file_unsupported :
    let scan : Scan := ⟨⟨.directory [("a.cs", .file [])], []⟩, .methods { registry := .full, detector := {} }, 1⟩
    Registry.full.languageFor? (scan.walkOf "a.cs/").root = some .csharp ∧ Registry.full.languageFor? "a.cs/" = none ∧
      (scan.run (ParallelScan.recording fun _ => none) { state := [] } "a.cs/").1.state =
        [{ path := "a.cs/", error := some ⟨"a.cs/", "unsupported file extension: "⟩ }] := by
  decide +kernel

end QualityGate
