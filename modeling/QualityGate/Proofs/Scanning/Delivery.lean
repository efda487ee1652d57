import QualityGate.Proofs.Scanning.Walk

/-!
What a scan hands over, it counts. However a scan goes, with one worker or several, cancelled, refused or to its end,
the receiver and the summary have been given the same reports (`counted_run`). When nobody cancels it, these are the
reports of the course of its target, up to the first one that is refused (`outcome_run_eq`).
-/

namespace QualityGate

variable {σ : Type}

/-- The receiver and the summary have been given the same reports. -/
def ScanProgress.Counted (receive : Receiver σ) (before after : ScanProgress σ) : Prop :=
  ∃ reports : List FileReport,
    after.state = reports.foldl (fun state report => (receive state report).state) before.state ∧
      after.summary = reports.foldl Summary.add before.summary

namespace ScanProgress.Counted

variable {receive : Receiver σ} {first second third : ScanProgress σ}

theorem same (state : second.state = first.state) (summary : second.summary = first.summary) :
    Counted receive first second := ⟨[], state, summary⟩

theorem trans (early : Counted receive first second) (late : Counted receive second third) :
    Counted receive first third := by
  obtain ⟨reports, state, summary⟩ := early
  obtain ⟨more, state', summary'⟩ := late
  exact ⟨reports ++ more, by rw [List.foldl_append, ← state, state'], by rw [List.foldl_append, ← summary, summary']⟩

theorem deliver (receive : Receiver σ) (progress : ScanProgress σ) (report : FileReport) :
    Counted receive progress (progress.deliver receive report).1 := ⟨[report], rfl, rfl⟩

theorem logging (receive : Receiver σ) (progress : ScanProgress σ) (entry : LogEntry) :
    Counted receive progress (progress.logging entry) := same rfl rfl

end ScanProgress.Counted

open ScanProgress (Counted)

/-! ### One worker -/

theorem Scan.counted_check (scan : Scan) (receive : Receiver σ) (progress : ScanProgress σ) (task : ScanTask) :
    Counted receive progress (scan.check receive progress task).1 := by
  unfold check
  split
  · exact .same rfl rfl
  next report entries _ => exact Counted.deliver receive { progress with log := progress.log ++ entries } report

theorem Scan.counted_inSequence (scan : Scan) (receive : Receiver σ) (progress : ScanProgress σ)
    (steps : List WalkStep) : Counted receive progress (scan.inSequence receive progress steps).1 := by
  induction steps generalizing progress with
  | nil => exact .same rfl rfl
  | cons step rest ih =>
    by_cases cancelled : progress.cancelled = true
    · simp only [inSequence, cancelled, if_true]
      exact .same rfl rfl
    simp only [inSequence, cancelled]
    cases step with
    | pass => exact ih progress
    | skip path => exact (Counted.logging receive progress _).trans (ih _)
    | fail path fault => exact .same rfl rfl
    | visit task =>
      have checked := scan.counted_check receive progress task
      rw [if_neg Bool.false_ne_true]
      dsimp only
      generalize scan.check receive progress task = result at checked ⊢
      obtain ⟨after, failure⟩ := result
      cases failure with
      | some failure => exact checked
      | none => exact checked.trans (ih after)

/-! ### Several workers -/

namespace ParallelScan.State

variable {scan : Scan} {receive : Receiver σ} {state next : State σ}

/-- Only a delivery changes what is counted. -/
theorem Moves.counted (move : Moves scan receive state next) : Counted receive state.progress next.progress := by
  cases move with
  | deliver => exact .deliver receive state.progress _
  | _ => exact .same rfl rfl

theorem counted_of_act {action : Action} (possible : state.act? scan receive action = some next) :
    Counted receive state.progress next.progress := by
  by_cases outside : action = .cancel
  · subst outside
    cases possible
    exact .same rfl rfl
  · exact (moves_of_act outside possible).counted

theorem counted_perform {actions : List Action} (performed : state.perform scan receive actions = some next) :
    Counted receive state.progress next.progress := by
  induction actions generalizing state with
  | nil =>
    cases performed
    exact .same rfl rfl
  | cons action rest ih =>
    obtain ⟨middle, possible, performed⟩ := Option.bind_eq_some_iff.mp performed
    exact (counted_of_act possible).trans (ih performed)

theorem counted_run (scan : Scan) (receive : Receiver σ) (limit : Nat) (state : State σ) :
    Counted receive state.progress (state.run scan receive limit).progress := by
  induction limit generalizing state with
  | zero => exact .same rfl rfl
  | succ limit ih =>
    rw [run]
    split
    next next advanced =>
      obtain ⟨action, _, possible⟩ := List.exists_of_findSome?_eq_some advanced
      exact (counted_of_act possible).trans (ih next)
    · exact .same rfl rfl

end ParallelScan.State

namespace Scan

theorem counted_directory (scan : Scan) (receive : Receiver σ) (progress : ScanProgress σ) (path given : Text) :
    Counted receive progress (scan.directory receive progress path given).1 := by
  refine (Counted.logging receive progress (scan.startedEntry path)).trans ?_
  unfold directory
  dsimp only
  split
  · exact scan.counted_inSequence receive _ _
  · exact ParallelScan.State.counted_run scan receive _ _

theorem counted_run (scan : Scan) (receive : Receiver σ) (progress : ScanProgress σ) (target : Text) :
    Counted receive progress (scan.run receive progress target).1 := by
  unfold run
  dsimp only
  split
  · exact .same rfl rfl
  split
  · exact .same rfl rfl
  · exact scan.counted_directory receive progress _ _
  · split
    · exact scan.counted_check receive progress _
    · exact .same rfl rfl

/-! ### The files of a target -/

/-- The files that a scan of a target checks, or why it does not begin. -/
def tasks (scan : Scan) (target : Text) : Except ScanFailure (List ScanTask) :=
  if Text.trim target = [] then .error .emptyPath
  else
    match scan.workspace.stat (scan.walkOf target).root with
    | .error fault => .error (.unreachable (scan.walkOf target).root fault)
    | .ok (.directory _ _) => .ok (visited (scan.walkOf target).steps)
    | .ok _ =>
      if scan.checker.accepts (scan.walkOf target).root then
        .ok [{ path := (scan.walkOf target).root, display := Text.trim target }]
      else .error (.unsupported scan.checker.name (Path.base (scan.walkOf target).root))

/-- The course of the scan of a target. The number of workers does not matter. -/
def courseOf (scan : Scan) (target : Text) : Course :=
  if Text.trim target = [] then ⟨[], some .emptyPath⟩
  else
    match scan.workspace.stat (scan.walkOf target).root with
    | .error fault => ⟨[], some (.unreachable (scan.walkOf target).root fault)⟩
    | .ok (.directory _ _) => scan.course (scan.walkOf target).steps
    | .ok _ =>
      if scan.checker.accepts (scan.walkOf target).root then
        scan.course [.visit { path := (scan.walkOf target).root, display := Text.trim target }]
      else ⟨[], some (.unsupported scan.checker.name (Path.base (scan.walkOf target).root))⟩

theorem outcome_check (scan : Scan) {receive : Receiver σ} (quiet : Quiet receive) (state : σ) (log : List LogEntry)
    (task : ScanTask) :
    Outcome.of (scan.check receive { state, log } task) = (scan.course [.visit task]).outcome receive state {} := by
  have uncancelled : ({ state, log } : ScanProgress σ).cancelled = false := rfl
  have alone := scan.outcome_inSequence quiet uncancelled [.visit task]
  rw [← alone]
  simp only [inSequence, Bool.false_eq_true, if_false]
  generalize scan.check receive { state, log } task = result
  obtain ⟨after, failure⟩ := result
  cases failure <;> rfl

/-- A scan that nobody cancels hands over the reports of its course, up to the first that is refused. -/
theorem outcome_run_eq (scan : Scan) (positive : 0 < scan.workers) {receive : Receiver σ} (quiet : Quiet receive)
    (state : σ) (log : List LogEntry) (target : Text) :
    Outcome.of (scan.run receive { state, log } target) = (scan.courseOf target).outcome receive state {} := by
  have root : Path.absolute scan.workspace.path (Text.trim target) = (scan.walkOf target).root := rfl
  unfold run courseOf
  dsimp only
  rw [root]
  by_cases blank : Text.trim target = []
  · rw [if_pos (by simpa using blank), if_pos blank]
    rfl
  rw [if_neg (by simpa using blank), if_neg blank]
  cases found : scan.workspace.stat (scan.walkOf target).root with
  | error fault => rfl
  | ok node =>
    cases node with
    | directory entries faults => exact scan.outcome_directory positive quiet rfl _ _
    | _ =>
      dsimp only
      split
      · exact scan.outcome_check quiet state log _
      · rfl

end Scan

end QualityGate
