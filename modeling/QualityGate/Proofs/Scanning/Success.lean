import QualityGate.Proofs.Scanning.Moments

/-!
When a cancelled scan ends without a failure. Only the walk turns a cancellation into a failure, and it looks at it
before each of its steps: a scan that is cancelled while the walk has steps left always fails, and one that is cancelled
after the last of them never does, although files that are not opened yet are then reported as cancelled. A scan of a
single file has no walk at all.
-/

namespace QualityGate

variable {σ : Type} {scan : Scan} {receive : Receiver σ}

namespace Moment

def walkEnd : Moment σ → Option (Option ScanFailure)
  | one ⟨_, .ended failure⟩ => some failure
  | one _ => none
  | several state =>
    match state.walker with
    | .ended failure => some failure
    | _ => none

/-- The walk has ended early, or it will: it is told to stop and has steps left. -/
def Doomed (moment : Moment σ) : Prop :=
  moment.progress.cancelled = true ∧ moment.left ≠ [] ∨ ∃ failure, moment.walkEnd = some (some failure)

/-- The walk has looked at the cancellation for the last time, and no report was refused. -/
def Walked : Moment σ → Prop
  | one ⟨_, .walking rest⟩ | one ⟨_, .checking _ rest⟩ => rest = []
  | one ⟨_, .waiting _⟩ => True
  | one ⟨_, .ended failure⟩ => failure = none
  | several state =>
    state.refusal = none ∧
      match state.walker with
      | .walking rest | .starting _ _ rest => rest = []
      | .queueing _ _ => False
      | .ended failure => failure = none

variable {moment last : Moment σ}

theorem Doomed.step {state next : SoloScan.State σ} (doomed : (one state).Doomed)
    (step : SoloScan.Step scan receive state next) : (one next).Doomed := by
  cases step with
  | finish _ => rcases doomed with ⟨-, left⟩ | ⟨_, ended⟩ <;> contradiction
  | stop _ _ _ | fail _ _ _ _ | refuse _ _ => exact .inr ⟨_, rfl⟩
  | wait waits _ =>
    rcases doomed with ⟨cancelled, -⟩ | ⟨_, ended⟩
    · exact absurd ((Scan.reportOf_of_report waits).1.symm.trans cancelled) Bool.false_ne_true
    · cases ended
  | pass going _ | skip going _ _ | visit going _ _ =>
    rcases doomed with ⟨cancelled, -⟩ | ⟨_, ended⟩
    · exact absurd (going.symm.trans cancelled) Bool.false_ne_true
    · cases ended
  | @check progress after task taken rest =>
    rcases doomed with ⟨cancelled, left⟩ | ⟨_, ended⟩
    · have before : progress.cancelled = true := cancelled
      refine .inl ⟨?_, left⟩
      rcases SoloScan.check_cases scan receive progress task with ⟨-, waits⟩ | ⟨report, entries, -, delivered⟩
      · cases taken.symm.trans waits
      · rw [Moment.progress, show after = _ from congrArg Prod.fst (taken.symm.trans delivered)]
        simp [ScanProgress.deliver, before]
    · cases ended
  | cancel _ stage =>
    rcases doomed with ⟨-, left⟩ | ended
    · exact .inl ⟨rfl, by cases stage <;> exact left⟩
    · exact .inr (by cases stage <;> exact ended)

theorem Doomed.moves {state next : ParallelScan.State σ} (doomed : (several state).Doomed)
    (move : ParallelScan.State.Moves scan receive state next) : (several next).Doomed := by
  obtain ⟨progress, walker, nextSlot, queue, working, filled, output, refusal⟩ := state
  -- A walk that is told to stop takes no further step.
  have going :
      ParallelScan.State.stopped ⟨progress, walker, nextSlot, queue, working, filled, output, refusal⟩ = false →
        progress.cancelled ≠ true := by
    intro going cancelled
    simp [ParallelScan.State.stopped, cancelled] at going
  cases move with
  | finish walker =>
    cases walker
    rcases doomed with ⟨-, left⟩ | ⟨_, ended⟩ <;> contradiction
  | stop _ _ | fail _ _ | giveUp _ _ => exact .inr ⟨_, rfl⟩
  | pass walker run | skip walker run | visit walker run =>
    cases walker
    rcases doomed with ⟨cancelled, -⟩ | ⟨_, ended⟩
    · exact absurd cancelled (going run)
    · cases ended
  | queue walker _ | start walker _ =>
    cases walker
    rcases doomed with alive | ⟨_, ended⟩
    · exact .inl alive
    · cases ended
  | check _ _ | wait _ _ | fill _ | take _ _ | close _ _ _ | drop _ _ _ => exact doomed
  | deliver _ _ _ =>
    rcases doomed with ⟨cancelled, left⟩ | ended
    · have before : progress.cancelled = true := cancelled
      exact .inl ⟨by simp [Moment.progress, ScanProgress.deliver, before], left⟩
    · exact .inr ended

theorem Doomed.leads (doomed : moment.Doomed) (leads : moment.Leads scan receive last) : last.Doomed := by
  refine leads.invariant (fun _ _ => Doomed.step) (fun _ _ => Doomed.moves) ?_ doomed
  rintro state (⟨-, left⟩ | ended)
  · exact .inl ⟨rfl, left⟩
  · exact .inr ended

theorem Walked.step (accepts : ∀ state report, (receive state report).refusal = none) {state next : SoloScan.State σ}
    (walked : (one state).Walked) (step : SoloScan.Step scan receive state next) : (one next).Walked := by
  cases step with
  | finish _ => rfl
  | stop _ _ _ | pass _ _ | skip _ _ _ | visit _ _ _ | fail _ _ _ _ => cases walked
  | check _ _ => exact walked
  | wait _ _ => trivial
  | @refuse progress after task reason refused rest =>
    rcases SoloScan.check_cases scan receive progress task with ⟨-, waits⟩ | ⟨report, entries, -, delivered⟩
    · cases refused.symm.trans waits
    · have failure := congrArg Prod.snd (refused.symm.trans delivered)
      simp [ScanProgress.deliver, accepts] at failure
  | cancel _ stage => cases stage <;> exact walked

theorem Walked.moves (accepts : ∀ state report, (receive state report).refusal = none)
    {state next : ParallelScan.State σ} (walked : (several state).Walked)
    (move : ParallelScan.State.Moves scan receive state next) : (several next).Walked := by
  obtain ⟨progress, walker, nextSlot, queue, working, filled, output, refusal⟩ := state
  obtain ⟨accepted, walked⟩ := walked
  cases move with
  | finish _ => exact ⟨accepted, rfl⟩
  | stop walker _ | pass walker _ | skip walker _ | visit walker _ | fail walker _ | queue walker _
  | giveUp walker _ =>
    cases walker
    cases walked
  | start walker _ =>
    cases walker
    exact ⟨accepted, walked⟩
  | check _ _ | wait _ _ | fill _ | take _ _ | close _ _ _ | drop _ _ _ => exact ⟨accepted, walked⟩
  | deliver _ _ _ => exact ⟨by simp [ScanProgress.deliver, accepts], walked⟩

theorem Walked.leads (accepts : ∀ state report, (receive state report).refusal = none) (walked : moment.Walked)
    (leads : moment.Leads scan receive last) : last.Walked :=
  leads.invariant (fun _ _ => Walked.step accepts) (fun _ _ => Walked.moves accepts) (fun _ walked => walked) walked

/-- A scan does not end before its walk. -/
theorem Reported.walkEnd {files : List ScanTask} {moment : Moment (List FileReport)}
    (reported : moment.Reported scan files) (ended : moment.HasEnded) : ∃ failure, moment.walkEnd = some failure := by
  match moment, reported with
  | one ⟨progress, stage⟩, _ =>
    obtain ⟨failure, rfl⟩ := ended
    exact ⟨failure, rfl⟩
  | several state, ⟨_, bounded⟩ =>
    obtain ⟨-, failure, walker⟩ := bounded.closed ended
    exact ⟨failure, by simp only [Moment.walkEnd, walker]⟩

theorem Doomed.failure_ne_none (doomed : moment.Doomed) {result : Option ScanFailure}
    (finished : moment.walkEnd = some result) : moment.failure ≠ none := by
  match moment with
  | one ⟨progress, .walking rest⟩ | one ⟨progress, .checking task rest⟩ | one ⟨progress, .waiting task⟩ =>
    cases finished
  | one ⟨progress, .ended failure⟩ =>
    rcases doomed with ⟨-, left⟩ | ⟨reason, ended⟩
    · exact absurd rfl left
    · cases ended
      exact Option.some_ne_none reason
  | several ⟨progress, walker, nextSlot, queue, working, filled, output, refusal⟩ =>
    cases walker with
    | walking rest | queueing task rest | starting slot task rest => cases finished
    | ended failure =>
      rcases doomed with ⟨-, left⟩ | ⟨reason, ended⟩
      · exact absurd rfl left
      · cases ended
        rw [Moment.failure, ParallelScan.State.failure]
        split
        · exact Option.some_ne_none _
        · exact Option.some_ne_none _
        next same =>
          cases same
          exact Option.some_ne_none reason
        next unended => exact absurd rfl (unended _)

theorem Walked.failure_eq_none (walked : moment.Walked) (ended : moment.HasEnded) {result : Option ScanFailure}
    (finished : moment.walkEnd = some result) : moment.failure = none := by
  match moment with
  | one ⟨progress, .walking rest⟩ | one ⟨progress, .checking task rest⟩ | one ⟨progress, .waiting task⟩ =>
    cases finished
  | one ⟨progress, .ended failure⟩ => exact walked
  | several ⟨progress, walker, nextSlot, queue, working, filled, output, refusal⟩ =>
    obtain ⟨accepted, walked⟩ := walked
    cases walker with
    | walking rest | queueing task rest | starting slot task rest => cases finished
    | ended failure =>
      obtain rfl : refusal = none := accepted
      rw [Moment.failure, ParallelScan.State.failure, ParallelScan.State.standstill?_of_ended ended]
      exact walked

end Moment

/-- A scan, of whatever target and with however many workers, comes to its end, unless it waits at a pipe for ever. One
that is cancelled while its walk has steps left ends with a failure. One that ends without a failure has delivered a
report on every file of the target, the ordinary one or one that says that the scan was cancelled. When the walk has
looked at the cancellation for the last time and the receiver refuses nothing, the scan ends without a failure,
cancelled or not. -/
theorem cancelled_scan_failure (scan : Scan) (positive : 0 < scan.workers) {receive : Receiver (List FileReport)}
    (records : receive.Records) (log : List LogEntry) (cancelled : Bool) (target : Text)
    (first moment last : Moment (List FileReport))
    (begun : scan.beginning { state := [], log, cancelled } target = .ok first)
    (before : first.Leads scan receive moment) (after : moment.Leads scan receive last) (ended : last.HasEnded) :
    (moment.progress.cancelled = true → moment.left ≠ [] → last.failure ≠ none) ∧
      ((∀ state report, (receive state report).refusal = none) → moment.Walked → last.failure = none) ∧
      ∃ files, scan.tasks target = .ok files ∧
        (last.failure = none → List.Forall₂ scan.MayReport files last.progress.state) ∧
        ∃ last, first.Leads scan receive last ∧ scan.Settles files last ∧
          scan.run receive { state := [], log, cancelled } target = (last.progress, last.failure) := by
  obtain ⟨files, tasks, reported⟩ := Scan.reported_beginning begun
  have reported := (reported.leads records before).leads records after
  obtain ⟨result, finished⟩ := reported.walkEnd ended
  refine ⟨?_, ?_, files, tasks, ?_, Scan.leads_run positive receive begun tasks⟩
  · intro told left
    have doomed : last.Doomed := Moment.Doomed.leads (.inl ⟨told, left⟩) after
    exact doomed.failure_ne_none finished
  · intro accepts walked
    exact (walked.leads accepts after).failure_eq_none ended finished
  · intro succeeded
    obtain ⟨done, -, given, all⟩ := reported.given
    rw [all ended succeeded] at given
    exact given

/-- One of two files waits for a worker when the scan is cancelled. -/
theorem cancelled_scan_failure_between_files :
    let scan : Scan := ⟨⟨.directory [("a", .file "x\n"), ("b", .file "y")], []⟩, .lines {}, 2⟩
    let receive : Receiver (List FileReport) := ParallelScan.recording fun _ => none
    ∃ first moment last : Moment (List FileReport), scan.beginning { state := [] } "." = .ok first ∧
      first.Leads scan receive moment ∧ moment.Leads scan receive last ∧ last.HasEnded ∧
      moment.progress.cancelled = true ∧ moment.left = [.visit { path := "/b", display := "./b" }] ∧
      last.failure ≠ none := by
  intro scan receive
  have steps : (scan.walkOf ".").steps =
      [.pass, .visit { path := "/a", display := "./a" }, .visit { path := "/b", display := "./b" }] := by decide +kernel
  obtain ⟨first, entry, begun, start⟩ : ∃ (first : ParallelScan.State (List FileReport)) (entry : LogEntry),
      scan.beginning { state := [] } "." = .ok (.several first) ∧
        first = .start { state := [], log := [entry] } (scan.walkOf ".").steps := ⟨_, _, rfl, rfl⟩
  rw [steps] at start
  have run : ∃ moment last, first.perform scan receive [.walk, .walk, .walk, .cancel] = some moment ∧
      moment.perform scan receive [.walk, .check 0, .walk, .fill 0, .emit, .emit, .emit] = some last ∧
      last.output = .ended ∧ moment.progress.cancelled = true ∧
      (Moment.several moment).left = [.visit { path := "/b", display := "./b" }] :=
    ⟨_, _, by rw [start]; rfl, rfl, rfl, rfl, rfl⟩
  obtain ⟨moment, last, before, after, ended, told, left⟩ := run
  have failed := cancelled_scan_failure scan (by decide) (fun _ _ => rfl) [] false "." _ (.several moment)
    (.several last) begun ⟨_, before⟩ ⟨_, after⟩ ended
  have remaining : (Moment.several moment).left ≠ [] := by simp [left]
  exact ⟨.several first, .several moment, .several last, begun, ⟨_, before⟩, ⟨_, after⟩, ended, told, left,
    failed.1 told remaining⟩

/-- A scan of one file that is cancelled before it begins does not fail, although the file is not opened. -/
theorem cancelled_file_scan_succeeds :
    let scan : Scan := ⟨⟨.directory [("a.txt", .file "four")], []⟩, .lines { maximum := 3 }, 1⟩
    let receive : Receiver (List FileReport) := ParallelScan.recording fun _ => none
    (scan.run receive { state := [], cancelled := true } "a.txt").2 = none ∧
      (scan.run receive { state := [], cancelled := true } "a.txt").1.state =
        [ScanTask.cancelledReport { path := "/a.txt", display := "a.txt" }] := by
  decide +kernel

end QualityGate
