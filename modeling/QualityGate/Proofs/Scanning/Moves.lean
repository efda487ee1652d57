import QualityGate.Scanning.Parallel

/-!
What can happen next in a scan with several workers, one rule for each thing that the walker, a worker or the output
can do. Every action other than a cancellation from outside is one of these moves (`moves_of_act`), so an invariant of
the scan is shown once for each rule.
-/

namespace QualityGate.ParallelScan.State

variable {σ : Type} {scan : Scan} {receive : Receiver σ} {state next : State σ}

/-- One move of the walker, of a worker or of the output. -/
inductive Moves (scan : Scan) (receive : Receiver σ) (state : State σ) : State σ → Prop where
  /-- The walk is over. -/
  | finish (walker : state.walker = .walking []) : Moves scan receive state { state with walker := .ended none }
  /-- The walker was told to stop. -/
  | stop {step : WalkStep} {rest : List WalkStep} (walker : state.walker = .walking (step :: rest))
      (stopped : state.stopped = true) :
      Moves scan receive state { state with walker := .ended (some .cancelled) }
  | pass {rest : List WalkStep} (walker : state.walker = .walking (.pass :: rest)) (going : state.stopped = false) :
      Moves scan receive state { state with walker := .walking rest }
  | skip {path : Text} {rest : List WalkStep} (walker : state.walker = .walking (.skip path :: rest))
      (going : state.stopped = false) :
      Moves scan receive state
        { state with walker := .walking rest, progress := state.progress.logging (Scan.excludedEntry path) }
  | visit {task : ScanTask} {rest : List WalkStep} (walker : state.walker = .walking (.visit task :: rest))
      (going : state.stopped = false) :
      Moves scan receive state { state with walker := .queueing task rest }
  /-- The root of the walk cannot be listed. -/
  | fail {path : Text} {fault : AccessFault} {rest : List WalkStep}
      (walker : state.walker = .walking (.fail path fault :: rest)) (going : state.stopped = false) :
      Moves scan receive state { state with walker := .ended (some (.unlisted path fault)) }
  | queue {task : ScanTask} {rest : List WalkStep} (walker : state.walker = .queueing task rest)
      (room : state.queue.length < capacity scan) :
      Moves scan receive state
        { state with
          walker := .starting state.nextSlot task rest
          queue := state.queue ++ [state.nextSlot]
          nextSlot := state.nextSlot + 1 }
  | giveUp {task : ScanTask} {rest : List WalkStep} (walker : state.walker = .queueing task rest)
      (stopped : state.stopped = true) :
      Moves scan receive state { state with walker := .ended (some .cancelled) }
  | start {slot : Nat} {task : ScanTask} {rest : List WalkStep} (walker : state.walker = .starting slot task rest)
      (free : state.working.length < scan.workers) :
      Moves scan receive state
        { state with walker := .walking rest, working := state.working ++ [(slot, .task task)] }
  | check {slot : Nat} {task : ScanTask} {report : FileReport} {entries : List LogEntry}
      (held : state.working.lookup slot = some (.task task))
      (made : scan.report state.stopped task = some (report, entries)) :
      Moves scan receive state
        { state with
          working := setWork slot (.report report) state.working
          progress := { state.progress with log := state.progress.log ++ entries } }
  /-- A worker begins to open a file, and will never come back. -/
  | wait {slot : Nat} {task : ScanTask} (held : state.working.lookup slot = some (.task task))
      (waits : scan.report state.stopped task = none) :
      Moves scan receive state { state with working := setWork slot (.waiting task) state.working }
  | fill {slot : Nat} {report : FileReport} (held : state.working.lookup slot = some (.report report)) :
      Moves scan receive state
        { state with
          working := state.working.filter (·.1 ≠ slot)
          filled := state.filled ++ [(slot, report)] }
  /-- The output takes the next slot from the queue. -/
  | take {slot : Nat} {rest : List Nat} (output : state.output = .queue) (queue : state.queue = slot :: rest) :
      Moves scan receive state { state with output := .slot slot, queue := rest }
  /-- The output ends. -/
  | close {failure : Option ScanFailure} (output : state.output = .queue) (queue : state.queue = [])
      (walker : state.walker = .ended failure) :
      Moves scan receive state { state with output := .ended }
  /-- A report is dropped, because an earlier one was refused. -/
  | drop {slot : Nat} {report : FileReport} {failure : ScanFailure} (output : state.output = .slot slot)
      (ready : state.filled.lookup slot = some report) (refused : state.refusal = some failure) :
      Moves scan receive state { state with output := .queue, filled := state.filled.filter (·.1 ≠ slot) }
  | deliver {slot : Nat} {report : FileReport} (output : state.output = .slot slot)
      (ready : state.filled.lookup slot = some report) (accepted : state.refusal = none) :
      Moves scan receive state
        { state with
          output := .queue
          filled := state.filled.filter (·.1 ≠ slot)
          progress := (state.progress.deliver receive report).1
          refusal := (state.progress.deliver receive report).2 }

theorem moves_of_walk (possible : state.walk? scan = some next) : Moves scan receive state next := by
  unfold walk? at possible
  split at possible
  · rename_i walker
    cases possible
    exact .finish walker
  · rename_i step rest walker
    by_cases stopped : state.stopped = true
    · simp only [stopped, if_true, Option.some.injEq] at possible
      subst possible
      exact .stop walker stopped
    · simp only [stopped] at possible
      rw [Bool.not_eq_true] at stopped
      cases step with
      | pass => cases possible; exact .pass walker stopped
      | skip path => cases possible; exact .skip walker stopped
      | visit task => cases possible; exact .visit walker stopped
      | fail path fault => cases possible; exact .fail walker stopped
  · rename_i task rest walker
    split at possible
    · rename_i room
      cases possible
      exact .queue walker room
    · cases possible
  · rename_i slot task rest walker
    split at possible
    · rename_i free
      cases possible
      exact .start walker free
    · cases possible
  · cases possible

theorem moves_of_giveUp (possible : state.giveUp? = some next) : Moves scan receive state next := by
  unfold giveUp? at possible
  split at possible
  · rename_i task rest walker
    split at possible
    · rename_i stopped
      cases possible
      exact .giveUp walker stopped
    · cases possible
  · cases possible

theorem moves_of_check {slot : Nat} (possible : state.check? scan slot = some next) :
    Moves scan receive state next := by
  unfold check? at possible
  split at possible
  · rename_i task held
    split at possible
    · rename_i waits
      cases possible
      exact .wait held waits
    · rename_i report entries made
      cases possible
      exact .check held made
  · cases possible

theorem moves_of_fill {slot : Nat} (possible : state.fill? slot = some next) : Moves scan receive state next := by
  unfold fill? at possible
  split at possible
  · rename_i report held
    cases possible
    exact .fill held
  · cases possible

theorem moves_of_emit (possible : state.emit? receive = some next) : Moves scan receive state next := by
  unfold emit? at possible
  split at possible
  · cases possible
  · rename_i output
    split at possible
    · rename_i slot rest _ queue
      cases possible
      exact .take output queue
    · rename_i failure queue walker
      cases possible
      exact .close output queue walker
    · cases possible
  · rename_i slot output
    split at possible
    · cases possible
    · rename_i report ready
      cases refusal : state.refusal with
      | some failure =>
        simp only [refusal, Option.isSome_some, if_true, Option.some.injEq] at possible
        subst possible
        have dropped : Moves scan receive state _ := .drop output ready refusal
        rwa [refusal] at dropped
      | none =>
        simp only [refusal, Option.isSome_none, Bool.false_eq_true, if_false, Option.some.injEq] at possible
        subst possible
        exact .deliver output ready refusal

/-- Every action but a cancellation from outside is a move. -/
theorem moves_of_act {action : Action} (inside : action ≠ .cancel)
    (possible : state.act? scan receive action = some next) : Moves scan receive state next := by
  cases action with
  | walk => exact moves_of_walk possible
  | giveUp => exact moves_of_giveUp possible
  | check slot => exact moves_of_check possible
  | fill slot => exact moves_of_fill possible
  | emit => exact moves_of_emit possible
  | cancel => exact absurd rfl inside

end QualityGate.ParallelScan.State
