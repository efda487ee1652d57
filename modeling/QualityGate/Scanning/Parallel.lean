import QualityGate.Scanning.Scan

/-!
A scan with several workers. A walker goes through the steps of the walk; for each file it puts a slot into a bounded
queue and hands the file to a worker as soon as one is free. The workers fill the slots in any order. The output takes
the slots from the queue in their order, waits for each to be filled, and hands the report over. When a report is
refused, the walker and the workers are told to stop, and the output drains the queue. A worker that waits at a pipe
never fills its slot, and cannot be told to stop.

`ParallelScan.State` is one moment of this system and `ParallelScan.State.act?` says what each part can do next; any
part may go first. `ParallelScan.State.advance?` is the fixed order in which the scan is run.
-/

namespace QualityGate

namespace ParallelScan

inductive Walker where
  | walking (rest : List WalkStep)
  /-- A slot for this file goes into the queue when there is room. -/
  | queueing (task : ScanTask) (rest : List WalkStep)
  /-- The slot is in the queue, and the file waits for a free worker. -/
  | starting (slot : Nat) (task : ScanTask) (rest : List WalkStep)
  | ended (failure : Option ScanFailure)
  deriving DecidableEq, Repr

inductive Work where
  | task (task : ScanTask)
  | waiting (task : ScanTask)
  | report (report : FileReport)
  deriving DecidableEq, Repr

inductive Output where
  | queue
  | slot (slot : Nat)
  | ended
  deriving DecidableEq, Repr

structure State (σ : Type) where
  progress : ScanProgress σ
  walker : Walker
  nextSlot : Nat := 0
  queue : List Nat := []
  working : List (Nat × Work) := []
  filled : List (Nat × FileReport) := []
  output : Output := .queue
  refusal : Option ScanFailure := none

inductive Action where
  /-- The walker goes on. -/
  | walk
  /-- The walker gives up a file because the scan is cancelled. -/
  | giveUp
  /-- The worker for a slot opens its file and checks it. -/
  | check (slot : Nat)
  /-- The worker for a slot fills it and is free again. -/
  | fill (slot : Nat)
  /-- The output goes on. -/
  | emit
  /-- The scan is cancelled from outside. -/
  | cancel
  deriving DecidableEq, Repr

namespace State

variable {σ : Type}

def stopped (state : State σ) : Bool := state.progress.cancelled || state.refusal.isSome

def capacity (scan : Scan) : Nat := scan.workers * 4

/-- The walker's next move: it can wait for room in the queue or for a free worker. -/
def walk? (scan : Scan) (state : State σ) : Option (State σ) :=
  match state.walker with
  | .walking [] => some { state with walker := .ended none }
  | .walking (step :: rest) =>
    if state.stopped then some { state with walker := .ended (some .cancelled) }
    else
      match step with
      | .pass => some { state with walker := .walking rest }
      | .skip path =>
        some { state with walker := .walking rest, progress := state.progress.logging (Scan.excludedEntry path) }
      | .visit task => some { state with walker := .queueing task rest }
      | .fail path fault => some { state with walker := .ended (some (.unlisted path fault)) }
  | .queueing task rest =>
    if state.queue.length < capacity scan then
      some { state with
        walker := .starting state.nextSlot task rest
        queue := state.queue ++ [state.nextSlot]
        nextSlot := state.nextSlot + 1 }
    else none
  | .starting slot task rest =>
    if state.working.length < scan.workers then
      some { state with walker := .walking rest, working := state.working ++ [(slot, .task task)] }
    else none
  | .ended _ => none

def giveUp? (state : State σ) : Option (State σ) :=
  match state.walker with
  | .queueing _ _ => if state.stopped then some { state with walker := .ended (some .cancelled) } else none
  | _ => none

def setWork (slot : Nat) (work : Work) (working : List (Nat × Work)) : List (Nat × Work) :=
  working.map fun item => if item.1 = slot then (slot, work) else item

def check? (scan : Scan) (state : State σ) (slot : Nat) : Option (State σ) :=
  match state.working.lookup slot with
  | some (.task task) =>
    match scan.report state.stopped task with
    | none => some { state with working := setWork slot (.waiting task) state.working }
    | some (report, entries) =>
      some { state with
        working := setWork slot (.report report) state.working
        progress := { state.progress with log := state.progress.log ++ entries } }
  | _ => none

def fill? (state : State σ) (slot : Nat) : Option (State σ) :=
  match state.working.lookup slot with
  | some (.report report) =>
    some { state with
      working := state.working.filter (·.1 ≠ slot)
      filled := state.filled ++ [(slot, report)] }
  | _ => none

/-- The output takes the next slot, or hands over the report in the slot it waits for. After a refusal reports are
dropped. It ends when the walker has ended and the queue is empty. -/
def emit? (receive : Receiver σ) (state : State σ) : Option (State σ) :=
  match state.output with
  | .ended => none
  | .queue =>
    match state.queue, state.walker with
    | slot :: rest, _ => some { state with output := .slot slot, queue := rest }
    | [], .ended _ => some { state with output := .ended }
    | [], _ => none
  | .slot slot =>
    match state.filled.lookup slot with
    | none => none
    | some report =>
      let state := { state with output := .queue, filled := state.filled.filter (·.1 ≠ slot) }
      if state.refusal.isSome then some state
      else
        let (progress, refusal) := state.progress.deliver receive report
        some { state with progress, refusal }

/-- The next moment after an action, if the action is possible. -/
def act? (scan : Scan) (receive : Receiver σ) (state : State σ) : Action → Option (State σ)
  | .walk => state.walk? scan
  | .giveUp => state.giveUp?
  | .check slot => state.check? scan slot
  | .fill slot => state.fill? slot
  | .emit => state.emit? receive
  | .cancel => some { state with progress := { state.progress with cancelled := true } }

def agenda (state : State σ) : List Action :=
  [.emit] ++ state.working.map (fun item => .fill item.1) ++ state.working.map (fun item => .check item.1) ++
    [.walk, .giveUp]

def advance? (scan : Scan) (receive : Receiver σ) (state : State σ) : Option (State σ) :=
  state.agenda.findSome? (state.act? scan receive)

def run (scan : Scan) (receive : Receiver σ) : Nat → State σ → State σ
  | 0, state => state
  | limit + 1, state =>
    match state.advance? scan receive with
    | some next => run scan receive limit next
    | none => state

def standstill? (state : State σ) : Option ScanTask :=
  match state.output with
  | .slot slot =>
    match state.working.lookup slot with
    | some (.waiting task) => some task
    | _ => none
  | _ => none

/-- How a scan ended: with the refusal if there was one, else as the walker did. One that stands still has not. -/
def failure (state : State σ) : Option ScanFailure :=
  match state.standstill?, state.refusal, state.walker with
  | some task, _, _ => some (.standstill task.path)
  | none, some failure, _ => some failure
  | none, none, .ended failure => failure
  | none, none, _ => none

def start (progress : ScanProgress σ) (steps : List WalkStep) : State σ :=
  { progress, walker := .walking steps }

end State

def actionLimit (steps : List WalkStep) : Nat := 8 * (steps.length + 1)

end ParallelScan

variable {σ : Type}

def Scan.inParallel (scan : Scan) (receive : Receiver σ) (progress : ScanProgress σ) (steps : List WalkStep) :
    ScanProgress σ × Option ScanFailure :=
  let last := (ParallelScan.State.start progress steps).run scan receive (ParallelScan.actionLimit steps)
  (last.progress, last.failure)

end QualityGate
