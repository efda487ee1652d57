import QualityGate.Logging
import QualityGate.Scanning.Walk

/-!
A scan: the files of a walk are checked one after the other, and each report is handed to a receiver as soon as it is
there. A file that cannot be checked gives a report that says so, and the scan goes on; at a pipe into which nobody
writes it stands still for ever. The receiver can end the scan by refusing a report, or cancel it, which is noticed at
the next step.
-/

namespace QualityGate

structure Receipt (σ : Type) where
  state : σ
  cancels : Bool := false
  refusal : Option Text := none

abbrev Receiver (σ : Type) := σ → FileReport → Receipt σ

inductive ScanFailure where
  | emptyPath
  | unreachable (path : Text) (fault : PathFault)
  | unsupported (check name : Text)
  | unlisted (path : Text) (fault : AccessFault)
  | cancelled
  | refused (reason : Text)
  | standstill (path : Text)
  deriving DecidableEq, Repr

def cancelledMessage : Text := "context canceled"

/-- What is said of a scan that ended early; of one that stands still nothing is ever said. -/
def ScanFailure.message : ScanFailure → Text
  | emptyPath => "scan path is empty"
  | unreachable path fault => "stat path: stat " ++ path ++ ": " ++ fault.message
  | unsupported check name => "unsupported file for " ++ check ++ " check: " ++ name
  | unlisted path fault => fault.message path
  | cancelled => cancelledMessage
  | refused reason => reason
  | standstill _ => []

structure ScanProgress (σ : Type) where
  state : σ
  summary : Summary := {}
  log : List LogEntry := []
  cancelled : Bool := false

namespace ScanProgress

variable {σ : Type}

def logging (progress : ScanProgress σ) (entry : LogEntry) : ScanProgress σ :=
  { progress with log := progress.log ++ [entry] }

def deliver (progress : ScanProgress σ) (receive : Receiver σ) (report : FileReport) :
    ScanProgress σ × Option ScanFailure :=
  let receipt := receive progress.state report
  ({ progress with
      state := receipt.state
      summary := progress.summary.add report
      cancelled := progress.cancelled || receipt.cancels },
    receipt.refusal.map .refused)

end ScanProgress

/-- A scan: what is read, by which check, and how many files at a time. -/
structure Scan where
  workspace : Workspace
  checker : Checker
  workers : Nat := 1

namespace Scan

def skippedEntry (task : ScanTask) (reason : Text) : LogEntry :=
  ⟨.warning, "file skipped", [("error", reason), ("path", task.display)]⟩

def excludedEntry (path : Text) : LogEntry := ⟨.debug, "skip excluded directory", [("path", path)]⟩

/-- What is known of a file that was opened: why it could not be checked, or the report. -/
def examine (scan : Scan) (task : ScanTask) (content : Text) (broken unclosed : Option PathFault) :
    Except Text FileReport :=
  let source : Source := ⟨content, broken.map fun fault => AccessFault.message ⟨.reading, fault⟩ task.path⟩
  match scan.checker.run task.display source, unclosed with
  | .error error, _ => .error error.message
  | .ok _, some fault => .error (AccessFault.message ⟨.closing, fault⟩ task.path)
  | .ok report, none => .ok { report with path := task.display }

/-- What becomes of a file; nothing, if opening it does not end. A directory that could not be listed keeps that reason;
after a cancellation nothing is opened. -/
def attempt (scan : Scan) (cancelled : Bool) (task : ScanTask) : Option (Except Text FileReport) :=
  match task.fault with
  | some fault => some (.error (fault.message task.path))
  | none =>
    if cancelled then some (.error cancelledMessage)
    else
      match scan.workspace.opening task.path with
      | .failed fault => some (.error (AccessFault.message ⟨.opening, fault⟩ task.path))
      | .opened content broken unclosed => some (scan.examine task content broken unclosed)
      | .waiting => none

/-- The report on what became of a file, with the log entry if it could not be checked. -/
def conclude (task : ScanTask) : Except Text FileReport → FileReport × List LogEntry
  | .ok report => (report, [])
  | .error reason =>
    ({ path := task.display, error := some ⟨task.display, reason⟩ }, [skippedEntry task reason])

/-- The report on a file; nothing, if the file is waited for without an end. -/
def report (scan : Scan) (cancelled : Bool) (task : ScanTask) : Option (FileReport × List LogEntry) :=
  (scan.attempt cancelled task).map (conclude task)

variable {σ : Type}

def check (scan : Scan) (receive : Receiver σ) (progress : ScanProgress σ) (task : ScanTask) :
    ScanProgress σ × Option ScanFailure :=
  match scan.report progress.cancelled task with
  | none => (progress, some (.standstill task.path))
  | some (report, entries) => { progress with log := progress.log ++ entries }.deliver receive report

def inSequence (scan : Scan) (receive : Receiver σ) (progress : ScanProgress σ) :
    List WalkStep → ScanProgress σ × Option ScanFailure
  | [] => (progress, none)
  | step :: rest =>
    if progress.cancelled then (progress, some .cancelled)
    else
      match step with
      | .pass => scan.inSequence receive progress rest
      | .skip path => scan.inSequence receive (progress.logging (excludedEntry path)) rest
      | .visit task =>
        match scan.check receive progress task with
        | (progress, some failure) => (progress, some failure)
        | (progress, none) => scan.inSequence receive progress rest
      | .fail path fault => (progress, some (.unlisted path fault))

end Scan

end QualityGate
