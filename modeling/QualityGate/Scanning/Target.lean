import QualityGate.Scanning.Parallel
import QualityGate.Text.Blank

/-!
A scan of what a path names: a directory with everything in it, or one file.
-/

namespace QualityGate.Scan

variable {σ : Type}

/-- The number of workers that a setting asks for: one unless it is positive. -/
def workersOf (setting : Int) : Nat := if 0 < setting then setting.toNat else 1

def startedEntry (scan : Scan) (path : Text) : LogEntry :=
  ⟨.debug, "scan started", [("check", scan.checker.name), ("path", path), ("workers", Text.ofNat scan.workers)]⟩

def directory (scan : Scan) (receive : Receiver σ) (progress : ScanProgress σ) (path given : Text) :
    ScanProgress σ × Option ScanFailure :=
  let steps := Walk.steps ⟨scan.workspace, scan.checker, path, given⟩
  let progress := progress.logging (scan.startedEntry path)
  if scan.workers = 1 then scan.inSequence receive progress steps else scan.inParallel receive progress steps

/-- Scans what a path names, without the white space around it. -/
def run (scan : Scan) (receive : Receiver σ) (progress : ScanProgress σ) (target : Text) :
    ScanProgress σ × Option ScanFailure :=
  let given := Text.trim target
  if given.isEmpty then (progress, some .emptyPath)
  else
    let path := Path.absolute scan.workspace.path given
    match scan.workspace.stat path with
    | .error fault => (progress, some (.unreachable path fault))
    | .ok (.directory _ _) => scan.directory receive progress path given
    | .ok _ =>
      if scan.checker.accepts path then scan.check receive progress { path, display := given }
      else (progress, some (.unsupported scan.checker.name (Path.base path)))

end QualityGate.Scan
