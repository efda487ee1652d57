import QualityGate.Checking.LineLength
import QualityGate.Detection.Detector

/-!
What a check says about a file, and how the reports of a scan add up.
-/

namespace QualityGate

structure ScanError where
  path : Text
  error : Text
  deriving DecidableEq, Repr

structure FileReport where
  path : Text
  methods : List MethodViolation := []
  lines : List LineViolation := []
  error : Option ScanError := none
  deriving DecidableEq, Repr

def FileReport.violations (report : FileReport) : Nat := report.methods.length + report.lines.length

structure Summary where
  files : Int := 0
  violations : Int := 0
  errors : Int := 0
  deriving DecidableEq, Repr

/-- Adds a report. A failed file is an error and nothing else. -/
def Summary.add (summary : Summary) (report : FileReport) : Summary :=
  if report.error.isSome then { summary with errors := summary.errors + 1 }
  else { summary with files := summary.files + 1, violations := summary.violations + report.violations }

structure ScanResult where
  scannedPath : Text
  check : Text
  methods : List MethodViolation := []
  lines : List LineViolation := []
  errors : List ScanError := []
  summary : Summary := {}
  deriving DecidableEq, Repr

/-- Adds a report. Of a failed file only the error is kept. -/
def ScanResult.append (result : ScanResult) (report : FileReport) : ScanResult :=
  let summary := result.summary.add report
  match report.error with
  | some error => { result with summary, errors := result.errors ++ [error] }
  | none => { result with summary, methods := result.methods ++ report.methods, lines := result.lines ++ report.lines }

end QualityGate
