import QualityGate.CommandLine.Selection
import QualityGate.Reporting.Export
import QualityGate.Scanning.Scan
import QualityGate.Language.Registry
import QualityGate.TestRun

/-!
Why a command failed.
-/

namespace QualityGate.CommandLine

inductive Failure where
  | unknownCommand (error : UnknownCommand)
  | flag (error : FlagError)
  | tooManyArguments (maximum received : Nat)
  | logLevel (value : Text)
  | setting (error : UnsupportedSetting)
  | workers
  | output
  | threshold
  | maxLength
  | attribution (error : Attribution.Unsupported)
  | unknownLanguage (error : UnknownLanguage)
  | noLanguage
  | scan (failure : ScanFailure)
  | print (error : PrintError)
  | file (error : ExportError)
  /-- The line that sums up the check was not taken. -/
  | summary
  | violationsFound
  | testRun (failure : TestFailure)
  | testExit (code : Int)
  deriving DecidableEq, Repr

def Failure.message : Failure → Text
  | unknownCommand error => error.message
  | flag error => error.message
  | tooManyArguments maximum received =>
    "accepts at most " ++ Text.ofNat maximum ++ " arg(s), received " ++ Text.ofNat received
  | logLevel value => "invalid log level: not a valid logrus Level: " ++ value.quoted
  | setting error => error.message
  | workers => "workers must be greater than 0"
  | output => "output requires json or yaml format"
  | threshold => "threshold must be greater than 0"
  | maxLength => "max-length must be greater than 0"
  | attribution error => error.message
  | unknownLanguage error => error.message
  | noLanguage => "at least one language is required"
  | scan failure => failure.message
  | print error => error.message
  | file error => error.message
  | summary => Channel.brokenMessage
  | violationsFound => "violations found"
  | testRun failure => failure.message
  | testExit code => "test command exited with code " ++ Text.ofInt code

end QualityGate.CommandLine
