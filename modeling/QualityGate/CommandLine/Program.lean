import QualityGate.CommandLine.Failure
import QualityGate.CommandLine.Help
import QualityGate.Reporting.SummaryLine
import QualityGate.Scanning.Target

/-!
The program: from the arguments to what is written to the standard output and the standard error, what becomes of the
file tree, and whether it failed. Results go to the standard output; the summary, the log and notes go to the
standard error.
-/

namespace QualityGate.CommandLine

structure Outcome where
  workspace : Workspace
  output : Channel := {}
  errors : Channel := {}
  /-- The paths of the files that were written. -/
  written : List Text := []
  failure : Option Failure := none

namespace Outcome

def print (outcome : Outcome) (t : Text) : Outcome := { outcome with output := (outcome.output.write t).1 }

def note (outcome : Outcome) (t : Text) : Outcome := { outcome with errors := (outcome.errors.write t).1 }

def fail (outcome : Outcome) (failure : Failure) : Outcome := { outcome with failure := some failure }

end Outcome

structure Setup where
  level : LogLevel
  color : ColorMode
  deriving DecidableEq, Repr

def Setup.read (arguments : Arguments) : Except Failure Setup :=
  let level := Text.trim (arguments.word "log-level")
  match LogLevel.parse? level with
  | none => .error (.logLevel level)
  | some level =>
    match ColorMode.parse (arguments.word "color") with
    | .error error => .error (.setting error)
    | .ok color => .ok ⟨level, color⟩

structure ScanSettings where
  format : Format
  /-- The file that the report is written to, if it has a name. -/
  outputPath : Text
  workers : Nat
  failsOnViolation : Bool
  deriving DecidableEq, Repr

def ScanSettings.read (arguments : Arguments) : Except Failure ScanSettings :=
  match Format.parse (arguments.word "format") with
  | .error error => .error (.setting error)
  | .ok format =>
    let outputPath := Text.trim (arguments.word "output")
    if arguments.number "workers" ≤ 0 then .error .workers
    else if ¬ outputPath.isEmpty ∧ ¬ format.isExportable then .error .output
    else .ok ⟨format, outputPath, (arguments.number "workers").toNat, arguments.switch "fail-on-violation"⟩

def methodCheck (arguments : Arguments) : Except Failure Checker :=
  if arguments.number "threshold" ≤ 0 then .error .threshold
  else
    match Attribution.parse (arguments.word "attribution") with
    | .error error => .error (.attribution error)
    | .ok attribution =>
      match Registry.full.select (arguments.words "lang") with
      | .error error => .error (.unknownLanguage error)
      | .ok registry =>
        if registry.languages.isEmpty then .error .noLanguage
        else .ok (.methods
          { registry
            detector := .ofThreshold (arguments.number "threshold") attribution
            masksLiterals := arguments.switch "mask-literals"
            excluded := arguments.words "exclude-dir" })

def lineCheck (arguments : Arguments) : Except Failure Checker :=
  if arguments.number "max-length" ≤ 0 then .error .maxLength
  else .ok (.lines (.ofSettings (arguments.number "max-length") (arguments.words "exclude-dir")
    (arguments.words "exclude-file")))

/-! ### Checks -/

structure Gathered where
  output : Channel
  result : ScanResult
  deriving DecidableEq, Repr

def printing : Receiver Gathered := fun gathered report =>
  let (output, taken) := gathered.output.send report.writes
  { state := { gathered with output }, refusal := if taken then none else some Channel.brokenMessage }

def gathering : Receiver Gathered := fun gathered report =>
  { state := { gathered with result := gathered.result.append report } }

def exportedNote (format : Format) (path : Text) : Text :=
  Table.capitals format.name ++ " exported to " ++ path ++ "\n"

/-- Prints the result of a check that was kept, and writes it to a file if that is asked for. -/
def publish (outcome : Outcome) (settings : ScanSettings) (result : ScanResult) : Outcome :=
  if settings.format.isStreaming then outcome
  else
    match result.print settings.format outcome.output with
    | (output, some error) => { outcome with output }.fail (.print error)
    | (output, none) =>
      let outcome := { outcome with output }
      if settings.outputPath.isEmpty then outcome
      else
        match result.exportNamed outcome.workspace settings.outputPath settings.format.name with
        | (workspace, some error) => { outcome with workspace }.fail (.file error)
        | (workspace, none) =>
          { outcome with workspace, written := outcome.written ++ [settings.outputPath] }.note
            (exportedNote settings.format settings.outputPath)

def check (outcome : Outcome) (setup : Setup) (terminal : Bool) (settings : ScanSettings) (checker : Checker)
    (target : Text) : Outcome :=
  let receive := if settings.format.isStreaming then printing else gathering
  let start : Gathered := ⟨outcome.output, { scannedPath := target, check := checker.name }⟩
  let (progress, failure) :=
    Scan.run ⟨outcome.workspace, checker, settings.workers⟩ receive { state := start } target
  let outcome := { outcome with output := progress.state.output }.note (LogEntry.written setup.level progress.log)
  match failure with
  | some failure => outcome.fail (.scan failure)
  | none =>
    let outcome := publish outcome settings progress.state.result
    if outcome.failure.isSome then outcome
    else
      let (errors, taken) :=
        outcome.errors.write (progress.summary.line checker.name (setup.color.enabled terminal))
      let outcome := { outcome with errors }
      if ¬ taken then outcome.fail .summary
      else if settings.failsOnViolation && 0 < progress.summary.violations then outcome.fail .violationsFound
      else outcome

def checkCommand (outcome : Outcome) (setup : Setup) (terminal : Bool) (arguments : Arguments)
    (checker : Except Failure Checker) (default : Text) : Outcome :=
  match ScanSettings.read arguments with
  | .error failure => outcome.fail failure
  | .ok settings =>
    match checker with
    | .error failure => outcome.fail failure
    | .ok checker => check outcome setup terminal settings checker (arguments.plain.headD default)

/-! ### Other commands -/

def languageTable : Table where
  heading := ["ID", "Language", "Extensions"]
  alignments := [.byContent, .byContent, .byContent]
  rows := Registry.full.listing.map fun language =>
    [language.id, language.name, Text.join ", " language.extensions]
  footing := none

def testCommand (outcome : Outcome) (setup : Setup) (arguments : Arguments) : Outcome :=
  let command := if arguments.plain.isEmpty then TestRun.defaultCommand else arguments.plain
  let run := TestRun.run outcome.workspace false outcome.output command
  let outcome :=
    { outcome with output := run.channel, workspace := run.workspace }.note (LogEntry.written setup.level run.log)
  match run.failure with
  | some failure => outcome.fail (.testRun failure)
  | none =>
    if arguments.switch "fail-on-error" && run.exitCode ≠ 0 then outcome.fail (.testExit run.exitCode) else outcome

def helpCommand (outcome : Outcome) (arguments : Arguments) : Outcome :=
  match select arguments.plain with
  | .ok (command, _) => outcome.print command.helpText
  | .error _ =>
    outcome.note ("Unknown help topic [" ++ Text.join " " (arguments.plain.map Text.rawQuoted) ++ "]\n" ++
      Command.root.usage false)

/-! ### The program -/

structure Program where
  version : Text
  terminal : Bool := false
  deriving DecidableEq, Repr

namespace Program

def perform (program : Program) (outcome : Outcome) (setup : Setup) (arguments : Arguments) : Command → Outcome
  | .version => outcome.note ("codegate version " ++ program.version ++ "\n")
  | .language => { outcome with output := (outcome.output.send languageTable.writes).1 }
  | .methods =>
    checkCommand outcome setup program.terminal arguments (methodCheck arguments) "./src"
  | .lines => checkCommand outcome setup program.terminal arguments (lineCheck arguments) "."
  | .test => testCommand outcome setup arguments
  | .help => helpCommand outcome arguments
  | _ => outcome

def checkArity (command : Command) (plain : List Text) : Option Failure :=
  match command.arity, plain with
  | .none, name :: _ => some (.unknownCommand ⟨name, command.path, []⟩)
  | .atMost n, plain => if n < plain.length then some (.tooManyArguments n plain.length) else none
  | _, _ => none

def run (program : Program) (workspace : Workspace) (arguments : List Text) : Outcome :=
  let outcome : Outcome := { workspace }
  match select arguments with
  | .error error => outcome.fail (.unknownCommand error)
  | .ok (command, rest) =>
    match (Arguments.ofFlags (command.flags ++ [command.helpFlag])).read rest with
    | .error error => outcome.fail (.flag error)
    | .ok arguments =>
      if arguments.switch "help" || !command.isRunnable then outcome.print command.helpText
      else
        match checkArity command arguments.plain, Setup.read arguments with
        | some failure, _ => outcome.fail failure
        | none, .error failure => outcome.fail failure
        | none, .ok setup => program.perform outcome setup arguments command

end Program

end QualityGate.CommandLine
