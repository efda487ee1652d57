import QualityGate.Logging
import QualityGate.Reporting.Channel
import QualityGate.Shell.Run
import QualityGate.Text.Blank

/-!
Running a test command. Whatever the command writes is dropped; what is told is that it runs, whether it succeeded,
and its exit code. A command that could be started is no failure of the run, however it ended.
-/

namespace QualityGate

inductive LaunchFault where
  | notFound (name : Text)
  | directory (name : Text)
  | unusable (path : Text) (fault : PathFault)
  | cancelled
  deriving DecidableEq, Repr

def LaunchFault.message : LaunchFault → Text
  | notFound name => "exec: " ++ name.quoted ++ ": executable file not found in $PATH"
  | directory name => "exec: " ++ name.quoted ++ ": " ++ PathFault.isDirectory.message
  | unusable path fault => "fork/exec " ++ path ++ ": " ++ fault.message
  | cancelled => "context canceled"

inductive TestFailure where
  | emptyCommand
  | broken
  | notStarted (name : Text) (fault : LaunchFault)
  deriving DecidableEq, Repr

def TestFailure.message : TestFailure → Text
  | emptyCommand => "test command is empty"
  | broken => Channel.brokenMessage
  | notStarted name fault => "run " ++ name ++ ": " ++ fault.message

structure TestRun where
  channel : Channel
  workspace : Workspace
  log : List LogEntry := []
  exitCode : Int := 0
  failure : Option TestFailure := none

namespace TestRun

def successMessage : Text := "Success! May the stars shine upon your fortunes."

def failureMessage : Text := "Alas! The Dark Lord is watching"

def defaultCommand : List Text := ["dotnet", "test"]

def banner (command : List Text) : Text :=
  if command = defaultCommand then "Running dotnet tests..." else "Running " ++ Text.join " " command ++ "..."

/-- The path of a program that is found by its name; nothing if there is none. A name with a separator is its path. -/
def programPath? (name : Text) : Option Text :=
  if name.contains Path.separator then some name
  else if Shell.Machine.programNames.any fun program => Text.ofString program = name then some ("/usr/bin/" ++ name)
  else none

/-- Why what a path leads to cannot be started: there is nothing, or it must not be. -/
def pathFault? (workspace : Workspace) (path : Text) : Option PathFault :=
  match workspace.find true path with
  | .error fault => some fault
  | .ok target =>
    match target.node with
    | .error fault => some fault
    | .ok _ => if Shell.Machine.executables.contains target.location then none else some .denied

/-- Starts a command and waits for its end; the result is how it ended, and the workspace afterwards. A name without a
separator is looked up before anything else. -/
def launch (workspace : Workspace) (cancelled : Bool) (name : Text) (arguments : List Text) :
    Except LaunchFault (Shell.Ending × Workspace) :=
  if name = [Path.separator] then .error (.directory name)
  else
    match programPath? name with
    | none => .error (.notFound name)
    | some path =>
      if cancelled then .error .cancelled
      else if (name :: arguments).any (·.contains 0) then .error (.unusable path .invalid)
      else
        match pathFault? (Shell.machine workspace) path with
        | some fault => .error (.unusable path fault)
        | none =>
          if ¬ Shell.Machine.takesArguments (name :: arguments) then .error (.unusable path .argumentsTooLong)
          else
            match Shell.execute workspace (name :: arguments) with
            | some result => .ok result
            | none => .error (.unusable path .denied)

def verdict (exitCode : Int) : Text :=
  (if exitCode = 0 then successMessage else failureMessage) ++ "\n" ++ Text.ofInt exitCode ++ "\n"

def run (workspace : Workspace) (cancelled : Bool) (channel : Channel) (command : List Text) : TestRun :=
  match command with
  | [] => { channel, workspace, failure := some .emptyCommand }
  | name :: arguments =>
    if (Text.trim name).isEmpty then { channel, workspace, failure := some .emptyCommand }
    else
      let (channel, taken) := channel.write (banner command ++ "\n")
      if ¬ taken then { channel, workspace, failure := some .broken }
      else
        let shown : Text × Text := ("command", Text.join " " command)
        let started : LogEntry := ⟨.debug, "test command started", [shown]⟩
        match launch workspace cancelled name arguments with
        | .error fault => { channel, workspace, log := [started], failure := some (.notStarted name fault) }
        | .ok (ending, workspace) =>
          let exitCode := ending.exitCode
          let finished : LogEntry :=
            ⟨.debug, "test command finished", [shown, ("exit_code", Text.ofInt exitCode)]⟩
          let (channel, taken) := channel.write (verdict exitCode)
          { channel, workspace, log := [started, finished], exitCode, failure := if taken then none else some .broken }

end TestRun

end QualityGate
