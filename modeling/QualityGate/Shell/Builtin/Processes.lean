import QualityGate.Shell.Builtin.Basic

/-!
Commands about signals and other processes.
-/

namespace QualityGate.Shell.Builtin

open Text (byte)

/-! ### Signals -/

/-- The names of the signals that have one of their own, from zero on; the end of the shell counts as one. -/
def commonSignals : List String :=
  ["EXIT", "HUP", "INT", "QUIT", "ILL", "TRAP", "ABRT", "BUS", "FPE", "KILL", "USR1", "SEGV", "USR2", "PIPE", "ALRM", "TERM",
    "16", "CHLD", "CONT", "STOP", "TSTP", "TTIN", "TTOU", "URG", "XCPU", "XFSZ", "VTALRM", "PROF", "WINCH", "IO", "PWR",
    "SYS", "32", "33", "RTMIN"]

def signalNames : List Text :=
  commonSignals.map Text.ofString ++ ((List.range 15).map fun i => "RTMIN+" ++ Text.ofNat (i + 1)) ++
    ((List.range 14).map fun i => "RTMAX-" ++ Text.ofNat (14 - i)) ++ [Text.ofString "RTMAX"]

def capital (b : UInt8) : UInt8 := if byte 'a' ≤ b && b ≤ byte 'z' then b - 32 else b

def signal? (t : Text) : Option Nat :=
  match number? t with
  | some n => if n < signalNames.length then some n else none
  | none => signalNames.findIdx? (· = t.map capital)

def trap : Builtin := fun _ arguments => do
  let arguments ← withoutOptions arguments
  Run.setStatus 0
  match arguments with
  | [] =>
    let traps := (← get).traps
    signalNames.zipIdx.forM fun (name, signal) => do
      match traps.lookup signal with
      | some action => Run.print ("trap -- " ++ shellQuoted action ++ " " ++ name ++ "\n")
      | none => pure ()
  | first :: rest =>
    let names := if rest.isEmpty then [first] else rest
    let action := if rest.isEmpty || first = "-" then none else some first
    names.forM fun name => do
      match signal? name with
      | none => Run.setStatus 1
      | some signal => modify fun state =>
        let others := state.traps.filter (·.1 ≠ signal)
        { state with traps := (action.map fun action => [(signal, action)]).getD [] ++ others }

/-- Sends a signal to a process; the result is the status. -/
def send (signal : Nat) (process : Nat) : Run Nat := do
  let state ← get
  if state.jobs.any (·.1 = process) then
    if ¬ Run.isHarmless signal then
      modify fun state =>
        { state with jobs := state.jobs.map fun job => if job.1 = process then (process, .killed signal) else job }
    return 0
  else if process = state.process && !state.isCopy then
    Run.receive signal
    return 0
  else if process = state.process || state.parents.contains process then
    set { state with sent := (process, signal) :: state.sent }
    return 0
  else return 1

/-- The command in the background that a text after a percent sign names. -/
def jobNamed? (state : State) (t : Text) : Option Nat :=
  let jobs := state.jobs.map (·.1)
  if t.isEmpty || t = "%" || t = "+" then jobs.head?
  else if t = "-" then jobs.tail.head?
  else (number? t).bind fun n => if n = 0 then none else jobs.reverse[n - 1]?

/-- The process that an argument names: by its number, or as a command in the background. -/
def processOf (t : Text) : Run Nat := do
  if t.head? = some (byte '%') then
    match jobNamed? (← get) t.tail with
    | some process => return process
    | none => Run.fault
  else numberOrFault t

/-- What `kill` is asked to do: to send a signal, or to show names. -/
def killRequest (arguments : List Text) : Run (Option Nat × List Text) := do
  match arguments with
  | [] => Run.fault
  | first :: rest =>
    if first.head? ≠ some (byte '-') then return (some 15, arguments)
    else
      match signal? first.tail with
      | some signal => return (some signal, rest)
      | none =>
        if first = "--" then return (some 15, rest)
        else if first = "-" then return (some 15, arguments)
        else if first = "-l" then return (none, rest.dropWhile fun t => t = Text.ofString "--")
        else if first = "-s" then
          match rest with
          | [] => Run.fault
          | name :: rest =>
            match signal? name with
            | some signal => return (some signal, rest.dropWhile fun t => t = Text.ofString "--")
            | none => Run.fault
        else if Text.startsWith first "-s" then
          match signal? (first.drop 2) with
          | some signal => return (some signal, rest)
          | none => Run.fault
        else Run.fault

def kill : Builtin := fun _ arguments => do
  match ← killRequest arguments with
  | (none, []) =>
    Run.print ((Text.ofString "0" :: signalNames.tail).flatMap (· ++ "\n"))
    Run.setStatus 0
  | (none, t :: _) =>
    let n ← numberOrFault t
    let signal := if 128 < n then n - 128 else n
    if signal = 0 || signalNames.length ≤ signal then Run.fault
    Run.print ((signalNames[signal]?).getD [] ++ "\n")
    Run.setStatus 0
  | (some _, []) => Run.fault
  | (some signal, targets) =>
    let statuses ← targets.mapM fun (target : Text) => do
      if target.head? = some (byte '-') then
        let _ ← numberOrFault target.tail
        return 1
      else send signal (← processOf target)
    Run.setStatus (if statuses.all (· = 0) then 0 else 1)

/-! ### Commands in the background -/

def wait : Builtin := fun _ arguments => do
  match ← withoutOptions arguments with
  | [] => Run.setStatus 0
  | names =>
    Run.setStatus 127
    names.forM fun name => do
      let process ← processOf name
      match (← get).jobs.lookup process with
      | some ending => Run.setStatus ending.status
      | none => pure ()

/-- Shows the commands in the background; they have all ended. -/
def jobs : Builtin := fun _ arguments => do
  let (_, names) ← optionsOf "lp" [] arguments
  names.forM fun name => do let _ ← processOf name
  Run.setStatus 0

/-- Brings a command to the front, which is not possible in a script. -/
def resume : Builtin := fun _ _ => Run.fault

def times : Builtin := say fun _ _ => Text.times 2 "0m0.000000s 0m0.000000s\n"

end QualityGate.Shell.Builtin
