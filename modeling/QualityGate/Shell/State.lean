import QualityGate.Shell.Machine
import QualityGate.Shell.Script

/-!
A shell between two commands, and the steps it takes. Text that one command writes and another one reads goes through
pipes; what is written nowhere else is dropped.
-/

namespace QualityGate.Shell

open Text (byte)

inductive Ending where
  | exited (status : Nat)
  | killed (signal : Nat)
  deriving DecidableEq, Repr

/-- The exit code of an ended process; a killed one has none. -/
def Ending.exitCode : Ending → Int
  | exited status => status
  | killed _ => -1

def Ending.status : Ending → Nat
  | exited status => status
  | killed signal => 128 + signal

structure Binding where
  value : Option Text := none
  exported : Bool := false
  readOnly : Bool := false
  deriving DecidableEq, Repr

structure Pipe where
  front : Text := []
  back : List Text := []
  /-- How often something was written. -/
  writes : Nat := 0
  deriving DecidableEq, Repr

def Pipe.bound : Nat := 200000

def Pipe.content (pipe : Pipe) : Text := if pipe.back.isEmpty then pipe.front else pipe.front ++ pipe.back.reverse.flatten

inductive Stream where
  | reads (pipe : Nat)
  | writes (pipe : Nat)
  | appends (location : List Text)
  | dropped
  | refused
  deriving DecidableEq, Repr

structure State where
  workspace : Workspace
  /-- The path of the working directory as the shell names it. -/
  directory : Text
  process : Nat
  /-- The processes that this one was started by, directly or not. -/
  parents : List Nat := []
  /-- This is not the process itself but a copy of it, made for some commands. -/
  isCopy : Bool := false
  name : Text := "sh"
  arguments : List Text := []
  bindings : List (Text × Binding) := []
  functions : List (Text × Command) := []
  aliases : List (Text × Text) := []
  status : Nat := 0
  /-- The text that is on its way, by the numbers of its pipes. -/
  pipes : List (Nat × Pipe) := [(0, {})]
  /-- The number of the next pipe. -/
  nextPipe : Nat := 1
  /-- The streams that are open. -/
  streams : List (Nat × Stream) := [(0, .reads 0), (1, .dropped), (2, .dropped)]
  /-- The letters of the options that are on. -/
  letters : Text := []
  /-- The status is being looked at, so that a failing command does not end the shell. -/
  tested : Bool := false
  /-- The number of loops around. -/
  loops : Nat := 0
  /-- The number of functions around. -/
  calls : Nat := 0
  /-- What the variables were that a function has for itself. -/
  hidden : List (Text × Option Binding) := []
  /-- The options to go back to after a function. -/
  hiddenLetters : Option Text := none
  /-- What is run on a signal; signal zero is the end of the shell. -/
  traps : List (Nat × Text) := []
  /-- The signals that were caught and not yet handled, the latest first. -/
  caught : List Nat := []
  /-- The signals that other processes have yet to get, the latest first. -/
  sent : List (Nat × Nat) := []
  /-- The status to go back to after what is run on a signal. -/
  statusBefore : Option Nat := none
  /-- How the commands in the background end, the latest first. -/
  jobs : List (Nat × Ending) := []
  /-- The command in the background that was started last. -/
  lastJob : Option Nat := none
  /-- The status of the last command whose output was captured for a word of the command being run. -/
  substituted : Nat := 0
  /-- Something was written to a stream that did not take it. -/
  lost : Bool := false
  /-- The number of the argument that `getopts` looks at next. -/
  optionIndex : Nat := 1
  /-- How much of the argument before that has been looked at. -/
  optionOffset : Option Nat := none
  /-- How long programs have slept, in millionths of a second. -/
  slept : Nat := 0
  /-- The permissions that new files do not get. -/
  mask : Nat := 18
  /-- The files that can be run. -/
  executables : List (List Text) := Machine.executables

inductive Jump where
  | exit (ending : Ending)
  /-- Something is wrong, which ends the shell if nothing holds it up. -/
  | fault
  | leaveLoops (levels : Nat)
  | nextRound (levels : Nat)
  | leaveFunction

abbrev Run := EStateM Jump State

def faultStatus : Nat := 2

namespace State

def binding? (state : State) (name : Text) : Option Binding := state.bindings.lookup name

def bind (state : State) (name : Text) (binding : Binding) : State :=
  { state with bindings := (name, binding) :: state.bindings.filter fun entry => entry.1 ≠ name }

def rebind (state : State) (name : Text) : Option Binding → State
  | some binding => state.bind name binding
  | none => { state with bindings := state.bindings.filter (·.1 ≠ name) }

def valueOf (state : State) (name : Text) : Text := ((state.binding? name).bind (·.value)).getD []

def separators (state : State) : Text := ((state.binding? "IFS").bind (·.value)).getD " \t\n"

def has (state : State) (letter : Char) : Bool := state.letters.contains (byte letter)

def stopsOnFailure (state : State) : Bool := state.has 'e'

def refusesUnset (state : State) : Bool := state.has 'u'

def keepsWildcards (state : State) : Bool := state.has 'f'

def isIdle (state : State) : Bool := state.has 'n'

def source? (state : State) (stream : Nat) : Option Nat :=
  match state.streams.lookup stream with
  | some (.reads pipe) => some pipe
  | _ => none

def takes (state : State) (stream : Nat) : Bool :=
  match state.streams.lookup stream with
  | none | some (.reads _) | some .refused => false
  | _ => true

def inputOf (state : State) (stream : Nat) : Text :=
  (((state.source? stream).bind fun pipe => state.pipes.lookup pipe).map Pipe.content).getD []

def setInput (state : State) (stream : Nat) (t : Text) : State :=
  match state.source? stream with
  | none => state
  | some pipe =>
    { state with pipes := state.pipes.map fun entry => if entry.1 = pipe then (pipe, { front := t }) else entry }

def withStream (state : State) (stream : Nat) (target : Stream) : State :=
  { state with streams := (stream, target) :: state.streams.filter (·.1 ≠ stream) }

/-- Adds a pipe with some text in it; its number is `nextPipe` before. -/
def withPipe (state : State) (t : Text) : State :=
  { state with pipes := (state.nextPipe, { front := t }) :: state.pipes, nextPipe := state.nextPipe + 1 }

def withoutPipe (state : State) (pipe : Nat) : State := { state with pipes := state.pipes.filter (·.1 ≠ pipe) }

/-- A copy of the shell, which runs some commands by itself: it starts out without traps, but for the signals that are not
heeded, and without commands in the background. -/
def copy (state : State) : State :=
  { state with isCopy := true, traps := state.traps.filter (·.2.isEmpty), jobs := [] }

def allLetters : Text := "pubaCEVvxsnmiIfe"

def parameter? (state : State) (name : Text) : Option Text :=
  if name = "$" then some (Text.ofNat state.process)
  else if name = "?" then some (Text.ofNat state.status)
  else if name = "#" then some (Text.ofNat state.arguments.length)
  else if name = "-" then some (allLetters.filter (state.letters.contains ·))
  else if name = "!" then state.lastJob.map Text.ofNat
  else if name = "@" || name = "*" then some (Text.join (state.separators.take 1) state.arguments)
  else if name.all isDigit then
    let n := name.foldl (fun n b => n * 10 + (b.toNat - 48)) 0
    if n = 0 then some state.name else state.arguments[n - 1]?
  else (state.binding? name).bind (·.value)

end State

namespace Run

def fault {α : Type} : Run α := do
  modify fun state => { state with status := faultStatus }
  throw .fault

def setStatus (status : Nat) : Run Unit := modify fun state => { state with status }

def appendTo (location : List Text) (t : Text) : Run Unit := modify fun state =>
  match state.workspace.root.at? location with
  | some (.file content faults) =>
    { state with workspace := state.workspace.put location (.file (content ++ t) faults) }
  | _ => state

/-- Writes into a pipe. One that is full ends the shell. -/
def send (pipe : Nat) (t : Text) : Run Unit := do
  let state ← get
  if (state.pipes.lookup pipe).any (Pipe.bound ≤ ·.writes) then throw (.exit (.killed 13))
  let pipes := state.pipes.map fun (entry : Nat × Pipe) =>
    if entry.1 = pipe then (pipe, { entry.2 with back := t :: entry.2.back, writes := entry.2.writes + 1 }) else entry
  set { state with pipes }

def write (stream : Nat) (t : Text) : Run Unit := do
  let state ← get
  match state.streams.lookup stream with
  | some (.writes pipe) => send pipe t
  | some (.appends location) => appendTo location t
  | _ => if ¬ t.isEmpty && !state.takes stream then set { state with lost := true }

def print (t : Text) : Run Unit := write 1 t

def takeInput : Run Text := do
  let state ← get
  set (state.setInput 0 [])
  return state.inputOf 0

/-- Runs a step with a part of the state changed, which is set back afterwards, however the step ends. -/
def within {α : Type} (change restore : State → State) (step : Run α) : Run α := fun state =>
  match step (change state) with
  | .ok a after => .ok a (restore after)
  | .error jump after => .error jump (restore after)

def heldUp (step : Run Unit) : Run Unit := fun state =>
  match step state with
  | .error .fault after => .ok () { after with status := faultStatus }
  | result => result

/-- The signals that do not end a process: none, and those that are not heeded. -/
def isHarmless (signal : Nat) : Bool := [0, 17, 18, 23, 28].contains signal

/-- Takes a signal: it is caught, or it ends the shell. -/
def receive (signal : Nat) : Run Unit := do
  let action := (← get).traps.lookup signal
  if signal = 9 then throw (.exit (.killed signal))
  else if action.isNone then if ¬ isHarmless signal then throw (.exit (.killed signal))
  else if ¬ action = some [] && signal ≠ 0 then modify fun state => { state with caught := signal :: state.caught }

def receiveAll : Run Unit := do
  let state ← get
  if ¬ state.sent.isEmpty && !state.isCopy then
    let (own, others) := state.sent.partition fun (process, _) => process = state.process
    set { state with sent := others }
    own.reverse.forM fun (_, signal) => receive signal

/-- Runs a step in a shell of its own, which starts out like this one but for a change. The file tree and the text in
pipes are shared, nothing else. The result is how the other shell ended. -/
def apart (change : State → State) (step : Run Unit) : Run Ending := do
  let before ← get
  let (ending, after) : Ending × State :=
    match step { change before with caught := [] } with
    | .ok _ after => (.exited after.status, after)
    | .error (.exit ending) after => (ending, after)
    | .error _ after => (.exited after.status, after)
  let isKept := fun (pipe : Nat × Pipe) =>
    pipe.1 < before.nextPipe || before.streams.any fun (_, stream) =>
      stream = .reads pipe.1 || stream = .writes pipe.1
  set { before with
    workspace := { before.workspace with root := after.workspace.root }
    executables := after.executables
    pipes := after.pipes.filter isKept
    nextPipe := after.nextPipe
    slept := after.slept
    sent := after.sent }
  receiveAll
  return ending

def testing (step : Run Unit) : Run Unit := fun state =>
  within ({ · with tested := true }) ({ · with tested := state.tested }) step state

/-- Assigns a value to a variable; one that is read-only cannot be changed. -/
def assign (name value : Text) : Run Unit := do
  let state ← get
  let old := (state.binding? name).getD {}
  if old.readOnly then fault
  let exported := old.exported || state.has 'a'
  modify fun state => state.bind name { old with value := some value, exported }
  if name = "OPTIND" then
    if value.isEmpty || !value.all isDigit then fault
    let n := value.foldl (fun n b => n * 10 + (b.toNat - 48)) 0
    modify fun state => { state with optionIndex := max n 1, optionOffset := none }

end Run

end QualityGate.Shell
