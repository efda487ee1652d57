import QualityGate.Shell.Builtin
import QualityGate.Shell.Programs
import QualityGate.Shell.Redirecting

/-!
Starting programs. A program is found by its path; a file that is none is run by the program that its first line names, or
by a shell.
-/

namespace QualityGate.Shell

open Text (byte)

structure Runner where
  command : Command → Run Unit
  script : Text → Run Unit
  /-- Runs a script that is part of a word. -/
  part : Text → Run Unit
  /-- Starts what a name stands for and waits for its end; nothing if there is no such program. -/
  start : List Text → Run (Option Ending)

/-! ### Shells of their own -/

/-- Runs a step, and at the end of it what is to be run at the end of the shell. -/
def Runner.ended (runner : Runner) (step : Run Unit) : Run Unit := fun state =>
  let atEnd := fun (status : Nat) (after : State) =>
    match after.traps.lookup 0 with
    | none => EStateM.Result.error (Jump.exit (.exited status)) after
    | some action =>
      let traps := after.traps.filter (·.1 ≠ 0)
      match runner.script action { after with traps, status, loops := 0, tested := false, statusBefore := some status } with
      | .error (.exit ending) last => .error (.exit ending) last
      | .error .fault last => .error (.exit (.exited faultStatus)) last
      | .ok _ last | .error _ last => .error (.exit (.exited status)) last
  match step state with
  | .ok _ after => atEnd after.status after
  | .error (.exit (.exited status)) after => atEnd status after
  | .error (.exit ending) after => .error (.exit ending) after
  | .error _ after => atEnd after.status after

def Runner.separate (runner : Runner) (script : Text) : Run Unit := runner.ended (runner.part script)

def State.nextProcess (state : State) : Nat := state.process + state.jobs.length + 1

/-- The variables that a shell starts out with: those that are handed to it, but for some, and its own. -/
def shellBindings (directory : Text) (parent : Nat) (given : List (Text × Binding)) : List (Text × Binding) :=
  let plain : List (Text × Text) :=
    [("IFS", " \t\n"), ("OPTIND", "1"), ("PATH", Machine.searchPath), ("PS1", "# "), ("PS2", "> "), ("PS4", "+ "),
      ("PPID", Text.ofNat parent)]
  let own : List Text := ["IFS", "OPTIND", "PPID", "PWD"]
  let given := given.filter fun entry => !own.contains entry.1
  let here : Text × Binding := ("PWD", { value := some directory, exported := true })
  let others := plain.filter fun entry => (given.lookup entry.1).isNone
  here :: given ++ others.map fun (name, value) => (name, { value := some value })

/-- A shell that a shell starts: only some variables are handed on. -/
def State.child (state : State) (name : Text) : State :=
  { workspace := state.workspace
    directory := state.directory
    process := state.nextProcess
    parents := state.process :: state.parents
    name
    bindings := shellBindings state.directory state.process (state.bindings.filter fun entry => entry.2.exported && entry.2.value.isSome)
    pipes := state.pipes
    nextPipe := state.nextPipe
    streams := state.streams
    traps := state.traps.filter (·.2.isEmpty)
    sent := state.sent
    slept := state.slept
    mask := state.mask
    executables := state.executables }

/-! ### Shells -/

/-- Runs a shell with arguments: a script among them, or one in a file, or its input. -/
def Runner.shell (runner : Runner) (name : Text) (arguments : List Text) : Run Unit := do
  let after ← Builtin.setOptions true (arguments.length + 1) { rest := arguments }
  let setNames := fun (names : List Text) => modify fun (state : State) =>
    { state with name := names.headD name, arguments := names.tail }
  let readsInput := do runner.script (← Run.takeInput)
  if after.hasScript then
    match after.rest with
    | [] => Run.fault
    | script :: names =>
      setNames names
      runner.script script
      if (← get).has 's' then readsInput
  else if after.rest.isEmpty || (← get).has 's' then
    Builtin.setOption true (byte 's')
    setNames (name :: after.rest)
    readsInput
  else
    setNames after.rest
    match (← get).workspace.read (after.rest.headD []) with
    | .ok script => runner.script script
    | .error fault => if fault ≠ .isDirectory then Run.fault

/-! ### Programs that start others -/

def Runner.handOver (runner : Runner) (words : List Text) : Run Ending := do
  match ← runner.start words with
  | some ending => return ending
  | none => return .exited ((← get).missingStatus (words.headD []))

def withBindingsOf {α : Type} (change : List (Text × Binding) → List (Text × Binding)) (step : Run α) : Run α := do
  let before ← get
  Run.within (fun state => { state with bindings := change state.bindings })
    (fun state => { state with bindings := before.bindings }) step

/-- Starts a program with other variables: all are left out after `-i`, one after `-u`. -/
def Runner.environment (runner : Runner) : Nat → List Text → Run Ending
  | 0, _ => return .exited 125
  | fuel + 1, arguments => do
    match arguments with
    | [] => return .exited (← Programs.showBindings [])
    | first :: rest =>
      if first = "-i" || first = "-" then withBindingsOf (fun _ => []) (runner.environment fuel rest)
      else if first = "-u" then
        match rest with
        | [] => return .exited 125
        | name :: rest => withBindingsOf (·.filter (·.1 ≠ name)) (runner.environment fuel rest)
      else if first = "--" then runner.environment fuel rest
      else if 1 < first.length && first.head? = some (byte '-') then return .exited 125
      else
        let name := first.takeWhile (· ≠ byte '=')
        match first.drop name.length with
        | [] =>
          let usual : Text × Binding := ("PATH", { value := some Machine.searchPath })
          withBindingsOf (fun bindings => if (bindings.lookup usual.1).isSome then bindings else usual :: bindings)
            (runner.handOver arguments)
        | _ :: value =>
          withBindingsOf (fun bindings => (name, { value := some value, exported := true }) :: bindings.filter (·.1 ≠ name))
            (runner.environment fuel rest)

/-- The words of an input for other programs: space separates them, and quotes and backslashes keep it from doing so. -/
def inputWords (quote : Option UInt8) (current : Option Text) : Text → List Text
  | [] => (current.map List.reverse).toList
  | b :: rest =>
    let grown := fun (b : UInt8) => some (b :: current.getD [])
    match quote with
    | some mark =>
      if b = mark then inputWords none current rest
      else if mark = Text.backslash then inputWords none (grown b) rest
      else inputWords quote (grown b) rest
    | none =>
      if b = Text.doubleQuote || b = Text.singleQuote || b = Text.backslash then
        inputWords (some b) (some (current.getD [])) rest
      else if isSpace b || b = byte '\n' then (current.map List.reverse).toList ++ inputWords none none rest
      else inputWords none (grown b) rest

def replaced (part new : Text) : Nat → Text → Text
  | 0, t => t
  | fuel + 1, t =>
    match t with
    | [] => []
    | b :: rest =>
      if ¬ part.isEmpty && Text.startsWith t part then new ++ replaced part new fuel (t.drop part.length)
      else b :: replaced part new fuel rest

def commandsForInput (options : Programs.Arguments) (words : List Text) (input : Text) : List (List Text) :=
  match options.value? 'I' with
  | some mark =>
    let lines := (Programs.linesOf input).map fun line => line.dropWhile isSpace
    (lines.filter (!·.isEmpty)).map fun line => words.map fun word => replaced mark line (word.length + 1) word
  | none =>
    let items := if options.has '0' then Programs.zeroEnded input else inputWords none none input
    match (options.value? 'n').bind number? with
    | some n =>
      (List.range ((items.length + n - 1) / max n 1)).map fun i => words ++ (items.drop (i * n)).take n
    | none => if items.isEmpty && options.has 'r' then [] else [words ++ items]

def Runner.withInputWords (runner : Runner) (arguments : List Text) : Run Ending := do
  let count := Programs.leadingOptions "0rt" "nILPs" arguments
  match Programs.Arguments.read? "0rt" "nILPs" (arguments.take count) with
  | none => return .exited 1
  | some options =>
    let words := arguments.drop count
    let words := if words.isEmpty then [Text.ofString "echo"] else words
    let endings ← (commandsForInput options words (← Run.takeInput)).mapM runner.handOver
    let isMissing := endings.find? fun ending => ending = .exited 126 || ending = .exited 127
    return isMissing.getD (.exited (if endings.contains (.exited 255) then 124 else
      if endings.all (· = .exited 0) then 0 else 123))

def Runner.program (runner : Runner) (name program : Text) (arguments : List Text) : Run Ending := do
  let isOne := fun (names : List String) => names.any fun other => Text.ofString other = program
  if isOne ["bash", "dash", "sh"] then Run.apart (·.child name) (runner.ended (runner.shell name arguments))
  else if isOne ["env"] then runner.environment (arguments.length + 1) arguments
  else if isOne ["nohup"] then if arguments.isEmpty then return .exited 125 else runner.handOver arguments
  else if isOne ["timeout"] then
    match arguments with
    | duration :: words@(_ :: _) =>
      match Programs.duration? duration with
      | none => return .exited 125
      | some bound =>
        let start := (← get).slept
        let ending ← runner.handOver words
        return if 0 < bound && start + bound < (← get).slept then .exited 124 else ending
    | _ => return .exited 125
  else if isOne ["xargs"] then runner.withInputWords arguments
  else return .exited (← Programs.run program arguments)

/-! ### Files -/

def firstLineBound : Nat := 256

/-- The program that runs a script, by its first line, and an argument for it; nothing if the line names none. -/
def interpreter? (script : Text) : Option (List Text) :=
  if ¬ Text.startsWith script "#!" then none
  else
    let line := ((script.take firstLineBound).drop 2).takeWhile (· ≠ byte '\n')
    let line := ((line.dropWhile isSpace).reverse.dropWhile isSpace).reverse
    let path := line.takeWhile (!isSpace ·)
    let argument := (line.drop path.length).dropWhile isSpace
    let path := if path.contains Path.separator then path else "./" ++ path
    if line.isEmpty then none else some (path :: if argument.isEmpty then [] else [argument])

def Runner.file (runner : Runner) (name path : Text) (arguments : List Text) (content : Text) : Run Ending := do
  match Machine.programOf? content with
  | some program => runner.program name program arguments
  | none =>
    match interpreter? content with
    | some words => runner.handOver (words ++ path :: arguments)
    | none => runner.handOver ("/bin/sh" :: path :: arguments)

def Runner.launch (runner : Runner) : List Text → Run (Option Ending)
  | [] => return none
  | name :: arguments => do
    let state ← get
    match state.path? name with
    | none => return none
    | some path =>
      if ¬ Machine.takesArguments (name :: arguments) then return some (.exited 126)
      return some (← runner.file name path arguments ((state.executable? path).getD []))

end QualityGate.Shell
