import QualityGate.Shell.Starting

/-!
How commands are run and how they end. Commands contain scripts, in expansions for instance, and scripts contain commands,
so a runner of one depth is made from that of the depth below.
-/

namespace QualityGate.Shell

open Text (byte)

/-! ### Words -/

def Word.assignment? : Word → Option (Text × Word)
  | .plain t :: rest => (Builtin.assignment? t).map fun (name, value) => (name, .plain value :: rest)
  | _ => none

/-- What follows `command` and its options; nothing if that is not a command to be run. -/
def behindCommand? : List Text → Option (List Text)
  | [] => none
  | first :: rest =>
    if first = "--" then if rest.isEmpty then none else some rest
    else if 1 < first.length && first.head? = some (byte '-') then
      if first.tail.all (· = byte 'p') then behindCommand? rest else none
    else some (first :: rest)

/-- Whether the arguments of a command can be assignments, as far as its first words tell. Functions count unless it stands
behind `command`. -/
def State.declares? (state : State) : Nat → Bool → List Text → Option Bool
  | 0, _, _ => none
  | fuel + 1, hasFunctions, words =>
    match words with
    | [] => none
    | name :: rest =>
      if hasFunctions && !isSpecialName name && (state.functions.lookup name).isSome then some false
      else if name = "command" then (behindCommand? rest).bind (state.declares? fuel false ·)
      else some (takesAssignments name)

/-- The fields that the words of a command stand for. `declares` says whether they can be assignments, once that is
known. -/
def Runner.fields (runner : Runner) (declares : Option Bool) (done : List (List Text)) : List Word → Run (List Text)
  | [] => return done.reverse.flatten
  | word :: rest => do
    let assignment := if declares = some true then Word.assignment? word else none
    let fields ←
      match assignment with
      | some (name, value) => do pure [name ++ "=" ++ (← expandValue runner.separate value)]
      | none => expand runner.separate word
    let done := fields :: done
    let state ← get
    let declares := declares.orElse fun _ => state.declares? (done.length + 1) true done.reverse.flatten
    runner.fields declares done rest

/-! ### Simple commands -/

/-- Runs a step with changes that are undone afterwards, unless the shell ends. -/
def Run.undoing (undo : State → State) (step : Run Unit) : Run Unit := fun state =>
  match step state with
  | .ok _ after => .ok () (undo after)
  | .error (.exit ending) after => .error (.exit ending) after
  | .error jump after => .error jump (undo after)

def withBindings (assignments : List (Text × Text)) (step : Run Unit) : Run Unit := do
  if assignments.isEmpty then step
  else
    let before ← get
    assignments.forM fun (name, value) => do
      Run.assign name value
      modify fun state => state.bind name { value := some value, exported := true }
    Run.undoing (fun after => assignments.foldl (fun state (name, _) => state.rebind name (before.binding? name)) after) step

def callBound : Nat := 1000

def Runner.call (runner : Runner) (body : Command) (arguments : List Text) : Run Unit := do
  let before ← get
  if callBound ≤ before.calls then Run.fault
  let unhide := fun (after : State) =>
    { after.hidden.foldl (fun state (name, binding) => state.rebind name binding) after with
      letters := after.hiddenLetters.getD after.letters }
  let leave := fun (after : State) =>
    { after with
      arguments := before.arguments
      hidden := before.hidden
      hiddenLetters := before.hiddenLetters
      loops := before.loops
      calls := before.calls
      optionIndex := before.optionIndex
      optionOffset := before.optionOffset }
  Run.within
    (fun state =>
      { state with
        arguments, hidden := [], hiddenLetters := none, loops := 0, calls := state.calls + 1
        optionIndex := 1, optionOffset := none })
    leave
    (Run.undoing unhide fun state =>
      match runner.command body state with
      | .error .leaveFunction after => .ok () after
      | result => result)

/-- Runs a command that the shell has itself. Output that is not taken makes it fail. -/
def Runner.own (runner : Runner) (builtin : Builtin) (arguments : List Text) : Run Unit := do
  modify fun state => { state with lost := false }
  builtin runner.script arguments
  modify fun state => { state with lost := false, status := if state.lost then state.status ||| 1 else state.status }

def Runner.replace (runner : Runner) (words : List Text) : Run Unit := do
  match words with
  | [] => Run.setStatus 0
  | name :: _ =>
    match ← runner.start words with
    | some ending =>
      modify fun state => { state with traps := [] }
      throw (.exit ending)
    | none => throw (.exit (.exited ((← get).missingStatus name)))

def Runner.external (runner : Runner) (words : List Text) : Run Unit := do
  Run.setStatus (← runner.handOver words).status

/-- What a command without functions stands for: one of the shell's own, or a program. -/
def Runner.plain (runner : Runner) (name : Text) (arguments : List Text) : Run Unit :=
  if name = "exec" then runner.replace arguments
  else
    match builtin? name with
    | some builtin => runner.own builtin arguments
    | none => runner.external (name :: arguments)

def Runner.plainAnywhere (runner : Runner) (name : Text) (arguments : List Text) : Run Unit := do
  let usual := (← get).bind "PATH" { value := some Machine.searchPath }
  runner.plain (if isBuiltinName name then name else (usual.path? name).getD name) arguments

def describeCommand : Builtin := fun runScript arguments => do
  let (letters, rest) ← optionsOf "pvV" [] arguments
  if letters.contains (byte 'v') || letters.contains (byte 'V') then
    Builtin.explain (letters.contains (byte 'V')) runScript rest
  else Run.setStatus 0

/-- Runs a command behind any number of `command`: functions do not count, and what goes wrong is only a failure. -/
def Runner.behind (runner : Runner) : Nat → List Text → Run Unit
  | 0, _ => Run.setStatus 0
  | fuel + 1, arguments =>
    match behindCommand? arguments with
    | none => Run.heldUp (runner.own describeCommand arguments)
    | some [] => Run.setStatus 0
    | some (name :: rest) =>
      if name = "command" then runner.behind fuel rest
      else
        let isAnywhere := arguments.head?.any fun t => Text.startsWith t "-p"
        Run.heldUp (if isAnywhere then runner.plainAnywhere name rest else runner.plain name rest)

def Runner.words (runner : Runner) (name : Text) (arguments : List Text) : Run Unit := do
  if isSpecialName name then runner.plain name arguments
  else
    match (← get).functions.lookup name with
    | some body => runner.call body arguments
    | none =>
      if name = "command" then runner.behind (arguments.length + 1) arguments
      else Run.heldUp (runner.plain name arguments)

def staysRedirected (name : Text) (arguments : List Text) : Bool :=
  if name = "command" then behindCommand? arguments = some [Text.ofString "exec"] else name = "exec" && arguments.isEmpty

def Runner.simple (runner : Runner) (words : List Word) (redirections : List Redirection) : Run Unit := do
  modify fun state => { state with substituted := 0 }
  let assigning := words.filterMap Word.assignment? |>.take (words.takeWhile fun word => (Word.assignment? word).isSome).length
  let fields ← runner.fields none [] (words.drop assigning.length)
  let assignAll := assigning.forM fun (name, value) => do Run.assign name (← expandValue runner.separate value)
  let failed := Run.setStatus faultStatus
  match fields with
  | [] =>
    redirected runner.separate redirections failed do
      assignAll
      Run.setStatus (← get).substituted
  | name :: arguments =>
    let isSpecial := isSpecialName name
    let refused := if isSpecial then Run.fault else failed
    let step := do
      if isSpecial then
        assignAll
        runner.words name arguments
      else
        let assignments ← assigning.mapM fun (name, value) => return (name, ← expandValue runner.separate value)
        withBindings assignments (runner.words name arguments)
    if staysRedirected name arguments then
      let openings ← redirections.mapM (planned runner.separate)
      if ← openAll openings then step else refused
    else redirected runner.separate redirections refused step

/-! ### Commands in shells of their own -/

def Runner.besides (runner : Runner) (change : State → State) (command : Command) : Run Ending :=
  Run.apart (fun state => change state.copy) (runner.ended (runner.command command))

/-- Runs the commands of a pipeline, each of which reads what the one before it wrote. -/
def Runner.pipeline (runner : Runner) : List Command → Run Unit
  | [] => pure ()
  | [last] => do Run.setStatus (← runner.besides id last).status
  | first :: rest => do
    let before ← get
    let pipe := before.nextPipe
    set (before.withPipe [])
    let _ ← runner.besides (·.withStream 1 (.writes pipe)) first
    modify (·.withStream 0 (.reads pipe))
    runner.pipeline rest
    modify fun state => { state.withoutPipe pipe with streams := before.streams }

/-- Runs a command in the background, which here is over at once. -/
def Runner.background (runner : Runner) (command : Command) : Run Unit := do
  let state ← get
  let number := state.nextProcess
  let ending ← runner.besides
    (fun state => { (state.withPipe []).withStream 0 (.reads state.nextPipe) with tested := false }) command
  modify fun after =>
    { after with jobs := (number, ending) :: after.jobs, lastJob := some number, status := 0, slept := state.slept }

/-! ### Compound commands -/

inductive Round where
  | done
  | skipped
  | left
  deriving DecidableEq, Repr

def Run.round (step : Run Unit) : Run Round := fun state =>
  match step { state with loops := state.loops + 1 } with
  | .ok _ after => .ok .done { after with loops := state.loops }
  | .error jump after =>
    let after := { after with loops := state.loops }
    match jump with
    | .leaveLoops levels => if levels ≤ 1 then .ok .left after else .error (.leaveLoops (levels - 1)) after
    | .nextRound levels => if levels ≤ 1 then .ok .skipped after else .error (.nextRound (levels - 1)) after
    | jump => .error jump after

def roundBound : Nat := 10000000

/-- Runs a loop; the status is that of the last round. -/
def Runner.loop (runner : Runner) (untilSuccess : Bool) (test body : Command) : Nat → Nat → Run Unit
  | 0, status => Run.setStatus status
  | fuel + 1, status => do
    match ← Run.round (Run.testing (runner.command test)) with
    | .left => Run.setStatus status
    | .skipped => runner.loop untilSuccess test body fuel status
    | .done =>
      let state ← get
      if state.isIdle then pure ()
      else if (state.status = 0) == untilSuccess then Run.setStatus status
      else if (← Run.round (runner.command body)) = .left then Run.setStatus (← get).status
      else runner.loop untilSuccess test body fuel (← get).status

def Runner.each (runner : Runner) (name : Text) (body : Command) : List Text → Run Unit
  | [] => pure ()
  | value :: rest => do
    Run.assign name value
    if (← Run.round (runner.command body)) = .left then pure () else runner.each name body rest

/-- Runs the first of several arms with a pattern that matches a text. -/
def Runner.select (runner : Runner) (t : Text) : List (List Word × Command) → Run Unit
  | [] => Run.setStatus 0
  | (patterns, body) :: rest => do
    let isChosen ← patterns.anyM fun pattern => do
      return matchesPattern (← expandMarked runner.separate pattern) t
    if isChosen then runner.command body else runner.select t rest

def Runner.sequence (runner : Runner) : List Command → Run Unit
  | [] => Run.setStatus 0
  | [last] => runner.command last
  | first :: rest => do
    runner.command first
    runner.sequence rest

def Run.check : Run Unit := do
  let state ← get
  if state.stopsOnFailure && !state.tested && state.status ≠ 0 then throw (.exit (.exited state.status))

/-- Runs what is to be run on the signals that were caught, the earliest first. -/
def Runner.handle (runner : Runner) : Run Unit := do
  let before ← get
  if ¬ before.caught.isEmpty then
    Run.within
      (fun state => { state with caught := [], statusBefore := some (before.statusBefore.getD before.status) })
      (fun state => { state with statusBefore := before.statusBefore })
      (before.caught.reverse.forM fun signal => do
        match (← get).traps.lookup signal with
        | some action =>
          runner.script action
          Run.setStatus before.status
        | none => pure ())

/-- Runs a command, whatever its status may mean. -/
def Runner.perform (runner : Runner) : Command → Run Unit
  | .simple words => runner.simple words []
  | .redirected (.simple words) redirections => runner.simple words redirections
  | .redirected command redirections => do
    let refused := do
      Run.setStatus faultStatus
      Run.check
    redirected runner.separate redirections refused (runner.command command)
  | .pipeline commands => runner.pipeline commands
  | .subshell body => do Run.setStatus (← runner.besides id body).status
  | .negated command => do
    Run.testing (runner.command command)
    Run.setStatus (if (← get).status = 0 then 1 else 0)
  | .both first second => do
    Run.testing (runner.command first)
    if (← get).status = 0 then runner.command second
  | .either first second => do
    Run.testing (runner.command first)
    if (← get).status ≠ 0 then runner.command second
  | .background command => runner.background command
  | .sequence commands => runner.sequence commands
  | .branch test body otherwise => do
    Run.testing (runner.command test)
    if (← get).status = 0 then runner.command body else runner.command otherwise
  | .loop untilSuccess test body => runner.loop untilSuccess test body roundBound 0
  | .each name words body => do
    let values ←
      match words with
      | some words => expandAll runner.separate words
      | none => pure (← get).arguments
    if values.isEmpty then Run.setStatus 0 else runner.each name body values
  | .select word arms => do
    let t ← expandText runner.separate word
    runner.select t arms
  | .define name body =>
    modify fun state => { state with functions := (name, body) :: state.functions.filter (·.1 ≠ name), status := 0 }

def Command.isChecked : Command → Bool
  | .simple _ | .pipeline _ | .subshell _ => true
  | .redirected command _ => command.isChecked
  | _ => false

def Runner.step (runner : Runner) (command : Command) : Run Unit := do
  if (← get).isIdle then pure ()
  else
    runner.perform command
    runner.handle
    if command.isChecked then Run.check

def Runner.lines (runner : Runner) : Nat → List Lexeme → Run Unit
  | 0, _ => pure ()
  | fuel + 1, lexemes => do
    if (skipLines lexemes).isEmpty then pure ()
    else
      let aliases := (← get).aliases.map fun (name, text) => (name, Alias.ofText text)
      match Shell.readLine aliases (fuel + 1) lexemes with
      | none => Run.fault
      | some (command, rest) =>
        runner.command command
        runner.lines fuel rest

/-- Runs a script that is part of a word; it has been looked at together with the word. -/
def Runner.inner (runner : Runner) (script : Text) : Run Unit :=
  let lexemes := lexemes script
  runner.lines (lexemes.length + 1) lexemes

def Runner.text (runner : Runner) (script : Text) : Run Unit :=
  let lexemes := withSoundScripts wordDepth (lexemes script)
  runner.lines (lexemes.length + 1) lexemes

/-- What happens where commands go too deep: the shell runs out of room and is killed. -/
def tooDeep {α : Type} : Run α := throw (.exit (.killed 11))

def Runner.ofDepth : Nat → Runner
  | 0 => ⟨fun _ => tooDeep, fun _ => tooDeep, fun _ => tooDeep, fun _ => tooDeep⟩
  | depth + 1 =>
    ⟨fun command => (ofDepth depth).step command, fun script => (ofDepth depth).text script,
      fun script => (ofDepth depth).inner script, fun words => (ofDepth depth).launch words⟩

def commandDepth : Nat := 20000

/-! ### Commands from outside -/

def outerProcess : Nat := 4000

def environment (workspace : Workspace) : List (Text × Binding) :=
  let exported := fun (value : Text) => ({ value := some value, exported := true } : Binding)
  [("HOME", exported "/root"), ("PATH", exported Machine.searchPath), ("PWD", exported workspace.path)]

def machine (workspace : Workspace) : Workspace := { workspace with root := Machine.around workspace.root }

/-- How a command ends in a workspace, and the workspace afterwards; nothing if there is no such program. -/
def execute (workspace : Workspace) (command : List Text) : Option (Ending × Workspace) :=
  let state : State :=
    { workspace := machine workspace
      directory := workspace.path
      process := outerProcess
      bindings := environment workspace }
  match (Runner.ofDepth commandDepth).start command state with
  | .ok (some ending) after =>
    some (ending, { workspace with root := Machine.apartFrom workspace.root after.workspace.root })
  | _ => none

end QualityGate.Shell
