import QualityGate.Shell.Expansion

/-!
Where the streams of a command lead. The targets of all redirections are worked out first; the streams are then opened one
after the other, up to the first that cannot be.
-/

namespace QualityGate.Shell

open Text (byte)

def Redirection.stream : Redirection → Nat
  | .to stream _ _ => stream
  | .document stream _ => stream

/-- Lets a stream lead where another one leads; whether that one is open. -/
def duplicate (stream source : Nat) : Run Bool := do
  let state ← get
  match state.streams.lookup source with
  | some target =>
    set (state.withStream stream target)
    return true
  | none => return false

def closeStream (stream : Nat) : Run Bool := do
  modify fun state => { state with streams := state.streams.filter (·.1 ≠ stream) }
  return true

def openText (stream : Nat) (t : Text) : Run Bool := do
  modify fun state => (state.withPipe t).withStream stream (.reads state.nextPipe)
  return true

/-- Opens a file to write to. A file that is there is kept if `appends`, and may be overwritten if `forces` or if nothing is
said against it. -/
def openOutput (stream : Nat) (appends forces : Bool) (path : Text) : Run Bool := do
  let state ← get
  match state.workspace.find true path with
  | .error _ => return false
  | .ok target =>
    let location := target.location
    if location = Machine.terminalDevice then return false
    if location = Machine.nullDevice || location = Machine.fullDevice then
      set (state.withStream stream (if location = Machine.nullDevice then .dropped else .refused))
      return true
    match Machine.streamDevices.lookup location with
    | some source => duplicate stream source
    | none =>
      let old := (state.workspace.read path).toOption
      if state.has 'C' && old.isSome && !appends && !forces then return false
      match state.workspace.write path (if appends then old.getD [] else []) with
      | .error _ => return false
      | .ok workspace =>
        set ({ state with workspace }.withStream stream (.appends location))
        return true

/-- Opens a file to read from. A directory can be opened, but gives nothing. -/
def openInput (stream : Nat) (path : Text) : Run Bool := do
  let state ← get
  match state.workspace.find true path with
  | .error _ => return false
  | .ok target =>
    if target.location = Machine.terminalDevice then return false
    match Machine.streamDevices.lookup target.location with
    | some source => duplicate stream source
    | none =>
      match state.workspace.read path with
      | .ok t => openText stream t
      | .error fault =>
        if fault ≠ .isDirectory then return false
        set (state.withStream stream .refused)
        return true

/-- Opens a file to read from or to write to, which is made if it is not there. -/
def openBoth (stream : Nat) (path : Text) : Run Bool := do
  if ← openOutput stream true true path then
    if stream = 0 then openInput stream path else return true
  else return false

/-- What a redirection will do, once its target is known: it opens a stream, or fails. -/
def planned (runScript : Text → Run Unit) : Redirection → Run (Run Bool)
  | .document stream content => return do openText stream (← expandText runScript content)
  | .to stream operator target => do
    let target ← expandText runScript target
    if operator = "<&" || operator = ">&" then
      if target = "-" then return closeStream stream
      match target with
      | [digit] => if isDigit digit then return duplicate stream (digit.toNat - 48) else Run.fault
      | _ => Run.fault
    else if operator = "<" then return openInput stream target
    else if operator = "<>" then return openBoth stream target
    else return openOutput stream (operator = ">>") (operator = ">|") target

/-- Opens streams up to the first that cannot be opened; whether there is none. -/
def openAll : List (Run Bool) → Run Bool
  | [] => return true
  | first :: rest => fun state =>
    match first state with
    | .ok true after => openAll rest after
    | .error .fault after => .ok false after
    | result => result

/-- A state whose streams lead where they did before, as far as redirections are about them. -/
def State.withStreamsOf (before : State) (redirections : List Redirection) (after : State) : State :=
  let touched := redirections.map Redirection.stream
  let streams := before.streams.filter (touched.contains ·.1) ++ after.streams.filter (!touched.contains ·.1)
  let isKept := fun (pipe : Nat × Pipe) =>
    pipe.1 < before.nextPipe || streams.any fun (_, stream) => stream = .reads pipe.1 || stream = .writes pipe.1
  { after with streams, pipes := after.pipes.filter isKept }

/-- Runs a step with redirections, or another one if they cannot be made. -/
def redirected (runScript : Text → Run Unit) (redirections : List Redirection) (refused step : Run Unit) : Run Unit := do
  if redirections.isEmpty then step
  else
    let openings ← redirections.mapM (planned runScript)
    let before ← get
    Run.within id (before.withStreamsOf redirections) do if ← openAll openings then step else refused

end QualityGate.Shell
