import QualityGate.Shell.Builtin.Basic

/-!
Commands that go on elsewhere: they leave the shell, a function or a loop, or run another script.
-/

namespace QualityGate.Shell.Builtin

def exit : Builtin := fun _ arguments => do
  let status ←
    match arguments with
    | [] => do
      let state ← get
      pure (state.statusBefore.getD state.status)
    | n :: _ => numberOrFault n
  throw (.exit (.exited (status % 256)))

def leave : Builtin := fun _ arguments => do
  match arguments with
  | [] => pure ()
  | n :: _ => Run.setStatus ((← numberOrFault n) % 256)
  throw .leaveFunction

def jump (kind : Nat → Jump) : Builtin := fun _ arguments => do
  let levels ←
    match arguments with
    | [] => pure 1
    | n :: _ => numberOrFault n
  if levels = 0 then Run.fault
  Run.setStatus 0
  let loops := (← get).loops
  if loops ≠ 0 then throw (kind (min levels loops))

def evaluate : Builtin := fun runScript arguments => do
  Run.setStatus 0
  runScript (Text.join " " arguments)

def source : Builtin := fun runScript arguments => do
  match ← withoutOptions arguments with
  | [] => Run.setStatus 0
  | name :: _ =>
    let state ← get
    let isReadable := fun (path : Text) => (state.workspace.read path).isOk
    let script := ((state.candidates name).find? isReadable).bind fun path => (state.workspace.read path).toOption
    match script with
    | none => Run.fault
    | some script =>
      Run.setStatus 0
      fun state =>
        match runScript script state with
        | .error .leaveFunction after => .ok () after
        | result => result

end QualityGate.Shell.Builtin
