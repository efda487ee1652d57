import QualityGate.Shell.Builtin.Basic

/-!
Commands that say what the names of commands stand for.
-/

namespace QualityGate.Shell.Builtin

def description (name : Text) : Meaning → Text
  | .keyword => name ++ " is a shell keyword\n"
  | .shorthand text => name ++ " is an alias for " ++ text ++ "\n"
  | .special => name ++ " is a special shell builtin\n"
  | .function => name ++ " is a shell function\n"
  | .ordinary => name ++ " is a shell builtin\n"
  | .program path => name ++ " is " ++ path ++ "\n"
  | .nothing => name ++ ": not found\n"

def replacement (name : Text) : Meaning → Text
  | .shorthand text => "alias " ++ name ++ "=" ++ shellQuoted text ++ "\n"
  | .program path => path ++ "\n"
  | .nothing => []
  | _ => name ++ "\n"

/-- What a name stands for where a path that leads somewhere counts as a program, whether it can be run or not. -/
def meaningOf (state : State) (name : Text) : Meaning :=
  match state.meaning name with
  | .nothing =>
    if name.contains Path.separator && (state.workspace.stat name).isOk then .program name else .nothing
  | meaning => meaning

def describe : Builtin := fun _ arguments => do
  let state ← get
  let meanings := arguments.map fun name => (name, meaningOf state name)
  Run.print (meanings.flatMap fun (name, meaning) => description name meaning)
  Run.setStatus (if meanings.all (·.2 ≠ .nothing) then 0 else 127)

def explain (inWords : Bool) : Builtin := fun _ arguments => do
  match arguments with
  | [] => Run.setStatus 0
  | name :: _ =>
    let meaning := meaningOf (← get) name
    Run.print (if inWords then description name meaning else replacement name meaning)
    Run.setStatus (if meaning = .nothing then 127 else 0)

def hash : Builtin := fun _ arguments => do
  let (_, names) ← optionsOf "r" [] arguments
  let state ← get
  Run.setStatus (if names.all fun name => state.meaning name ≠ .nothing then 0 else 1)

end QualityGate.Shell.Builtin
